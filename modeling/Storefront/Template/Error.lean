import Storefront.Text.Quoted
import Storefront.Text.Position
import Storefront.Template.Basic

/-!
# Why a source does not compile

A mismatched closing tag is reported with the lines around it and a mark under the column where it
starts.
-/

namespace Storefront.Template

/-- The reasons for which a source is refused. -/
inductive CompileError where
  | malformed
  | invalidParameter (text : String)
  /-- A closing tag with another name; `kind` is the word for the block. -/
  | mismatch (kind opened closing : String) (position : Text.Position) (source : List Char)
  /-- Decorator tags in a dialect that has none. -/
  | decoratorTag (isBlock : Bool)
deriving DecidableEq, Repr

namespace CompileError

/-- A number, right-aligned in four places. -/
def aligned (n : Nat) : String :=
  let digits := toString n
  String.ofList (List.replicate (4 - digits.length) ' ') ++ digits

/-- The mark under a line: one character for each of its bytes, a caret at the column. -/
def mark (line : List Char) (column : Nat) : String :=
  String.ofList ((List.range (Text.byteSize line)).map fun i => if i = column then '^' else '-')

/-- The lines around a position, the one that holds it marked. -/
def excerpt (source : List Char) (p : Text.Position) : String :=
  let numbered := (List.range (Text.lines source).length).zip (Text.lines source)
  let near := numbered.filter fun l => p.line - 3 ≤ l.1 && l.1 ≤ p.line + 3
  String.join (near.map fun l =>
    aligned l.1 ++ " | " ++ String.ofList l.2 ++ "\n" ++
      (if l.1 + 1 = p.line then "     |" ++ mark l.2 p.column ++ "\n" else ""))

def message : CompileError → String
  | malformed => "Template error: invalid handlebars syntax"
  | invalidParameter text => "invalid parameter " ++ Text.quote text
  | mismatch kind opened closing p source =>
    let reason := kind ++ " " ++ Text.quote opened ++ " was opened, but " ++ Text.quote closing ++
      " is closing"
    "Template error: " ++ reason ++ "\n    --> Template error in \"Unnamed\":" ++
      toString p.line ++ ":" ++ toString p.column ++ "\n     |\n" ++ excerpt source p ++
      "     |\n     = reason: " ++ reason ++ "\n"
  | decoratorTag isBlock =>
    let mark := if isBlock then "#*" else "*"
    "decorator syntax '\x7b\x7b" ++ mark ++ " ...\x7d\x7d' requires the v4 engine"

end CompileError

end Storefront.Template
