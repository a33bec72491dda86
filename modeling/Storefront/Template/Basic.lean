import Storefront.Json.Value
import Storefront.Text.Position

/-!
# Templates

A template is a list of elements: text, tags that write a value, blocks, decorators and calls of
other templates. A call of another template is a *part*; a part in block form carries content that
the other template may place.
-/

namespace Storefront

/-- Where the look-up of a path starts. -/
inductive Path.Origin where
  /-- The data of the whole run. -/
  | root
  /-- The value of the scope that many levels up. -/
  | outer (levels : Nat)
  /-- A local variable of the scope that many levels up. -/
  | variable (levels : Nat) (name : String)
deriving DecidableEq, Repr

/-- A path into the data as it was read. -/
structure Path where
  /-- Its text in the source. -/
  text : String
  /-- Whether it names the root data. -/
  fromRoot : Bool
  /-- Whether its first key is marked as a local variable. -/
  isMarked : Bool
  /-- How many levels it goes up. -/
  levels : Nat
  keys : List String
deriving DecidableEq, Repr

/-- The start of the look-up. The root stands before a mark and levels, and a mark without a key
marks nothing. -/
def Path.origin (p : Path) : Path.Origin :=
  if p.fromRoot then .root
  else if p.isMarked then
    match p.keys with
    | name :: _ => .variable p.levels name
    | [] => .outer 0
  else .outer p.levels

/-- What a tag or one of its parameters says. -/
inductive Expr where
  /-- A bare name, which is never looked up in the data. -/
  | name (text : String)
  | path (p : Path)
  | literal (v : Json.Value)
  /-- A call with positional parameters and named ones, the latter in the order of their names. -/
  | call (callee : Expr) (params : List Expr) (hash : List (String × Expr))

/-- One parameter of a call, positional or named. -/
inductive Argument where
  | positional (e : Expr)
  | named (name : String) (e : Expr)

/-- The call of `callee` with the given arguments; of two arguments with one name the later
counts. -/
def Expr.ofArguments (callee : Expr) (arguments : List Argument) : Expr :=
  .call callee
    (arguments.filterMap fun a => match a with
      | .positional e => some e
      | .named _ _ => none)
    (Table.ofList (arguments.filterMap fun a => match a with
      | .positional _ => none
      | .named key e => some (key, e)))

/-- The names that a block gives to the values of its rounds. -/
inductive BlockNames where
  | none
  | one (name : String)
  | two (first second : String)
deriving DecidableEq, Repr

/-- The place of a tag among the lines of the source. -/
structure Placement where
  /-- Where the tag starts; a chained else has no place of its own. -/
  position : Option Text.Position
  /-- Whether the tag stands alone on its line and keeps what is before it. -/
  standalone : Bool
  /-- The spaces and tabs in front of the tag that a part takes over. -/
  indent : Option (List Char)
deriving DecidableEq, Repr

/-- One element of a template. -/
inductive Element where
  | text (s : List Char)
  /-- A tag that writes a value, escaped or as it is. -/
  | value (place : Placement) (escaped : Bool) (call : Expr)
  | block (place : Placement) (call : Expr) (names : BlockNames) (body inverse : List Element)
  | decorator (place : Placement) (call : Expr)
  | decoratorBlock (place : Placement) (call : Expr) (body : List Element)
  | part (place : Placement) (call : Expr)
  | partBlock (place : Placement) (call : Expr) (body : List Element)

/-- A compiled template. -/
abbrev Template := List Element

namespace Expr

/-- The callee of a call; any other expression calls itself. -/
def callee : Expr → Expr
  | call f _ _ => f
  | e => e

def params : Expr → List Expr
  | call _ ps _ => ps
  | _ => []

def hash : Expr → List (String × Expr)
  | call _ _ h => h
  | _ => []

/-- Whether a call has neither parameters nor named ones. -/
def isBare (e : Expr) : Bool :=
  e.params.isEmpty && e.hash.isEmpty

end Expr

/-- The place of an element in the source. -/
def Element.position : Element → Option Text.Position
  | text _ => none
  | value p _ _ => p.position
  | block p _ _ _ _ => p.position
  | decorator p _ => p.position
  | decoratorBlock p _ _ => p.position
  | part p _ => p.position
  | partBlock p _ _ => p.position

end Storefront
