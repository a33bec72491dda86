import Storefront.Text.Blank

/-!
# The page being written

A part takes over the indentation of the tag that calls it: every line that is written inside
starts with the spaces and tabs in front of the tag. `Page.write` is the writing of text and values,
which keeps that rule; `Page.put` writes as it is.
-/

namespace Storefront.Render

open Text (isBreak)

structure Page where
  text : String := ""
  /-- What every line starts with. -/
  indent : Option (List Char) := none
  /-- The next text starts a line that has not been indented. -/
  pending : Bool := false
  /-- The last text ended its line. -/
  lineEnded : Bool := false
  /-- Something was written. -/
  produced : Bool := false
deriving DecidableEq, Repr

namespace Page

/-- A text with `indent` behind each line break that is not its end. -/
def indented (indent : List Char) : List Char → List Char
  | [] => []
  | c :: rest =>
    if c = '\n' ∧ rest ≠ [] then c :: (indent ++ indented indent rest)
    else c :: indented indent rest

/-- Writes a text as it is. -/
def put (p : Page) (s : List Char) : Page :=
  { p with text := p.text ++ String.ofList s }

/-- Writes a text at the current indentation. -/
def write (p : Page) (s : List Char) : Page :=
  if s.isEmpty then p
  else
    let indent := p.indent.getD []
    let lead := if p.pending && !s.head?.any isBreak then indent else []
    let ends := s.getLast?.any isBreak
    { p with
      text := p.text ++ String.ofList (lead ++ indented indent s)
      produced := true
      pending := ends
      lineEnded := ends }

/-- The page at the start of a helper's output; `standalone` tells whether the tag stands alone. -/
def enterHelper (p : Page) (standalone : Bool) : Page :=
  { p with produced := false, pending := p.pending || (standalone && p.lineEnded) }

/-- The page at the start of a part. -/
def enterPart (p : Page) (standalone : Bool) (indent : Option (List Char)) : Page :=
  { p with
    produced := false
    pending := standalone && (p.lineEnded || indent.isSome) }

/-- The indentation inside a part: the tag's own behind the one outside. -/
def innerIndent (p : Page) (indent : Option (List Char)) : Option (List Char) :=
  match p.indent, indent with
  | none, own => own
  | outer, none => outer
  | some outer, some own => some (outer ++ own)

/-- The page after a helper or a part that started from `before`. -/
def leave (p before : Page) : Page :=
  if p.produced then { p with pending := p.lineEnded }
  else { p with produced := before.produced, pending := before.pending }

end Page

end Storefront.Render
