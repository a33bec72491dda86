/-!
# Positions in a source text

Lines and columns count from one; a line feed alone ends a line, and columns count characters.
-/

namespace Storefront.Text

/-- A place in a source text. -/
structure Position where
  line : Nat
  column : Nat
deriving DecidableEq, Repr

namespace Position

/-- The place of the first character. -/
def start : Position := ⟨1, 1⟩

/-- The place after `c`, when `c` stands at `p`. -/
def next (p : Position) (c : Char) : Position :=
  if c = '\n' then ⟨p.line + 1, 1⟩ else ⟨p.line, p.column + 1⟩

/-- The place after the text `s` that starts at `p`. -/
def after (p : Position) (s : List Char) : Position :=
  s.foldl next p

end Position

/-- The number of bytes of a text. -/
def byteSize (s : List Char) : Nat :=
  s.foldl (fun n c => n + c.utf8Size) 0

/-- The lines of `s`, of which the characters before `s` in reverse order are already read. -/
def linesFrom (read : List Char) : List Char → List (List Char)
  | [] => if read.isEmpty then [] else [read.reverse]
  | c :: rest =>
    if c = '\n' then
      (match read with
        | '\r' :: line => line
        | line => line).reverse :: linesFrom [] rest
    else linesFrom (c :: read) rest

/-- The lines of a text. A line feed, alone or after a carriage return, ends a line; no line is
left after the last of them. -/
def lines (s : List Char) : List (List Char) :=
  linesFrom [] s

end Storefront.Text
