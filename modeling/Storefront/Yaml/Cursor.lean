import Storefront.Text.Blank
import Storefront.Text.Position

/-!
# Reading lines of YAML

A cursor is a place in a YAML text: what is left to read, how many bytes stand in front of it, and
its line and column, both counted from zero, the column in characters. Besides the usual line
breaks, three characters of Unicode end a line; all but two of these breaks are read as a line
feed.
-/

namespace Storefront.Yaml

/-- Space or tab. -/
def isBlank (c : Char) : Bool := Text.isInline c

/-- A line break. -/
def isBreak (c : Char) : Bool :=
  c == '\n' || c == '\r' || c.toNat == 0x85 || c.toNat == 0x2028 || c.toNat == 0x2029

/-- Whether a blank, a break or the end of the text comes first. -/
def endsWord : List Char → Bool
  | [] => true
  | c :: _ => isBlank c || isBreak c

/-- Whether a break or the end of the text comes first. -/
def endsLine : List Char → Bool
  | [] => true
  | c :: _ => isBreak c

/-- The characters of anchors and tag handles. -/
def isWordChar (c : Char) : Bool :=
  c.isAlphanum || c == '_' || c == '-'

/-- The characters that a YAML text may contain. -/
def isAllowed (c : Char) : Bool :=
  let n := c.toNat
  n == 0x09 || n == 0x0A || n == 0x0D || (0x20 ≤ n && n ≤ 0x7E) || n == 0x85 ||
    (0xA0 ≤ n && n ≤ 0xD7FF) || (0xE000 ≤ n && n ≤ 0xFFFD) || 0x10000 ≤ n

structure Cursor where
  rest : List Char
  index : Nat := 0
  line : Nat := 0
  column : Nat := 0

namespace Cursor

/-- Takes `n` characters of the current line. -/
def skip (c : Cursor) (n : Nat) : Cursor :=
  { c with
    rest := c.rest.drop n
    index := c.index + Text.byteSize (c.rest.take n)
    column := c.column + n }

/-- Takes the characters of the current line that satisfy `p`. -/
def skipWhile (c : Cursor) (p : Char → Bool) : Cursor :=
  c.skip (c.rest.takeWhile p).length

/-- Takes a line break, with the text that it stands for. -/
def skipLine (c : Cursor) : List Char × Cursor :=
  let after (n : Nat) : Cursor :=
    { c.skip n with line := c.line + 1, column := 0 }
  match c.rest with
  | '\r' :: '\n' :: _ => (['\n'], after 2)
  | d :: _ =>
    if d.toNat == 0x2028 || d.toNat == 0x2029 then ([d], after 1)
    else if isBreak d then (['\n'], after 1)
    else ([], c)
  | [] => ([], c)

/-- Whether three equal characters at the start of a line, and nothing else in their word, mark
the border of a document. -/
def atMark (c : Cursor) (mark : Char) : Bool :=
  c.column == 0 && c.rest.take 3 == [mark, mark, mark] && endsWord (c.rest.drop 3)

/-- Whether the border of a document is next. -/
def atBorder (c : Cursor) : Bool :=
  c.atMark '-' || c.atMark '.'

/-- The next character satisfies `p`. -/
def sees (c : Cursor) (p : Char → Bool) : Bool :=
  c.rest.head?.any p

end Cursor

end Storefront.Yaml
