/-!
# White space

`isBlank` is the Unicode property White_Space, which decides what is trimmed around a dialect tag,
what a `~` strips from the text beside it and what may stand around the colons of an artifact's
markers. Data formats have narrower classes of their own: `isJsonBlank` for JSON and for the inside
of template tags, `isInline` for the spaces and tabs of one line.
-/

namespace Storefront.Text

/-- The characters with the Unicode property White_Space. -/
def isBlank (c : Char) : Bool :=
  let n := c.toNat
  (0x09 ≤ n && n ≤ 0x0D) || n == 0x20 || n == 0x85 || n == 0xA0 || n == 0x1680 ||
    (0x2000 ≤ n && n ≤ 0x200A) || n == 0x2028 || n == 0x2029 || n == 0x202F || n == 0x205F ||
    n == 0x3000

/-- Space, tab, line feed and carriage return. -/
def isJsonBlank (c : Char) : Bool :=
  c == ' ' || c == '\t' || c == '\n' || c == '\r'

/-- Space and tab. -/
def isInline (c : Char) : Bool :=
  c == ' ' || c == '\t'

/-- Line feed and carriage return. -/
def isBreak (c : Char) : Bool :=
  c == '\n' || c == '\r'

/-- `s` without the longest tail of characters that satisfy `p`. -/
def dropEndWhile (p : Char → Bool) (s : List Char) : List Char :=
  (s.reverse.dropWhile p).reverse

def trimStart (s : List Char) : List Char :=
  s.dropWhile isBlank

def trimEnd (s : List Char) : List Char :=
  dropEndWhile isBlank s

def trim (s : List Char) : List Char :=
  trimEnd (trimStart s)

end Storefront.Text
