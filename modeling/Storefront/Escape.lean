import Storefront.Dialect

/-!
# Escaping output

An output tag writes the characters that could leave a text or an attribute of a page as
entities. Both dialects escape the same six characters; v4 escapes the equals sign as well.
-/

namespace Storefront

/-- The entity of a character that both dialects escape. -/
def entity? : Char → Option (List Char)
  | '&' => some "&amp;".toList
  | '<' => some "&lt;".toList
  | '>' => some "&gt;".toList
  | '"' => some "&quot;".toList
  | '\'' => some "&#x27;".toList
  | '\x60' => some "&#x60;".toList
  | _ => none

/-- How a dialect writes one character of an output. -/
def Dialect.escapeChar (d : Dialect) (c : Char) : List Char :=
  match entity? c with
  | some entity => entity
  | none => if c = '=' ∧ d = .v4 then "&#x3D;".toList else [c]

/-- How a dialect writes an output. -/
def Dialect.escape (d : Dialect) (s : List Char) : List Char :=
  s.flatMap d.escapeChar

end Storefront
