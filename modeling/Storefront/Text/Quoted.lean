import Storefront.Text.Printable

/-!
# Quoted texts in messages

A text that a message shows stands between double quotes; the quote, the backslash and the usual
controls have short escapes, and every other character that is not shown as itself is written as
its code point in braces.
-/

namespace Storefront.Text

/-- The digit of `n % 16`, in lower case. -/
def hexDigit (n : Nat) : Char :=
  if n % 16 < 10 then Char.ofNat (48 + n % 16) else Char.ofNat (87 + n % 16)

/-- The hexadecimal digits of a code point, without leading zeros. -/
def hexDigits (n : Nat) : List Char :=
  let all := [n / 0x100000, n / 0x10000, n / 0x1000, n / 0x100, n / 0x10].map hexDigit
  all.dropWhile (· == '0') ++ [hexDigit n]

/-- How one character stands inside a quoted text. -/
def quoteChar (c : Char) : List Char :=
  if c = '"' then ['\\', '"']
  else if c = '\\' then ['\\', '\\']
  else if c = '\n' then ['\\', 'n']
  else if c = '\r' then ['\\', 'r']
  else if c = '\t' then ['\\', 't']
  else if c = '\x00' then ['\\', '0']
  else if isShown c then [c]
  else ['\\', 'u', '{'] ++ hexDigits c.toNat ++ ['}']

/-- `s` as a message shows it. -/
def quote (s : String) : String :=
  String.ofList ('"' :: s.toList.flatMap quoteChar ++ ['"'])

/-- A name and its fields in braces. -/
def record (name : String) (fields : List (String × String)) : String :=
  name ++ " \x7b " ++ String.intercalate ", " (fields.map fun f => f.1 ++ ": " ++ f.2) ++ " \x7d"

end Storefront.Text
