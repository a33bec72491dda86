import Storefront.Json.Value
import Storefront.Text.Quoted

/-!
# Writing JSON

The compact form has no white space at all. A string escapes the quote, the backslash and the
characters below U+0020 and nothing else; `escapeChar` is the whole rule, one character at a time.
-/

namespace Storefront.Json

/-- How one character stands inside a string literal. -/
def escapeChar (c : Char) : List Char :=
  if c = '"' then ['\\', '"']
  else if c = '\\' then ['\\', '\\']
  else if c = '\x08' then ['\\', 'b']
  else if c = '\x0c' then ['\\', 'f']
  else if c = '\n' then ['\\', 'n']
  else if c = '\r' then ['\\', 'r']
  else if c = '\t' then ['\\', 't']
  else if c.toNat < 0x20 then
    ['\\', 'u', '0', '0', Text.hexDigit (c.toNat / 16), Text.hexDigit c.toNat]
  else [c]

def literal (s : List Char) : List Char :=
  '"' :: (s.flatMap escapeChar ++ ['"'])

mutual

def Value.write : Value → List Char
  | .null => ['n', 'u', 'l', 'l']
  | .bool true => ['t', 'r', 'u', 'e']
  | .bool false => ['f', 'a', 'l', 's', 'e']
  | .number n => n.text
  | .string s => literal s.toList
  | .array items => '[' :: (Value.writeItems items ++ [']'])
  | .object fields => '{' :: (Value.writeFields fields ++ ['}'])

/-- The items of an array, with a comma between two of them. -/
def Value.writeItems : List Value → List Char
  | [] => []
  | [v] => v.write
  | v :: w :: rest => v.write ++ ',' :: Value.writeItems (w :: rest)

/-- The fields of an object, with a comma between two of them. -/
def Value.writeFields : List (String × Value) → List Char
  | [] => []
  | [(k, v)] => literal k.toList ++ ':' :: v.write
  | (k, v) :: f :: rest =>
    literal k.toList ++ ':' :: (v.write ++ ',' :: Value.writeFields (f :: rest))

end

/-- The compact JSON text of a value as a string. -/
def Value.toJson (v : Value) : String :=
  String.ofList v.write

/-- A value as running text: a string stands for itself, null for nothing, and everything else is
written in its JSON form. -/
def Value.toText : Value → String
  | .string s => s
  | .null => ""
  | v => v.toJson

/-- The fields of an indented object of texts. -/
def writeIndentedFields : Table String → List Char
  | [] => []
  | [(k, v)] => "\n  ".toList ++ literal k.toList ++ [':', ' '] ++ literal v.toList
  | (k, v) :: f :: rest =>
    "\n  ".toList ++ literal k.toList ++ [':', ' '] ++ literal v.toList ++ ',' ::
      writeIndentedFields (f :: rest)

/-- A table of texts as an object with one field a line, indented by two spaces. -/
def writeIndented (t : Table String) : List Char :=
  if t.isEmpty then ['{', '}'] else '{' :: (writeIndentedFields t ++ ['\n', '}'])

end Storefront.Json
