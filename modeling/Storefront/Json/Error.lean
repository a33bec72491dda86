import Storefront.Mismatch

/-!
# Why a JSON text is refused

`ReadError` has one constructor for each thing that can be wrong with a JSON text, and one for
well-formed data that a decoder has no use for. Reading stops at the first problem in reading
order, so a text has at most one error.
-/

namespace Storefront.Json

/-- What was being read when the text ended. -/
inductive Unfinished where
  | value
  | string
  | list
  | object
deriving DecidableEq, Repr

inductive ReadError where
  | endOfText (what : Unfinished)
  | expectedValue
  | expectedIdent
  | expectedColon
  | expectedListCommaOrEnd
  | expectedObjectCommaOrEnd
  | keyMustBeString
  | trailingComma
  | trailingCharacters
  | invalidNumber
  | numberOutOfRange
  | invalidEscape
  | unexpectedEndOfHexEscape
  | loneSurrogate
  | controlCharacter
  | tooDeep
  | mismatch (m : Mismatch)
deriving DecidableEq, Repr

namespace ReadError

def message : ReadError → String
  | endOfText .value => "EOF while parsing a value"
  | endOfText .string => "EOF while parsing a string"
  | endOfText .list => "EOF while parsing a list"
  | endOfText .object => "EOF while parsing an object"
  | expectedValue => "expected value"
  | expectedIdent => "expected ident"
  | expectedColon => "expected \x60:\x60"
  | expectedListCommaOrEnd => "expected \x60,\x60 or \x60]\x60"
  | expectedObjectCommaOrEnd => "expected \x60,\x60 or \x60\x7d\x60"
  | keyMustBeString => "key must be a string"
  | trailingComma => "trailing comma"
  | trailingCharacters => "trailing characters"
  | invalidNumber => "invalid number"
  | numberOutOfRange => "number out of range"
  | invalidEscape => "invalid escape"
  | unexpectedEndOfHexEscape => "unexpected end of hex escape"
  | loneSurrogate => "lone leading surrogate in hex escape"
  | controlCharacter => "control character (\\u0000-\\u001F) found while parsing a string"
  | tooDeep => "recursion limit exceeded"
  | mismatch m => m.message

end ReadError

/-- A reader takes what it reads from the front of a text and returns the rest. -/
abbrev Reader (α : Type) := List Char → Except ReadError (α × List Char)

end Storefront.Json
