import Storefront.Json.Error
import Storefront.Json.Writer
import Storefront.Text.Position

/-!
# Reading string literals

`stringBody` reads what follows the opening quote. Characters outside the basic plane may be
written as two escapes, a leading and a trailing surrogate; a surrogate that has no partner is
refused. `skipString` reads a literal that nobody looks at: escapes must be well-formed, but
surrogates need no partner.
-/

namespace Storefront.Json

def hexValue? (c : Char) : Option Nat :=
  if '0' ≤ c ∧ c ≤ '9' then some (c.toNat - 48)
  else if 'a' ≤ c ∧ c ≤ 'f' then some (c.toNat - 87)
  else if 'A' ≤ c ∧ c ≤ 'F' then some (c.toNat - 55)
  else none

/-- The value of the four hexadecimal digits at the front of a text. A text of less than four
bytes has ended before them. -/
def hex4 : List Char → Except ReadError Nat
  | a :: b :: c :: d :: _ =>
    match hexValue? a, hexValue? b, hexValue? c, hexValue? d with
    | some a, some b, some c, some d => .ok (a * 4096 + b * 256 + c * 16 + d)
    | _, _, _, _ => .error .invalidEscape
  | s =>
    if 4 ≤ Text.byteSize s then .error .invalidEscape else .error (.endOfText .string)

/-- The character of an escape by code point, and how many characters it takes after the letter. -/
def codePoint (s : List Char) : Except ReadError (Char × Nat) := do
  let n ← hex4 s
  if 0xDC00 ≤ n ∧ n ≤ 0xDFFF then .error .loneSurrogate
  else if n < 0xD800 ∨ 0xDFFF < n then .ok (Char.ofNat n, 4)
  else match s.drop 4 with
    | [] => .error (.endOfText .string)
    | '\\' :: [] => .error (.endOfText .string)
    | '\\' :: 'u' :: rest => do
      let m ← hex4 rest
      if m < 0xDC00 ∨ 0xDFFF < m then .error .loneSurrogate
      else .ok (Char.ofNat (0x10000 + (n - 0xD800) * 0x400 + (m - 0xDC00)), 10)
    | _ => .error .unexpectedEndOfHexEscape

/-- The character of a short escape. -/
def shortEscape? : Char → Option Char
  | '"' => some '"'
  | '\\' => some '\\'
  | '/' => some '/'
  | 'b' => some '\x08'
  | 'f' => some '\x0c'
  | 'n' => some '\n'
  | 'r' => some '\r'
  | 't' => some '\t'
  | _ => none

/-- The character of the escape after a backslash, and how many characters the escape takes. -/
def escape : List Char → Except ReadError (Char × Nat)
  | [] => .error (.endOfText .string)
  | 'u' :: rest => do
    let (c, n) ← codePoint rest
    .ok (c, n + 1)
  | c :: _ =>
    match shortEscape? c with
    | some c => .ok (c, 1)
    | none => .error .invalidEscape

/-- Reads a string after its opening quote; the first `skip` characters belong to an escape that
has been read already. -/
def stringFrom : (skip : Nat) → Reader (List Char)
  | _, [] => .error (.endOfText .string)
  | skip + 1, _ :: rest => stringFrom skip rest
  | 0, c :: rest =>
    if c = '"' then .ok ([], rest)
    else if c = '\\' then do
      let (c, n) ← escape rest
      let (cs, rest) ← stringFrom n rest
      .ok (c :: cs, rest)
    else if c.toNat < 0x20 then .error .controlCharacter
    else do
      let (cs, rest) ← stringFrom 0 rest
      .ok (c :: cs, rest)

/-- Reads a string after its opening quote. -/
def stringBody : Reader String := fun s => do
  let (cs, rest) ← stringFrom 0 s
  .ok (String.ofList cs, rest)

/-- How many characters the escape after a backslash takes, whatever it stands for. -/
def skipEscape : List Char → Except ReadError Nat
  | [] => .error (.endOfText .string)
  | 'u' :: rest => do
    let _ ← hex4 rest
    .ok 5
  | c :: _ => if (shortEscape? c).isSome then .ok 1 else .error .invalidEscape

/-- Skips a string after its opening quote. -/
def skipString : (skip : Nat) → List Char → Except ReadError (List Char)
  | _, [] => .error (.endOfText .string)
  | skip + 1, _ :: rest => skipString skip rest
  | 0, c :: rest =>
    if c = '"' then .ok rest
    else if c = '\\' then do
      let n ← skipEscape rest
      skipString n rest
    else if c.toNat < 0x20 then .error .controlCharacter
    else skipString 0 rest

end Storefront.Json
