import Storefront.Json.Error
import Storefront.Json.Value
import Storefront.Text.Blank

/-!
# Reading numerals

A numeral without fraction and exponent is a whole number if it is in range. Any other numeral is
a floating point number: its digits make up a significand below `2 ^ 64`, which is rounded to a
floating point number and then multiplied or divided once by the number nearest to a power of ten,
with one rounding. Digits for which the significand has no room are not read into it; in front of
the point they still count as places.
-/

namespace Storefront.Json

def digitValue (c : Char) : Nat := c.toNat - 48

def digitsValue (ds : List Char) : Nat :=
  ds.foldl (fun n c => 10 * n + digitValue c) 0

/-- Appends digits to a significand while it stays below `2 ^ 64`; the second part holds the digits
left over. -/
def absorb : Nat → List Char → Nat × List Char
  | m, [] => (m, [])
  | m, c :: rest =>
    if 10 * m + digitValue c < 0x10000000000000000 then absorb (10 * m + digitValue c) rest
    else (m, c :: rest)

/-- The floating point number nearest to `10 ^ k`, for `k ≤ 308`. -/
def powerOfTen (k : Nat) : Binary64 :=
  (Binary64.nearest false (Nat.pow 10 k) 1).getD (Binary64.zero false)

/-- Divides `steps` times by the largest power of ten, a zero staying what it is. -/
def shrink : Nat → Binary64 → Binary64
  | 0, x => x
  | steps + 1, x =>
    if x.isZero then x
    else shrink steps ((x.div? (powerOfTen 308)).getD (Binary64.zero x.negative))

/-- The significand `m` scaled by `10 ^ e`. -/
def scaled (negative : Bool) (m : Nat) (e : Int) : Except ReadError Binary64 :=
  match Binary64.nearest negative m 1 with
  | none => .error .numberOutOfRange
  | some x =>
    if 0 ≤ e then
      if 308 < e then if x.isZero then .ok x else .error .numberOutOfRange
      else match x.mul? (powerOfTen e.toNat) with
        | some y => .ok y
        | none => .error .numberOutOfRange
    else
      let places := (-e).toNat
      let steps := (places - 1) / 308
      let y := shrink steps x
      .ok (if y.isZero then y
        else (y.div? (powerOfTen (places - 308 * steps))).getD (Binary64.zero negative))

/-- The digits of an exponent after its sign. -/
def exponentDigits (s : List Char) : Except ReadError (Nat × List Char) :=
  match s with
  | [] => .error (.endOfText .value)
  | c :: _ =>
    if c.isDigit then .ok (digitsValue (s.takeWhile Char.isDigit), s.dropWhile Char.isDigit)
    else .error .invalidNumber

/-- The exponent part after its letter, applied to `m × 10 ^ e`. An exponent of `2 ^ 31` or more is
not read: zero stays zero, and what would be too large is out of range. -/
def exponentPart (negative : Bool) (m : Nat) (e : Int) (s : List Char) :
    Except ReadError (Binary64 × List Char) := do
  let (down, s) := match s with
    | '+' :: rest => (false, rest)
    | '-' :: rest => (true, rest)
    | s => (false, s)
  let (k, rest) ← exponentDigits s
  if 0x80000000 ≤ k then
    if m ≠ 0 ∧ !down then .error .numberOutOfRange else .ok (Binary64.zero negative, rest)
  else
    let x ← scaled negative m (if down then e - k else e + k)
    .ok (x, rest)

/-- What follows a significand `m × 10 ^ e`: an exponent part or nothing. -/
def scaledTail (negative : Bool) (m : Nat) (e : Int) (s : List Char) :
    Except ReadError (Binary64 × List Char) :=
  match s with
  | 'e' :: rest => exponentPart negative m e rest
  | 'E' :: rest => exponentPart negative m e rest
  | s => do
    let x ← scaled negative m e
    .ok (x, s)

/-- The number written by whole digits alone. Minus zero and numbers out of range are floating
point numbers. -/
def ofWholeDigits (negative : Bool) (ds : List Char) : Except ReadError Number :=
  let n : Int := if negative then -(digitsValue ds) else digitsValue ds
  let asInteger := if negative && digitsValue ds == 0 then none else Integer.ofInt? n
  match asInteger with
  | some n => .ok (.whole n)
  | none => do
    let (m, left) := absorb 0 ds
    let x ← scaled negative m left.length
    .ok (.double x)

/-- Reads a numeral after its sign. -/
def numeral (negative : Bool) (s : List Char) : Except ReadError (Number × List Char) := do
  let ds := s.takeWhile Char.isDigit
  let rest := s.dropWhile Char.isDigit
  match s, ds with
  | [], _ => .error (.endOfText .value)
  | _, [] => .error .invalidNumber
  | _, '0' :: _ :: _ => .error .invalidNumber
  | _, ds =>
    let (m, left) := absorb 0 ds
    match rest with
    | '.' :: after =>
      let fs := after.takeWhile Char.isDigit
      let rest := after.dropWhile Char.isDigit
      if fs.isEmpty then
        if rest.isEmpty then .error (.endOfText .value) else .error .invalidNumber
      else
        let (m, unread) := absorb m fs
        let places : Nat := fs.length - unread.length
        let (x, rest) ← scaledTail negative m ((left.length : Int) - (places : Int)) rest
        .ok (.double x, rest)
    | c :: _ =>
      if c = 'e' ∨ c = 'E' then
        let (x, rest) ← scaledTail negative m left.length rest
        .ok (.double x, rest)
      else
        let n ← ofWholeDigits negative ds
        .ok (n, rest)
    | [] =>
      let n ← ofWholeDigits negative ds
      .ok (n, [])

/-- Reads a number that starts with a minus sign or a digit. -/
def number : Reader Number
  | '-' :: rest => numeral true rest
  | s => numeral false s

end Storefront.Json
