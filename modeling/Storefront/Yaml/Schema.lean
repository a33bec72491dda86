import Storefront.Json.Numeral
import Storefront.Json.Literal
import Storefront.Mismatch

/-!
# What a scalar stands for

A plain scalar may be written like a null, a truth value, an integer or a floating point number; any
other scalar is a text. A tag of the core schema demands one kind, whatever the style of the scalar.

Integers are decimal, or hexadecimal, octal or binary behind `0x`, `0o` or `0b`. Digits behind a
leading zero are a text, and so are numbers too large for a floating point number.
-/

namespace Storefront.Yaml

inductive Datum where
  | null
  | bool (b : Bool)
  | integer (n : Int)
  | double (x : Binary64)
  | infinity (negative : Bool)
  | notANumber
  | text (s : String)

namespace Datum

/-- Whether an integer fits into 64 bits, with or without a sign. -/
def isWord (n : Int) : Bool :=
  -0x8000000000000000 ≤ n && n < 0x10000000000000000

/-- Whether an integer fits into 128 bits, with or without a sign. -/
def isWide (n : Int) : Bool :=
  -0x80000000000000000000000000000000 ≤ n && n < 0x100000000000000000000000000000000

/-- What a message says about a datum that was not expected. -/
def found : Datum → Found
  | null => .unit
  | bool b => .boolean b
  | integer n => if isWord n then .integer n else .wideInteger n
  | double x => .floating (String.ofList (x.text .inPlace))
  | infinity negative => .floating (if negative then "-inf" else "inf")
  | notANumber => .floating "NaN"
  | text s => .string s

/-! ### Nulls, truth values and integers -/

def null? (s : String) : Option Datum :=
  if ["null", "Null", "NULL", "~"].contains s then some null else none

def bool? (s : String) : Option Datum :=
  if ["true", "True", "TRUE"].contains s then some (bool true)
  else if ["false", "False", "FALSE"].contains s then some (bool false)
  else none

/-- The value of one digit or more to a radix of at most sixteen. -/
def digits? (radix : Nat) (s : List Char) : Option Nat :=
  if s.isEmpty then none
  else s.foldlM (fun n c => do
    let d ← Json.hexValue? c
    if d < radix then some (radix * n + d) else none) 0

/-- Whether digits follow a leading zero, behind a sign or none. -/
def isPadded (s : List Char) : Bool :=
  let s := match s with
    | '+' :: rest | '-' :: rest => rest
    | s => s
  match s with
  | '0' :: rest => !rest.isEmpty && rest.all Char.isDigit
  | _ => false

/-- The value of digits that may follow a mark for their radix. -/
def magnitude? (s : List Char) : Option Nat :=
  match s with
  | '0' :: 'x' :: rest => digits? 16 rest
  | '0' :: 'o' :: rest => digits? 8 rest
  | '0' :: 'b' :: rest => digits? 2 rest
  | s => digits? 10 s

/-- The integer that is written, if it fits into 128 bits. -/
def integer? (s : List Char) : Option Datum :=
  if isPadded s then none
  else do
    let n ← match s with
      | '-' :: rest => (magnitude? rest).map fun n => -(n : Int)
      | '+' :: rest => (magnitude? rest).map Int.ofNat
      | s => (magnitude? s).map Int.ofNat
    if isWide n then some (integer n) else none

/-! ### Floating point numbers -/

/-- The number nearest to `ds × 10 ^ e`, if it is finite. Exponents far beyond the format's are
settled without computing the power. -/
def scaled? (negative : Bool) (ds : List Char) (e : Int) : Option Binary64 :=
  let m := Json.digitsValue ds
  let top := e + Decimal.digitCount m
  if m = 0 then some (.zero negative)
  else if 310 < top then none
  else if top < -330 then some (.zero negative)
  else
    let (num, den) := Decimal.scale m 1 e
    Binary64.nearest negative num den

/-- An exponent part, or nothing. -/
def exponent? : List Char → Option Int
  | [] => some 0
  | c :: rest =>
    if c = 'e' ∨ c = 'E' then
      let (down, ds) := match rest with
        | '+' :: ds => (false, ds)
        | '-' :: ds => (true, ds)
        | ds => (false, ds)
      (digits? 10 ds).map fun k => if down then -(k : Int) else k
    else none

/-- An unsigned decimal number: digits, a point among them or none, and an exponent part or none. -/
def unsigned? (negative : Bool) (s : List Char) : Option Binary64 :=
  let whole := s.takeWhile Char.isDigit
  let rest := s.dropWhile Char.isDigit
  let (fraction, rest) := match rest with
    | '.' :: after => (after.takeWhile Char.isDigit, after.dropWhile Char.isDigit)
    | rest => ([], rest)
  if whole.isEmpty && fraction.isEmpty then none
  else do
    let k ← exponent? rest
    scaled? negative (whole ++ fraction) (k - fraction.length)

/-- The names of the numbers that are not finite. -/
def special? : List Char → Option Datum
  | '-' :: rest => if isInfinity rest then some (infinity true) else none
  | '+' :: rest => if isInfinity rest then some (infinity false) else none
  | s =>
    if isInfinity s then some (infinity false)
    else if isNaN s then some notANumber
    else none
where
  /-- One of the three spellings of what is not a number. -/
  isNaN (s : List Char) : Bool :=
    [['.', 'n', 'a', 'n'], ['.', 'N', 'a', 'N'], ['.', 'N', 'A', 'N']].contains s
  /-- One of the three spellings of infinity. -/
  isInfinity (s : List Char) : Bool :=
    [['.', 'i', 'n', 'f'], ['.', 'I', 'n', 'f'], ['.', 'I', 'N', 'F']].contains s

/-- The floating point number that is written. -/
def double? (s : List Char) : Option Datum :=
  (special? s).orElse fun _ =>
    (match s with
    | '-' :: rest => unsigned? true rest
    | '+' :: rest => unsigned? false rest
    | s => unsigned? false s).map double

/-! ### Scalars -/

/-- What a plain scalar without a tag stands for. -/
def ofPlain (s : String) : Datum :=
  let cs := s.toList
  if s.isEmpty then null
  else
    ((null? s).orElse fun _ => (bool? s).orElse fun _ => (integer? cs).orElse fun _ =>
      if isPadded cs then none else double? cs).getD (text s)

/-- The full name of a tag of the core schema. -/
def coreTag (name : String) : String :=
  "tag:yaml.org,2002:" ++ name

/-- Whether a tag is local to a document; such a tag marks a variant. -/
def isLocal (tag : Option String) : Bool :=
  tag.any fun t => t.toList.head? == some '!'

/-- What a scalar stands for, or why it does not fit its tag. -/
def ofScalar (tag : Option String) (isPlain : Bool) (s : String) : Except Mismatch Datum :=
  let demand (expected : String) (d : Option Datum) : Except Mismatch Datum :=
    match d with
    | some d => .ok d
    | none => .error (.value (.string s) expected)
  if tag = some (coreTag "bool") then demand "a boolean" (bool? s)
  else if tag = some (coreTag "int") then demand "an integer" (integer? s.toList)
  else if tag = some (coreTag "float") then demand "a float" (double? s.toList)
  else if tag = some (coreTag "null") then demand "null" (null? s)
  else if isPlain && (tag.isNone || isLocal tag) then .ok (ofPlain s)
  else .ok (text s)

end Datum

end Storefront.Yaml
