import Storefront.Json.Numeral
import Storefront.Json.Literal

/-!
# Reading JSON

`value depth` reads one value whose arrays and objects nest at most `depth` deep. The loops over
the items of an array and the fields of an object are written once, for any reader of items, and
each of them says which problem it reports in which place: a comma before the end is a trailing
comma, a key that is no string is refused as a key, and a text that ends is unfinished in what was
being read.
-/

namespace Storefront.Json

open Text (isJsonBlank)

def skipBlanks (s : List Char) : List Char :=
  s.dropWhile isJsonBlank

/-- Reads the letters of a keyword. -/
def ident {α : Type} (a : α) : List Char → Reader α
  | [], s => .ok (a, s)
  | _ :: _, [] => .error (.endOfText .value)
  | c :: cs, d :: rest => if c = d then ident a cs rest else .error .expectedIdent

/-- After an item of an array: `none` at its end, and otherwise the place of the next item. -/
def afterItem (s : List Char) : Except ReadError (Option (List Char) × List Char) :=
  match skipBlanks s with
  | [] => .error (.endOfText .list)
  | c :: rest =>
    if c = ']' then .ok (none, rest)
    else if c = ',' then
      match skipBlanks rest with
      | [] => .error (.endOfText .value)
      | d :: after => if d = ']' then .error .trailingComma else .ok (some (d :: after), [])
    else .error .expectedListCommaOrEnd

/-- Reads the items of an array from an item on; `fuel` bounds their number. -/
def itemsFrom {α : Type} (item : Reader α) : (fuel : Nat) → Reader (List α)
  | 0, _ => .error (.endOfText .list)
  | fuel + 1, s => do
    let (a, s) ← item s
    match ← afterItem s with
    | (none, rest) => .ok ([a], rest)
    | (some next, _) =>
      let (as, rest) ← itemsFrom item fuel next
      .ok (a :: as, rest)

/-- Reads the items of an array after its opening bracket. -/
def items {α : Type} (item : Reader α) : Reader (List α) := fun s =>
  match skipBlanks s with
  | [] => .error (.endOfText .list)
  | c :: rest => if c = ']' then .ok ([], rest) else itemsFrom item s.length (c :: rest)

def colon : Reader Unit := fun s =>
  match skipBlanks s with
  | [] => .error (.endOfText .object)
  | c :: rest => if c = ':' then .ok ((), rest) else .error .expectedColon

/-- Where a key starts, after the comma before it or as the first one: the text after its opening
quote. -/
def keyStart (s : List Char) : Except ReadError (List Char) :=
  match skipBlanks s with
  | [] => .error (.endOfText .value)
  | c :: rest =>
    if c = '"' then .ok rest
    else if c = '}' then .error .trailingComma
    else .error .keyMustBeString

/-- After a field of an object: `none` at its end, and otherwise the text after the opening quote
of the next key. -/
def afterField (s : List Char) : Except ReadError (Option (List Char) × List Char) :=
  match skipBlanks s with
  | [] => .error (.endOfText .object)
  | c :: rest =>
    if c = '}' then .ok (none, rest)
    else if c = ',' then do
      let next ← keyStart rest
      .ok (some next, [])
    else .error .expectedObjectCommaOrEnd

/-- Reads the fields of an object from the inside of a key on; `fuel` bounds their number. The
reader of a field is given what was gathered before and the key, and reads from the colon on. -/
def fieldsFrom {α : Type} (field : α → String → Reader α) : (fuel : Nat) → α → Reader α
  | 0, _, _ => .error (.endOfText .object)
  | fuel + 1, a, s => do
    let (key, s) ← stringBody s
    let (a, s) ← field a key s
    match ← afterField s with
    | (none, rest) => .ok (a, rest)
    | (some next, _) => fieldsFrom field fuel a next

/-- Reads the fields of an object after its opening brace. -/
def fields {α : Type} (field : α → String → Reader α) (start : α) : Reader α := fun s =>
  match skipBlanks s with
  | [] => .error (.endOfText .object)
  | c :: rest =>
    if c = '}' then .ok (start, rest)
    else do
      let next ← keyStart (c :: rest)
      fieldsFrom field s.length start next

/-- Reads the value of a field and stores it under the key, in place of an earlier one. -/
def entry {α : Type} (item : Reader α) (t : Table α) (key : String) : Reader (Table α) :=
  fun s => do
    let (_, s) ← colon s
    let (a, s) ← item s
    .ok (t.insert key a, s)

/-- Reads a value in which arrays and objects nest at most `depth` deep. -/
def value : (depth : Nat) → Reader Value
  | depth, s =>
    match skipBlanks s with
    | [] => .error (.endOfText .value)
    | 'n' :: rest => ident .null ['u', 'l', 'l'] rest
    | 't' :: rest => ident (.bool true) ['r', 'u', 'e'] rest
    | 'f' :: rest => ident (.bool false) ['a', 'l', 's', 'e'] rest
    | '"' :: rest => do
      let (s, rest) ← stringBody rest
      .ok (.string s, rest)
    | '[' :: rest =>
      match depth with
      | 0 => .error .tooDeep
      | depth + 1 => do
        let (vs, rest) ← items (value depth) rest
        .ok (.array vs, rest)
    | '{' :: rest =>
      match depth with
      | 0 => .error .tooDeep
      | depth + 1 => do
        let (fs, rest) ← fields (entry (value depth)) [] rest
        .ok (.object fs, rest)
    | c :: rest =>
      if c = '-' ∨ c.isDigit then do
        let (n, rest) ← number (c :: rest)
        .ok (.number n, rest)
      else .error .expectedValue

/-- The nesting that readers of files and requests accept. -/
def nestingLimit : Nat := 127

/-- Reads a whole text: only white space may follow. -/
def whole {α : Type} (read : Reader α) (s : List Char) : Except ReadError α := do
  let (a, rest) ← read s
  if (skipBlanks rest).isEmpty then .ok a else .error .trailingCharacters

/-- Reads a text that is one value. -/
def Value.read (s : String) : Except ReadError Value :=
  whole (value nestingLimit) s.toList

/-! ### Values that nobody looks at -/

/-- Skips a number: only its form counts. -/
def skipNumeral : List Char → Except ReadError (List Char)
  | s =>
    let ds := s.takeWhile Char.isDigit
    let rest := s.dropWhile Char.isDigit
    match ds with
    | [] => .error .invalidNumber
    | '0' :: _ :: _ => .error .invalidNumber
    | _ =>
      match rest with
      | '.' :: after =>
        if (after.takeWhile Char.isDigit).isEmpty then .error .invalidNumber
        else skipExponent (after.dropWhile Char.isDigit)
      | rest => skipExponent rest
where
  /-- Skips an exponent part, if there is one. -/
  skipExponent : List Char → Except ReadError (List Char)
    | 'e' :: rest => skipExponentDigits rest
    | 'E' :: rest => skipExponentDigits rest
    | rest => .ok rest
  /-- Skips the sign and the digits of an exponent. -/
  skipExponentDigits (s : List Char) : Except ReadError (List Char) :=
    let s := match s with
      | '+' :: rest => rest
      | '-' :: rest => rest
      | s => s
    if (s.takeWhile Char.isDigit).isEmpty then .error .invalidNumber
    else .ok (s.dropWhile Char.isDigit)

/-- Skips the items of an array from an item on. -/
def skipItemsFrom (item : List Char → Except ReadError (List Char)) :
    (fuel : Nat) → List Char → Except ReadError (List Char)
  | 0, _ => .error (.endOfText .list)
  | fuel + 1, s => do
    let s ← item s
    match skipBlanks s with
    | [] => .error (.endOfText .list)
    | ']' :: rest => .ok rest
    | ',' :: rest => skipItemsFrom item fuel rest
    | _ => .error .expectedListCommaOrEnd

def skipKey (s : List Char) : Except ReadError (List Char) :=
  match skipBlanks s with
  | [] => .error (.endOfText .object)
  | '"' :: rest => do
    let s ← skipString 0 rest
    let (_, s) ← colon s
    .ok s
  | _ => .error .keyMustBeString

/-- Skips the fields of an object from a key on. -/
def skipFieldsFrom (item : List Char → Except ReadError (List Char)) :
    (fuel : Nat) → List Char → Except ReadError (List Char)
  | 0, _ => .error (.endOfText .object)
  | fuel + 1, s => do
    let s ← skipKey s
    let s ← item s
    match skipBlanks s with
    | [] => .error (.endOfText .object)
    | '}' :: rest => .ok rest
    | ',' :: rest => skipFieldsFrom item fuel rest
    | _ => .error .expectedObjectCommaOrEnd

/-- Skips a value in which arrays and objects nest at most `depth` deep. -/
def skipValueWithin : (depth : Nat) → List Char → Except ReadError (List Char)
  | depth, s =>
    match skipBlanks s with
    | [] => .error (.endOfText .value)
    | 'n' :: rest => (ident () ['u', 'l', 'l'] rest).map Prod.snd
    | 't' :: rest => (ident () ['r', 'u', 'e'] rest).map Prod.snd
    | 'f' :: rest => (ident () ['a', 'l', 's', 'e'] rest).map Prod.snd
    | '"' :: rest => skipString 0 rest
    | '[' :: rest =>
      match depth with
      | 0 => .error .tooDeep
      | depth + 1 =>
        match skipBlanks rest with
        | [] => .error (.endOfText .list)
        | ']' :: rest => .ok rest
        | next => skipItemsFrom (skipValueWithin depth) next.length next
    | '{' :: rest =>
      match depth with
      | 0 => .error .tooDeep
      | depth + 1 =>
        match skipBlanks rest with
        | [] => .error (.endOfText .object)
        | '}' :: rest => .ok rest
        | next => skipFieldsFrom (skipValueWithin depth) next.length next
    | '-' :: rest => skipNumeral rest
    | c :: rest => if c.isDigit then skipNumeral (c :: rest) else .error .expectedValue

/-- Skips a value, however deep it nests: no value nests deeper than its text is long. -/
def skipValue (s : List Char) : Except ReadError (List Char) :=
  skipValueWithin s.length s

/-! ### Values of an expected kind -/

/-- Reports what stands at the front of a text in place of what was expected. Scalars are read
first, so that one that is no JSON is reported as such; arrays and objects are not. -/
def unexpected {α : Type} (expected : String) : Reader α := fun s =>
  match skipBlanks s with
  | [] => .error (.endOfText .value)
  | '[' :: _ => .error (.mismatch (.type .sequence expected))
  | '{' :: _ => .error (.mismatch (.type .map expected))
  | s => do
    let (v, _) ← value 0 s
    let found := match v with
      | .null => .null
      | .bool b => .boolean b
      | .number (.whole n) => .integer n.val
      | .number (.double x) => .floating (String.ofList (x.text .json))
      | .string s => .string s
      | .array _ => .sequence
      | .object _ => .map
    .error (.mismatch (.type found expected))

def string : Reader String := fun s =>
  match skipBlanks s with
  | '"' :: rest => stringBody rest
  | s => unexpected "a string" s

def boolean : Reader Bool := fun s =>
  match skipBlanks s with
  | 't' :: rest => ident true ['r', 'u', 'e'] rest
  | 'f' :: rest => ident false ['a', 'l', 's', 'e'] rest
  | s => unexpected "a boolean" s

/-- Reads a whole number below `2 ^ 32`. -/
def word32 : Reader UInt32 := fun s =>
  match skipBlanks s with
  | [] => .error (.endOfText .value)
  | c :: rest =>
    if c = '-' ∨ c.isDigit then do
      let (n, rest) ← number (c :: rest)
      match n with
      | .double x =>
        .error (.mismatch (.type (.floating (String.ofList (x.text .json))) "u32"))
      | .whole n =>
        if 0 ≤ n.val ∧ n.val < 0x100000000 then .ok (n.val.toNat.toUInt32, rest)
        else .error (.mismatch (.value (.integer n.val) "u32"))
    else unexpected "u32" (c :: rest)

def textTable : Reader (Table String) := fun s =>
  match skipBlanks s with
  | '{' :: rest => fields (entry string) [] rest
  | s => unexpected "a map" s

end Storefront.Json
