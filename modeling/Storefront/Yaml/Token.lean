import Storefront.Yaml.Scalar

/-!
# Tokens of YAML

The scanner cuts a text into tokens and finds the blocks that indentation makes. A scalar or a
collection may turn out to be a key only when the colon behind it is read; until then its place
among the tokens is remembered, and the tokens that a key needs are put in there. Such a key must
lie on one line and within 1024 bytes; where the indentation demands a key, it must not be
missing.
-/

namespace Storefront.Yaml

inductive Token where
  | version (major minor : Nat)
  | tagHandle (handle stem : String)
  | documentStart
  | documentEnd
  | blockSequence
  | blockMapping
  | blockEnd
  | flowSequence
  | flowSequenceEnd
  | flowMapping
  | flowMappingEnd
  | blockEntry
  | flowEntry
  | key
  | value
  | reference (name : String)
  | anchor (name : String)
  | tag (handle suffix : String)
  | scalar (text : String) (isPlain : Bool)
deriving DecidableEq

/-- A place that a colon may turn into a key. -/
structure KeyPlace where
  /-- The number of tokens before it. -/
  count : Nat
  index : Nat
  line : Nat
  column : Nat
  /-- Whether the indentation demands a key here. -/
  isRequired : Bool

structure Scanner where
  cursor : Cursor
  /-- The tokens read so far, the last first. -/
  tokens : List Token := []
  /-- The column of the innermost block, `none` outside of all blocks. -/
  indent : Option Nat := none
  /-- The columns of the blocks around it, the innermost first. -/
  outer : List (Option Nat) := []
  /-- The number of open brackets and braces. -/
  flow : Nat := 0
  /-- Whether a key may start here. -/
  keyAllowed : Bool := true
  /-- The place that may become a key, for each level of brackets and braces. -/
  places : List (Option KeyPlace) := [none]

namespace Scanner

abbrev Scan := StateT Scanner Option

def cursor! : Scan Cursor :=
  return (← get).cursor

def setCursor (c : Cursor) : Scan Unit :=
  modify fun s => { s with cursor := c }

def emit (t : Token) : Scan Unit :=
  modify fun s => { s with tokens := t :: s.tokens }

def allowKey (b : Bool) : Scan Unit :=
  modify fun s => { s with keyAllowed := b }

def skip (n : Nat) : Scan Unit :=
  modify fun s => { s with cursor := s.cursor.skip n }

/-- Puts a token behind the first `count` tokens. -/
def insertAt (count : Nat) (t : Token) : Scan Unit :=
  modify fun s =>
    let later := s.tokens.take (s.tokens.length - count)
    let earlier := s.tokens.drop (s.tokens.length - count)
    { s with tokens := later ++ t :: earlier }

/-! ### Keys and blocks -/

/-- Gives up the place that might have become a key. -/
def dropPlace : Scan Unit := do
  match (← get).places with
  | some p :: rest =>
    if p.isRequired then failure
    modify fun s => { s with places := none :: rest }
  | _ => pure ()

/-- Remembers the current place as one that may become a key. -/
def savePlace : Scan Unit := do
  let s ← get
  if s.keyAllowed then
    dropPlace
    let place : KeyPlace :=
      { count := s.tokens.length, index := s.cursor.index, line := s.cursor.line
        column := s.cursor.column
        isRequired := s.flow == 0 && s.indent == some s.cursor.column }
    modify fun s => { s with places := some place :: s.places.tail }

/-- Gives up the places that are too far away for a key. -/
def dropStale : Scan Unit := do
  let s ← get
  let isStale (p : KeyPlace) : Bool :=
    p.line < s.cursor.line || p.index + 1024 < s.cursor.index
  if s.places.any fun p => p.any fun p => isStale p && p.isRequired then failure
  modify fun s =>
    { s with places := s.places.map fun p => p.filter fun p => !isStale p }

/-- Ends the blocks that are indented further than `column`; `none` ends all. -/
def unroll (column : Option Nat) : Scan Unit := do
  let s ← get
  if s.flow = 0 then
    modify fun s => go s s.outer
where
  /-- Ends blocks while the innermost is indented too far. -/
  go (s : Scanner) : List (Option Nat) → Scanner
    | [] => s
    | o :: rest =>
      match s.indent with
      | some n =>
        if column.all (· < n) then
          go { s with tokens := .blockEnd :: s.tokens, indent := o, outer := rest } rest
        else s
      | none => s

/-- Starts a block at a column that is further in, its token behind the first `count` ones. -/
def roll (column count : Nat) (t : Token) : Scan Unit := do
  let s ← get
  if s.flow = 0 ∧ s.indent.all (· < column) then
    insertAt count t
    modify fun s => { s with indent := some column, outer := s.indent :: s.outer }

/-- Starts a block at the current place. -/
def rollHere (t : Token) : Scan Unit := do
  let s ← get
  roll s.cursor.column s.tokens.length t

/-! ### White space and directives -/

/-- Skips white space, comments and line breaks. A tab is white space where no key may start. A byte
order mark may start any line; it takes one column. -/
def skipToToken : (fuel : Nat) → Scan Unit
  | 0 => failure
  | fuel + 1 => do
    let s ← get
    let c := s.cursor
    let c := if c.column = 0 ∧ c.rest.head? = some (Char.ofNat 0xFEFF) then c.skip 1 else c
    let tabs := s.flow != 0 || !s.keyAllowed
    let c := c.skipWhile fun d => d == ' ' || (tabs && d == '\t')
    let c := if c.sees (· == '#') then c.skipWhile fun d => !isBreak d else c
    if c.sees isBreak then
      setCursor c.skipLine.2
      if s.flow = 0 then allowKey true
      skipToToken fuel
    else setCursor c

/-- Takes the characters that satisfy `p`. -/
def word (p : Char → Bool) : Scan (List Char) := do
  let c ← cursor!
  let w := c.rest.takeWhile p
  setCursor (c.skip w.length)
  return w

def blanks : Scan Unit := do
  let _ ← word isBlank

/-- Takes one given character. -/
def expect (d : Char) : Scan Unit := do
  if (← cursor!).sees (· == d) then skip 1 else failure

/-- A number of at most nine digits. -/
def versionNumber : Scan Nat := do
  let ds ← word Char.isDigit
  if ds.isEmpty ∨ 9 < ds.length then failure
  return ds.foldl (fun n d => 10 * n + (d.toNat - 48)) 0

/-- The bytes of an escaped character in a tag. -/
def escapedBytes : (fuel : Nat) → List Char → List Nat
  | 0, _ => []
  | fuel + 1, '%' :: a :: b :: rest =>
    match Json.hexValue? a, Json.hexValue? b with
    | some a, some b => (16 * a + b) :: escapedBytes fuel rest
    | _, _ => []
  | _, _ => []

/-- The character that the first of the given bytes start, and the number of its bytes. -/
def utf8Char? (bytes : List Nat) : Option (Char × Nat) :=
  let follow (start : Nat) (k : Nat) : Option (Char × Nat) :=
    let more := (bytes.drop 1).take k
    if more.length = k ∧ more.all fun b => b / 64 = 2 then
      some (Char.ofNat (more.foldl (fun n b => n * 64 + b % 64) start), k + 1)
    else none
  match bytes with
  | [] => none
  | b :: _ =>
    if b < 0x80 then some (Char.ofNat b, 1)
    else if b / 32 = 6 then follow (b % 32) 1
    else if b / 16 = 14 then follow (b % 16) 2
    else if b / 8 = 30 then follow (b % 8) 3
    else none

/-- The characters of a tag outside of angle brackets. -/
def isTagChar (c : Char) : Bool :=
  isWordChar c || [';', '/', '?', ':', '@', '&', '=', '+', '$', '.', '%', '!', '~', '*', '\'', '(',
    ')'].contains c

/-- The rest of a tag; in angle brackets it may hold commas and brackets. -/
def tagRest (isVerbatim : Bool) : (fuel : Nat) → Scan (List Char)
  | 0 => return []
  | fuel + 1 => do
    let c ← cursor!
    match c.rest with
    | d :: _ =>
      if d == '%' then
        match utf8Char? (escapedBytes 4 c.rest) with
        | some (e, k) =>
          skip (3 * k)
          return e :: (← tagRest isVerbatim fuel)
        | none => failure
      else if isTagChar d || (isVerbatim && [',', '[', ']'].contains d) then
        skip 1
        return d :: (← tagRest isVerbatim fuel)
      else return []
    | [] => return []

/-- A tag handle: an exclamation mark, word characters, and a second mark if there is one. -/
def handle : Scan (List Char) := do
  expect '!'
  let w ← word isWordChar
  if (← cursor!).sees (· == '!') then
    skip 1
    return '!' :: (w ++ ['!'])
  else return '!' :: w

def restFuel : Scan Nat :=
  return (← cursor!).rest.length + 1

/-- A directive behind its percent sign. -/
def directive : Scan Unit := do
  skip 1
  let name ← word isWordChar
  if name.isEmpty ∨ !endsWord (← cursor!).rest then failure
  if name = ['Y', 'A', 'M', 'L'] then
    blanks
    let major ← versionNumber
    expect '.'
    let minor ← versionNumber
    emit (.version major minor)
  else if name = ['T', 'A', 'G'] then
    blanks
    let h ← handle
    if h.length ≠ 1 ∧ h.getLast? ≠ some '!' then failure
    if !(← cursor!).sees isBlank then failure
    blanks
    let stem ← tagRest true (← restFuel)
    if stem.isEmpty ∨ !endsWord (← cursor!).rest then failure
    emit (.tagHandle (String.ofList h) (String.ofList stem))
  else failure
  blanks
  if (← cursor!).sees (· == '#') then
    let _ ← word fun d => !isBreak d
  if !endsLine (← cursor!).rest then failure
  setCursor (← cursor!).skipLine.2

/-! ### Tokens -/

/-- The characters that may follow an anchor or an alias besides white space. -/
def endsAnchor (c : Char) : Bool :=
  ['?', ':', ',', ']', '}', '%', '@', '\x60'].contains c

/-- An anchor or an alias. -/
def anchor (make : String → Token) : Scan Unit := do
  skip 1
  let name ← word isWordChar
  let c ← cursor!
  if name.isEmpty ∨ !(endsWord c.rest || c.sees endsAnchor) then failure
  emit (make (String.ofList name))

/-- A tag: verbatim in angle brackets, or a handle and a suffix. -/
def tag : Scan Unit := do
  let c ← cursor!
  if (c.rest.drop 1).head? = some '<' then
    skip 2
    let suffix ← tagRest true (← restFuel)
    if suffix.isEmpty then failure
    expect '>'
    emit (.tag "" (String.ofList suffix))
  else
    let h ← handle
    if 1 < h.length ∧ h.getLast? = some '!' then
      let suffix ← tagRest false (← restFuel)
      if suffix.isEmpty then failure
      emit (.tag (String.ofList h) (String.ofList suffix))
    else
      let suffix := h.tail ++ (← tagRest false (← restFuel))
      emit (if suffix.isEmpty then .tag "" "!" else .tag "!" (String.ofList suffix))
  let s ← get
  let atComma := s.flow != 0 && s.cursor.sees (· == ',')
  if !(atComma || endsWord s.cursor.rest) then failure

def openFlow (t : Token) : Scan Unit := do
  savePlace
  modify fun s => { s with flow := s.flow + 1, places := none :: s.places, keyAllowed := true }
  skip 1
  emit t

def closeFlow (t : Token) : Scan Unit := do
  dropPlace
  modify fun s =>
    { s with
      flow := s.flow - 1
      places := if s.flow = 0 then s.places else s.places.tail
      keyAllowed := false }
  skip 1
  emit t

/-- A dash before an entry of a block sequence. -/
def blockEntry : Scan Unit := do
  let s ← get
  if s.flow = 0 then
    if !s.keyAllowed then failure
    rollHere .blockSequence
  dropPlace
  allowKey true
  skip 1
  emit .blockEntry

/-- A question mark before a key. -/
def explicitKey : Scan Unit := do
  let s ← get
  if s.flow = 0 then
    if !s.keyAllowed then failure
    rollHere .blockMapping
  dropPlace
  allowKey (s.flow == 0)
  skip 1
  emit .key

/-- A colon before a value; it may turn what precedes it into a key. -/
def valueMark : Scan Unit := do
  let s ← get
  match s.places with
  | some p :: rest =>
    insertAt p.count .key
    roll p.column p.count .blockMapping
    modify fun s => { s with places := none :: rest, keyAllowed := false }
  | _ =>
    if s.flow = 0 then
      if !s.keyAllowed then failure
      rollHere .blockMapping
    allowKey (s.flow == 0)
  skip 1
  emit .value

/-- The border of a document. -/
def border (t : Token) : Scan Unit := do
  unroll none
  dropPlace
  allowKey false
  skip 3
  emit t

def quoted (isSingle : Bool) : Scan Unit := do
  savePlace
  allowKey false
  skip 1
  match quotedFrom isSingle (← restFuel) [] (← cursor!) with
  | some (text, c) =>
    setCursor c
    emit (.scalar (String.ofList text) false)
  | none => failure

def plain : Scan Unit := do
  savePlace
  allowKey false
  let s ← get
  let indent := match s.indent with
    | some n => n + 1
    | none => 0
  match plainFrom (s.flow != 0) indent (s.cursor.rest.length + 1) [] {} s.cursor with
  | some (text, broken, c) =>
    setCursor c
    emit (.scalar (String.ofList text) true)
    if broken then allowKey true
  | none => failure

def block (isLiteral : Bool) : Scan Unit := do
  dropPlace
  allowKey true
  skip 1
  match blockScalar? isLiteral (← get).indent (← cursor!) with
  | some (text, c) =>
    setCursor c
    emit (.scalar (String.ofList text) false)
  | none => failure

/-- The characters that start no plain scalar by themselves. -/
def isIndicator (c : Char) : Bool :=
  ['-', '?', ':', ',', '[', ']', '{', '}', '#', '&', '*', '!', '|', '>', '\'', '"', '%', '@',
    '\x60'].contains c

/-- Reads the token that starts with `d`, the character before `rest`. -/
def fetchAt (d : Char) (rest : List Char) : Scan Unit := do
  let s ← get
  let inFlow := s.flow != 0
  let apart := endsWord rest
  if s.cursor.column == 0 && d == '%' then
    unroll none
    dropPlace
    allowKey false
    directive
  else if s.cursor.atMark '-' then border .documentStart
  else if s.cursor.atMark '.' then border .documentEnd
  else if d == '[' then openFlow .flowSequence
  else if d == '{' then openFlow .flowMapping
  else if d == ']' then closeFlow .flowSequenceEnd
  else if d == '}' then closeFlow .flowMappingEnd
  else if d == ',' then
    dropPlace
    allowKey true
    skip 1
    emit .flowEntry
  else if d == '-' && apart then blockEntry
  else if d == '?' && (inFlow || apart) then explicitKey
  else if d == ':' && (inFlow || apart) then valueMark
  else if d == '*' then
    savePlace
    allowKey false
    anchor .reference
  else if d == '&' then
    savePlace
    allowKey false
    anchor .anchor
  else if d == '!' then
    savePlace
    allowKey false
    tag
  else if d == '|' && !inFlow then block true
  else if d == '>' && !inFlow then block false
  else if d == '\'' then quoted true
  else if d == '"' then quoted false
  else if !(isBlank d || isIndicator d) || (d == '-' && !rest.head?.any isBlank) ||
      (!inFlow && (d == '?' || d == ':') && !apart) then plain
  else failure

/-- Ends all blocks at the end of the text. -/
def finish : Scan Unit := do
  unroll none
  dropPlace

/-- Reads tokens up to the end of the text, one for each step of `fuel`. -/
def run : (fuel : Nat) → Scan Unit
  | 0 => failure
  | fuel + 1 => do
    skipToToken (← restFuel)
    dropStale
    unroll (some (← cursor!).column)
    match (← cursor!).rest with
    | [] => finish
    | d :: rest =>
      fetchAt d rest
      run fuel

end Scanner

/-- The tokens of a text, or `none` if the text is malformed. -/
def Token.read? (text : List Char) : Option (List Token) :=
  if text.all isAllowed then
    (Scanner.run (text.length + 1) { cursor := { rest := text } }).map fun r => r.2.tokens.reverse
  else none

end Storefront.Yaml
