import Storefront.Table
import Storefront.Yaml.Token

/-!
# Events of YAML

The nodes of a document in reading order: scalars and aliases are one event each, and collections
are the events between their start and their end. Anchors are numbered, and an alias bears the
number of the node that it repeats. Where a node may be missing, a plain scalar without text takes
its place. Reading a malformed text gives no events at all.
-/

namespace Storefront.Yaml

inductive Event where
  | scalar (anchor : Option Nat) (tag : Option String) (isPlain : Bool) (text : String)
  | sequence (anchor : Option Nat) (tag : Option String)
  | mapping (anchor : Option Nat) (tag : Option String)
  /-- The end of a collection. -/
  | close
  | reference (anchor : Nat)

/-- The number of the anchor in front of a node. -/
def Event.anchor? : Event → Option Nat
  | scalar a _ _ _ | sequence a _ | mapping a _ => a
  | close | reference _ => none

/-- What composing events carries along. -/
structure Composer where
  tokens : List Token
  /-- The stems of tag handles. -/
  handles : Table String
  /-- The numbers of anchors. -/
  anchors : Table Nat := []
  /-- The events so far, the last first. -/
  events : List Event := []

namespace Composer

abbrev Compose := StateT Composer Option

/-- The next token, `none` at the end of the text. -/
def peek : Compose (Option Token) :=
  return (← get).tokens.head?

def advance : Compose Unit :=
  modify fun s => { s with tokens := s.tokens.tail }

def emit (e : Event) : Compose Unit :=
  modify fun s => { s with events := e :: s.events }

/-- Takes the next token if it is `t`. -/
def accept (t : Token) : Compose Bool := do
  if (← peek) = some t then
    advance
    return true
  else return false

/-- Takes the next token, which has to be `t`. -/
def expect (t : Token) : Compose Unit := do
  if !(← accept t) then failure

/-- Whether the next token is one of `ts`. -/
def sees (ts : List Token) : Compose Bool := do
  return (← peek).any (ts.contains ·)

/-- The full tag of a handle and a suffix. -/
def resolveTag (handle suffix : String) : Compose String := do
  if handle.isEmpty then return suffix
  match (← get).handles.get? handle with
  | some stem => return stem ++ suffix
  | none => failure

/-- The tag and the anchor in front of a node, in either order. -/
def properties : Compose (Option String × Option String) := do
  match ← peek with
  | some (.anchor a) =>
    advance
    match ← peek with
    | some (.tag h s) =>
      advance
      return (some (← resolveTag h s), some a)
    | _ => return (none, some a)
  | some (.tag h s) =>
    advance
    match ← peek with
    | some (.anchor a) =>
      advance
      return (some (← resolveTag h s), some a)
    | _ => return (some (← resolveTag h s), none)
  | _ => return (none, none)

/-- Gives an anchor the number of names in use before it. A name that is used again was counted
already, so the next new name shares its number. -/
def number (anchor : Option String) : Compose (Option Nat) := do
  match anchor with
  | none => return none
  | some a =>
    let n := (← get).anchors.length
    modify fun s => { s with anchors := s.anchors.insert a n }
    return some n

/-- A scalar without text. -/
def missing : Compose Unit :=
  emit (.scalar none none true "")

/-- A node unless one of `ends` comes next. -/
def unlessAt (ends : List Token) (node : Compose Unit) : Compose Unit := do
  if ← sees ends then missing else node

/-- The entries of a sequence by dashes, up to a token that is no dash. -/
def dashed (node : Compose Unit) (ends : List Token) : (fuel : Nat) → Compose Unit
  | 0 => failure
  | fuel + 1 => do
    if ← accept .blockEntry then
      unlessAt ends node
      dashed node ends fuel

def blockEntries (node : Compose Unit) : (fuel : Nat) → Compose Unit
  | 0 => failure
  | fuel + 1 => do
    if ← accept .key then
      unlessAt [.key, .value, .blockEnd] node
      if ← accept .value then unlessAt [.key, .value, .blockEnd] node else missing
      blockEntries node fuel
    else expect .blockEnd

/-- The value behind a key in brackets or braces that `close` ends. -/
def flowValue (node : Compose Unit) (close : Token) : Compose Unit := do
  if ← accept .value then unlessAt [.flowEntry, close] node else missing

/-- A pair that stands as an entry of a flow sequence, behind its key mark. A token that cannot
start the key is taken in its place. -/
def flowPair (node : Compose Unit) : Compose Unit := do
  emit (.mapping none none)
  if ← sees [.value, .flowEntry, .flowSequenceEnd] then
    advance
    missing
  else node
  flowValue node .flowSequenceEnd
  emit .close

/-- The entries of a flow sequence up to its end. -/
def flowItems (node : Compose Unit) : (fuel : Nat) → (isFirst : Bool) → Compose Unit
  | 0, _ => failure
  | fuel + 1, isFirst => do
    if ← accept .flowSequenceEnd then return
    if !isFirst then expect .flowEntry
    if ← accept .flowSequenceEnd then return
    if ← accept .key then flowPair node else node
    flowItems node fuel false

/-- The entries of a flow mapping up to its end. -/
def flowEntries (node : Compose Unit) : (fuel : Nat) → (isFirst : Bool) → Compose Unit
  | 0, _ => failure
  | fuel + 1, isFirst => do
    if ← accept .flowMappingEnd then return
    if !isFirst then expect .flowEntry
    if ← accept .flowMappingEnd then return
    if ← accept .key then
      unlessAt [.value, .flowEntry, .flowMappingEnd] node
      flowValue node .flowMappingEnd
    else
      node
      missing
    flowEntries node fuel false

/-- Where a node stands: it may be a block, and a sequence that is not indented. -/
inductive Context where
  | flow
  | block
  | blockOrDashes
deriving DecidableEq

/-- A collection: its start, its entries and its end. -/
def collection (start : Event) (entries : Compose Unit) : Compose Unit := do
  emit start
  entries
  emit .close

/-- The node that an alias repeats. -/
def repeated (name : String) : Compose Unit := do
  match (← get).anchors.get? name with
  | some n => emit (.reference n)
  | none => failure

/-- A node in its context. -/
def node : (fuel : Nat) → Context → Compose Unit
  | 0, _ => failure
  | fuel + 1, context => do
    if let some (.reference name) ← peek then
      advance
      repeated name
    else
      let (tag, anchor) ← properties
      let next ← peek
      if context = .blockOrDashes ∧ next = some .blockEntry then
        collection (.sequence (← number anchor) tag)
          (dashed (node fuel .block) [.blockEntry, .key, .value, .blockEnd] (fuel + 1))
      else
        match next with
        | some (.scalar text isPlain) =>
          advance
          emit (.scalar (← number anchor) (if tag = some "!" then none else tag) isPlain text)
        | some .flowSequence =>
          advance
          collection (.sequence (← number anchor) tag)
            (flowItems (node fuel .flow) (fuel + 1) true)
        | some .flowMapping =>
          advance
          collection (.mapping (← number anchor) tag)
            (flowEntries (node fuel .flow) (fuel + 1) true)
        | _ =>
          if context ≠ .flow ∧ next = some .blockSequence then
            advance
            collection (.sequence (← number anchor) tag) do
              dashed (node fuel .block) [.blockEntry, .blockEnd] (fuel + 1)
              expect .blockEnd
          else if context ≠ .flow ∧ next = some .blockMapping then
            advance
            collection (.mapping (← number anchor) tag)
              (blockEntries (node fuel .blockOrDashes) (fuel + 1))
          else if tag.isSome ∨ anchor.isSome then
            emit (.scalar (← number anchor) tag true "")
          else failure

/-- The directives before a document; whether there are any. -/
def directives : (fuel : Nat) → (versionSeen : Bool) → (named : List String) → Compose Bool
  | 0, _, _ => failure
  | fuel + 1, versionSeen, named => do
    match ← peek with
    | some (.version major minor) =>
      advance
      if versionSeen ∨ major ≠ 1 ∨ ¬(minor = 1 ∨ minor = 2) then failure
      let _ ← directives fuel true named
      return true
    | some (.tagHandle h stem) =>
      advance
      if named.contains h then failure
      modify fun s => { s with handles := s.handles.insert h stem }
      let _ ← directives fuel versionSeen (h :: named)
      return true
    | _ => return false

/-- Takes the marks that end a document. -/
def documentEnds : (fuel : Nat) → Compose Unit
  | 0 => failure
  | fuel + 1 => do
    if ← accept .documentEnd then documentEnds fuel

/-- The events of a text, which holds at most one document. -/
def document (fuel : Nat) : Compose Unit := do
  if (← peek).isNone then return
  let hasDirectives ← directives fuel false []
  if hasDirectives || (← peek) = some .documentStart then
    expect .documentStart
    match ← peek with
    | none | some .documentStart | some .documentEnd | some (.version _ _)
    | some (.tagHandle _ _) => missing
    | _ => node fuel .block
  else node fuel .block
  documentEnds fuel
  if (← peek).isSome then failure

end Composer

/-- The events of a text, or `none` if the text is malformed or holds several documents. -/
def Event.read? (text : List Char) : Option (List Event) := do
  let tokens ← Token.read? text
  let handles : Table String := Table.ofList [("!", "!"), ("!!", "tag:yaml.org,2002:")]
  let (_, s) ← Composer.document (2 * tokens.length + 2) { tokens, handles }
  return s.events.reverse

end Storefront.Yaml
