import Storefront.Text.Blank

/-!
# Recognising text

A grammar either fails or takes something from the front of a text. Alternatives are ordered: the
second is tried only where the first fails, and from the same place. While it reads, a grammar
remembers the first literal that is no valid JSON; that is no failure, since the text is still
well-formed, but it is a fault of the whole template.
-/

namespace Storefront.Template

/-- What is left to read, and the first literal that is no valid JSON. -/
structure Scan where
  rest : List Char
  fault : Option String := none

abbrev Grammar := StateT Scan Option

namespace Grammar

open Text (isJsonBlank)

variable {α : Type}

/-- Takes the given characters. -/
def exactly : List Char → Grammar Unit
  | [] => pure ()
  | c :: cs => do
    match (← get).rest with
    | [] => failure
    | d :: rest =>
      if c = d then
        modify fun s => { s with rest }
        exactly cs
      else failure

def blanks : Grammar Unit :=
  modify fun s => { s with rest := s.rest.dropWhile isJsonBlank }

/-- Takes the given characters after white space. -/
def next (cs : List Char) : Grammar Unit := do
  blanks
  exactly cs

/-- Takes the characters that satisfy `p`, at least one. -/
def run (p : Char → Bool) : Grammar (List Char) := do
  let rest := (← get).rest
  match rest.takeWhile p with
  | [] => failure
  | cs =>
    modify fun s => { s with rest := rest.dropWhile p }
    return cs

/-- Takes what `g` takes, or nothing; tells which. -/
def optional? (g : Grammar α) : Grammar (Option α) :=
  (some <$> g) <|> pure none

def given (g : Grammar α) : Grammar Bool :=
  (do let _ ← g; return true) <|> pure false

/-- Succeeds without taking anything where `g` fails. -/
def notAhead (g : Grammar α) : Grammar Unit := do
  match g (← get) with
  | some _ => failure
  | none => pure ()

/-- Takes as many times as possible what `g` takes, at most `fuel` times. -/
def many (g : Grammar α) : (fuel : Nat) → Grammar (List α)
  | 0 => pure []
  | fuel + 1 => (do
    let a ← g
    let as ← many g fuel
    return a :: as) <|> pure []

/-- The number of characters that are left; no more steps can take anything. -/
def left : Grammar Nat :=
  return (← get).rest.length

/-- The text that `g` takes, with what it makes of it. -/
def taken (g : Grammar α) : Grammar (List Char × α) := do
  let before := (← get).rest
  let a ← g
  let after := (← get).rest
  return (before.take (before.length - after.length), a)

/-- Whether `g` takes something from the front of `s`. -/
def accepts (g : Grammar α) (s : List Char) : Bool :=
  (g { rest := s }).isSome

end Grammar

end Storefront.Template
