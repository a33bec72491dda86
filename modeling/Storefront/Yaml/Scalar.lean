import Storefront.Yaml.Cursor
import Storefront.Json.Literal

/-!
# The text of scalars

A scalar is written plain, between quotes, or as an indented block. Line breaks inside a plain or
quoted scalar are folded: one break stands for a space, and of several all but the first are kept.
Of a block scalar the lines are kept or folded, and its last breaks are clipped, stripped or kept.

Each reader returns the text and the place behind it, or fails on a malformed scalar. `fuel` bounds
the number of lines.
-/

namespace Storefront.Yaml

/-- White space inside a scalar that is not written yet. -/
structure Gap where
  /-- A line has ended in the gap. -/
  broken : Bool := false
  blanks : List Char := []
  firstBreak : List Char := []
  moreBreaks : List Char := []

namespace Gap

/-- What the gap becomes between two words. -/
def text (g : Gap) : List Char :=
  if g.broken then
    if g.firstBreak == ['\n'] then if g.moreBreaks.isEmpty then [' '] else g.moreBreaks
    else g.firstBreak ++ g.moreBreaks
  else g.blanks

end Gap

/-- Reads white space. In a plain scalar, whose lines are indented by `indent`, no tab may stand in
the indentation. -/
def takeGap (indent : Option Nat) : (fuel : Nat) → Gap → Cursor → Option (Gap × Cursor)
  | 0, _, _ => none
  | fuel + 1, g, c =>
    match c.rest with
    | d :: _ =>
      if isBlank d then
        if g.broken && d == '\t' && indent.any (c.column < ·) then none
        else if g.broken then takeGap indent fuel g (c.skip 1)
        else takeGap indent fuel { g with blanks := g.blanks ++ [d] } (c.skip 1)
      else if isBreak d then
        let (s, c) := c.skipLine
        if g.broken then takeGap indent fuel { g with moreBreaks := g.moreBreaks ++ s } c
        else takeGap indent fuel { broken := true, firstBreak := s } c
      else some (g, c)
    | [] => some (g, c)

/-! ### Plain scalars -/

/-- The characters that end a plain scalar inside brackets and braces. -/
def isFlowIndicator (c : Char) : Bool :=
  [',', '[', ']', '{', '}'].contains c

/-- Reads a word of a plain scalar. -/
def plainWord (inFlow : Bool) : List Char → Option (List Char)
  | [] => some []
  | c :: rest =>
    if isBlank c || isBreak c then some []
    else if inFlow && c == ':' && rest.head?.any (fun d => isFlowIndicator d || d == '?') then none
    else if (c == ':' && endsWord rest) || (inFlow && isFlowIndicator c) then some []
    else (plainWord inFlow rest).map (c :: ·)

/-- A plain scalar from a word on: its text, whether a line ended behind it, and the place behind
its white space. -/
def plainFrom (inFlow : Bool) (indent : Nat) :
    (fuel : Nat) → List Char → Gap → Cursor → Option (List Char × Bool × Cursor)
  | 0, _, _, _ => none
  | fuel + 1, text, g, c =>
    if c.atBorder || c.sees (· == '#') then some (text, g.broken, c)
    else do
      let word ← plainWord inFlow c.rest
      let text := if word.isEmpty then text else text ++ g.text ++ word
      let g := if word.isEmpty then g else {}
      let c := c.skip word.length
      if !c.sees (fun d => isBlank d || isBreak d) then some (text, g.broken, c)
      else
        let (g, c) ← takeGap (some indent) (c.rest.length + 1) g c
        if !inFlow && c.column < indent then some (text, g.broken, c)
        else plainFrom inFlow indent fuel text g c

/-! ### Quoted scalars -/

/-- The character of a short escape. -/
def shortEscape? : Char → Option Char
  | '0' => some (Char.ofNat 0)
  | 'a' => some (Char.ofNat 7)
  | 'b' => some (Char.ofNat 8)
  | 't' | '\t' => some '\t'
  | 'n' => some '\n'
  | 'v' => some (Char.ofNat 11)
  | 'f' => some (Char.ofNat 12)
  | 'r' => some '\r'
  | 'e' => some (Char.ofNat 27)
  | ' ' => some ' '
  | '"' => some '"'
  | '/' => some '/'
  | '\\' => some '\\'
  | 'N' => some (Char.ofNat 0x85)
  | '_' => some (Char.ofNat 0xA0)
  | 'L' => some (Char.ofNat 0x2028)
  | 'P' => some (Char.ofNat 0x2029)
  | _ => none

/-- How many hexadecimal digits an escape takes. -/
def escapeDigits? : Char → Option Nat
  | 'x' => some 2
  | 'u' => some 4
  | 'U' => some 8
  | _ => none

/-- The number that hexadecimal digits spell. -/
def hexNumber? (digits : List Char) : Option Nat :=
  digits.foldlM (fun n c => (Json.hexValue? c).map (16 * n + ·)) 0

/-- The escape behind a backslash: its character, and how many characters it takes. -/
def escape? : List Char → Option (Char × Nat)
  | [] => none
  | c :: rest =>
    match shortEscape? c, escapeDigits? c with
    | some d, _ => some (d, 1)
    | none, some k =>
      if rest.length < k then none
      else
        match hexNumber? (rest.take k) with
        | some n =>
          if (0xD800 ≤ n ∧ n ≤ 0xDFFF) ∨ 0x10FFFF < n then none else some (Char.ofNat n, k + 1)
        | none => none
    | none, none => none

/-- The characters of a quoted scalar up to white space or the closing quote, with the number of
characters that they take; the flag tells whether a backslash before a line break comes next. -/
def quotedWord (isSingle : Bool) :
    (fuel : Nat) → List Char → Option (List Char × Nat × Bool)
  | 0, _ => none
  | fuel + 1, s =>
    let taking (c : Char) (n : Nat) : Option (List Char × Nat × Bool) := do
      let (cs, k, b) ← quotedWord isSingle fuel (s.drop n)
      return (c :: cs, n + k, b)
    match s with
    | [] => some ([], 0, false)
    | c :: rest =>
      if isBlank c || isBreak c then some ([], 0, false)
      else if isSingle then
        if c == '\'' then
          if rest.head? == some '\'' then taking '\'' 2 else some ([], 0, false)
        else taking c 1
      else if c == '"' then some ([], 0, false)
      else if c == '\\' then
        if rest.head?.any isBreak then some ([], 0, true)
        else do
          let (d, n) ← escape? rest
          taking d (n + 1)
      else taking c 1

/-- A quoted scalar behind its opening quote. -/
def quotedFrom (isSingle : Bool) : (fuel : Nat) → List Char → Cursor → Option (List Char × Cursor)
  | 0, _, _ => none
  | fuel + 1, text, c =>
    if c.atBorder || c.rest.isEmpty then none
    else do
      let (word, n, isEscapedBreak) ← quotedWord isSingle (c.rest.length + 1) c.rest
      let text := text ++ word
      let c := c.skip n
      let (g, c) : Gap × Cursor :=
        if isEscapedBreak then ({ broken := true }, ((c.skip 1).skipLine).2) else ({}, c)
      if c.sees (· == if isSingle then '\'' else '"') then some (text, c.skip 1)
      else
        let (g, c) ← takeGap none (c.rest.length + 1) g c
        quotedFrom isSingle fuel (text ++ g.text) c

/-! ### Block scalars -/

/-- What becomes of the breaks at the end of a block scalar. -/
inductive Chomping where
  | strip
  | clip
  | keep
deriving DecidableEq

def chomping? : Char → Option Chomping
  | '-' => some .strip
  | '+' => some .keep
  | _ => none

/-- The header of a block scalar: the chomping and the indentation, in either order. -/
def blockHeader? (c : Cursor) : Option (Chomping × Nat × Cursor) :=
  let digit? (c : Cursor) : Option (Nat × Cursor) :=
    match c.rest with
    | d :: _ =>
      if d == '0' then none
      else if d.isDigit then some (d.toNat - 48, c.skip 1)
      else some (0, c)
    | [] => some (0, c)
  match c.rest with
  | [] => some (.clip, 0, c)
  | d :: _ =>
    match chomping? d with
    | some chomping => (digit? (c.skip 1)).map fun (n, c) => (chomping, n, c)
    | none => (digit? c).map fun (n, c) =>
      match if n = 0 then none else c.rest.head?.bind chomping? with
      | some chomping => (chomping, n, c.skip 1)
      | none => (.clip, n, c)

/-- Reads the breaks and the indentation before a line of a block scalar: the breaks, and the
largest column that was reached. An `indent` of zero is not known yet. -/
def blockBreaks (indent : Nat) :
    (fuel : Nat) → List Char → (widest : Nat) → Cursor → Option (List Char × Nat × Cursor)
  | 0, _, _, _ => none
  | fuel + 1, breaks, widest, c =>
    let spaces := (c.rest.takeWhile (· == ' ')).length
    let c := c.skip (if indent = 0 then spaces else min spaces (indent - c.column))
    let widest := max widest c.column
    if (indent = 0 || c.column < indent) && c.sees (· == '\t') then none
    else if c.sees isBreak then
      let (s, c) := c.skipLine
      blockBreaks indent fuel (breaks ++ s) widest c
    else some (breaks, widest, c)

/-- A block scalar from a line on. -/
def blockFrom (isLiteral : Bool) (chomping : Chomping) (indent : Nat) :
    (fuel : Nat) → (text leadingBreak breaks : List Char) → (leadingBlank : Bool) → Cursor →
      Option (List Char × Cursor)
  | 0, _, _, _, _, _ => none
  | fuel + 1, text, leadingBreak, breaks, leadingBlank, c =>
    if c.column = indent ∧ c.rest ≠ [] then do
      let startsBlank := c.sees isBlank
      let joint :=
        if !isLiteral && leadingBreak.head? == some '\n' && !leadingBlank && !startsBlank then
          if breaks.isEmpty then [' '] else []
        else leadingBreak
      let line := c.rest.takeWhile fun d => !isBreak d
      let (leadingBreak, c') := (c.skip line.length).skipLine
      let (more, _, c') ← blockBreaks indent (c'.rest.length + 1) [] 0 c'
      blockFrom isLiteral chomping indent fuel (text ++ joint ++ breaks ++ line) leadingBreak more
        startsBlank c'
    else
      let ending := match chomping with
        | .strip => []
        | .clip => leadingBreak
        | .keep => leadingBreak ++ breaks
      some (text ++ ending, c)

/-- A block scalar behind its indicator; `outer` is the indentation around it, `none` at the top. -/
def blockScalar? (isLiteral : Bool) (outer : Option Nat) (c : Cursor) :
    Option (List Char × Cursor) := do
  let (chomping, increment, c) ← blockHeader? c
  let c := c.skipWhile isBlank
  let c := if c.sees (· == '#') then c.skipWhile fun d => !isBreak d else c
  if !endsLine c.rest then none
  else
    let c := c.skipLine.2
    let given := if increment = 0 then 0 else outer.getD 0 + increment
    let (breaks, widest, c) ← blockBreaks given (c.rest.length + 1) [] 0 c
    let least := match outer with
      | some n => n + 1
      | none => 1
    let indent := if given = 0 then max widest least else given
    blockFrom isLiteral chomping indent (c.rest.length + 1) [] [] breaks false c

end Storefront.Yaml
