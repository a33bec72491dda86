import Storefront.Template.Expression

/-!
# Tokens: text and tags

A source is cut into tokens from left to right. A tag that belongs to no block is read wherever it
stands; an else tag and a closing tag are read only where the innermost open block admits them, so
a source with tokens has its blocks properly nested, whatever their closing tags are called. A
source without tokens is malformed.

A text between two tags that is all white space is a *gap*. Two braces are escaped by a backslash,
and a row of backslashes before a tag stands for one backslash less.
-/

namespace Storefront.Template

open Grammar

/-- The kinds of blocks. -/
inductive BlockKind where
  | helper
  | raw
  | decorator
  | part
deriving DecidableEq, Repr

/-- What a tag does. -/
inductive TagKind where
  | value (escaped : Bool) (call : Expr)
  | comment
  | decorator (call : Expr)
  | part (call : Expr)
  | opening (kind : BlockKind) (call : Expr) (names : BlockNames)
  /-- An else that starts a further block in place of the rest. -/
  | chained (call : Expr) (names : BlockNames)
  | otherwise
  | closing (kind : BlockKind) (name : String)

/-- A tag's content and the tildes at its two ends. -/
structure TagText where
  trimBefore : Bool
  trimAfter : Bool
  kind : TagKind

/-- A tag at its place in the source. -/
structure Tag extends TagText where
  position : Text.Position
  /-- Whether only spaces and tabs stand before the tag on its line. -/
  startsLine : Bool
  /-- Whether only spaces and tabs stand behind the tag on its line. -/
  endsLine : Bool
  /-- The spaces and tabs directly before the tag. -/
  indent : List Char
  /-- The first literal in the tag that is no valid JSON. -/
  fault : Option String

inductive Token where
  /-- Text between tags, without the backslashes of its escapes. -/
  | text (isGap : Bool) (s : List Char)
  /-- The content of a raw block. -/
  | raw (s : List Char)
  | tag (t : Tag)

/-! ### Tags -/

/-- A tag between the given delimiters, with its tildes. -/
def delimited (left right : List Char) (inner : Grammar TagKind) : Grammar TagText := do
  exactly left
  let trimBefore ← given (next ['~'])
  blanks
  let kind ← inner
  let trimAfter ← given (next ['~'])
  next right
  return ⟨trimBefore, trimAfter, kind⟩

/-- A tag between double braces. -/
def braced (inner : Grammar TagKind) : Grammar TagText :=
  delimited ['{', '{'] ['}', '}'] inner

def elseWord : Grammar Unit :=
  exactly ['e', 'l', 's', 'e'] <|> exactly ['^']

def chainedTag : Grammar TagText :=
  braced do
    elseWord
    blanks
    let (call, names) ← blockCall
    return .chained call names

def otherwiseTag : Grammar TagText :=
  braced do
    elseWord
    return .otherwise

def valueTag : Grammar TagText := do
  notAhead otherwiseTag
  notAhead chainedTag
  braced (TagKind.value true <$> valueCall)

/-- The three forms of a tag whose value is not escaped. -/
def plainTag : Grammar TagText :=
  delimited ['{', '{', '{'] ['}', '}', '}'] (TagKind.value false <$> valueCall)
  <|> braced (do
    exactly ['{']
    blanks
    let call ← valueCall
    next ['}']
    return .value false call)
  <|> braced (do
    exactly ['&']
    blanks
    TagKind.value false <$> bareName)

def openingTag : Grammar TagText :=
  braced do
    exactly ['#']
    blanks
    let (call, names) ← blockCall
    return .opening .helper call names

def rawOpeningTag : Grammar TagText :=
  delimited ['{', '{', '{', '{'] ['}', '}', '}', '}'] do
    let (call, names) ← blockCall
    return .opening .raw call names

/-- What follows `stop` in a text in which it occurs. -/
def behind? (stop : List Char) : List Char → Option (List Char)
  | [] => none
  | c :: rest =>
    if stop.isPrefixOf (c :: rest) then some ((c :: rest).drop stop.length) else behind? stop rest

/-- A comment up to its end; the long form ends only with dashes, if such an end exists. White
space may stand in front of the dashes that open it. -/
def comment : Grammar TagText :=
  upTo (do start; next ['-', '-']) ['-', '-', '}', '}'] <|> upTo start ['}', '}']
where
  start : Grammar Unit := exactly ['{', '{', '!']
  /-- Takes everything from `left` to the next `right`. -/
  upTo (left : Grammar Unit) (right : List Char) : Grammar TagText := do
    left
    match behind? right (← get).rest with
    | some rest =>
      modify fun s => { s with rest }
      return ⟨false, false, .comment⟩
    | none => failure

def decoratorTag : Grammar TagText :=
  braced do
    exactly ['*']
    blanks
    let (call, _) ← blockCall
    return .decorator call

def decoratorOpeningTag : Grammar TagText :=
  braced do
    exactly ['#']
    next ['*']
    blanks
    let (call, names) ← blockCall
    return .opening .decorator call names

def partTag : Grammar TagText :=
  braced do
    exactly ['>']
    blanks
    TagKind.part <$> partCall

def partOpeningTag : Grammar TagText :=
  braced do
    exactly ['#']
    next ['>']
    blanks
    let call ← partCall
    return .opening .part call .none

/-- A tag that may stand anywhere. -/
def contentTag : Grammar TagText :=
  valueTag <|> plainTag <|> openingTag <|> rawOpeningTag <|> comment <|> decoratorTag
    <|> decoratorOpeningTag <|> partTag <|> partOpeningTag

/-- The tag that closes a block. -/
def closingTag (kind : BlockKind) : Grammar TagText :=
  let inner : Grammar TagKind := do
    exactly ['/']
    blanks
    let name ← optional? (if kind = .part then partName else identifier)
    return .closing kind (name.getD "")
  if kind = .raw then delimited ['{', '{', '{', '{'] ['}', '}', '}', '}'] inner else braced inner

/-! ### Text -/

/-- Takes text up to `stop`: the text without the backslashes of its escapes, and the rest. The
first `keep` characters are taken as they are. -/
def takeText (stop : List Char) : (keep : Nat) → List Char → List Char × List Char
  | _, [] => ([], [])
  | keep + 1, c :: rest =>
    let (s, rest) := takeText stop keep rest
    (c :: s, rest)
  | 0, c :: rest =>
    if stop.isPrefixOf (c :: rest) then ([], c :: rest)
    else
      let slashes := (rest.takeWhile (· == '\\')).length
      let after := rest.drop slashes
      if c = '\\' ∧ ['{', '{'].isPrefixOf after then
        let braces := if ['{', '{', '{', '{'].isPrefixOf after then 4 else 2
        takeText stop (if slashes = 0 then braces else slashes) rest
      else
        let (s, rest) := takeText stop 0 rest
        (c :: s, rest)

/-! ### Sources -/

/-- A block that is open: which tags may end its current part. -/
inductive OpenBlock where
  | helper (elseSeen : Bool)
  | decorator
  | part

/-- Where reading stands: the position, and what precedes it on its line, nearest first. -/
structure Cursor where
  position : Text.Position := .start
  line : List Char := []
  isStart : Bool := true

/-- The cursor behind `s`. -/
def Cursor.after (c : Cursor) (s : List Char) : Cursor where
  position := c.position.after s
  line := s.foldl (fun line c => if Text.isBreak c then [] else c :: line) c.line
  isStart := c.isStart && s.isEmpty

/-- The tag that was read at the cursor, with the text behind it. -/
def Cursor.tag (c : Cursor) (t : TagText) (fault : Option String) (rest : List Char) : Tag where
  toTagText := t
  position := c.position
  startsLine := c.line.all Text.isInline
  endsLine := rest.isEmpty || (rest.dropWhile Text.isInline).head?.any Text.isBreak
  indent := (c.line.takeWhile Text.isInline).reverse
  fault := fault

/-- The tags that the innermost open block admits besides content. -/
def OpenBlock.endTag : OpenBlock → Grammar TagText
  | helper false => chainedTag <|> otherwiseTag <|> closingTag .helper
  | helper true => closingTag .helper
  | decorator => closingTag .decorator
  | part => closingTag .part

/-- The open blocks after a tag. -/
def openAfter (kind : TagKind) (blocks : List OpenBlock) : List OpenBlock :=
  match kind, blocks with
  | .opening .helper _ _, blocks => .helper false :: blocks
  | .opening .decorator _ _, blocks => .decorator :: blocks
  | .opening .part _ _, blocks => .part :: blocks
  | .otherwise, _ :: blocks => .helper true :: blocks
  | .closing .raw _, blocks => blocks
  | .closing _ _, _ :: blocks => blocks
  | _, blocks => blocks

/-- Reads the tag at the front of a text, given the open blocks. -/
def tagAt (blocks : List OpenBlock) : Grammar TagText :=
  match blocks with
  | [] => contentTag
  | block :: _ => contentTag <|> block.endTag

/-- The text that stands before the suffix `rest` of `s`. -/
def before (s rest : List Char) : List Char :=
  s.take (s.length - rest.length)

/-- The tokens of a text, one step of `fuel` for each; `none` if it is malformed. -/
def tokensFrom : (fuel : Nat) → Cursor → List OpenBlock → List Char → Option (List Token)
  | 0, _, _, _ => none
  | _ + 1, _, blocks, [] => if blocks.isEmpty then some [] else none
  | fuel + 1, cursor, blocks, s =>
    if ['{', '{'].isPrefixOf s then do
      let (t, scan) ← tagAt blocks { rest := s }
      let tag := cursor.tag t scan.fault scan.rest
      let cursor := cursor.after (before s scan.rest)
      match t.kind with
      | .opening .raw _ _ =>
        let inner := scan.rest.dropWhile Text.isJsonBlank
        let (content, rest) := takeText ['{', '{', '{', '{'] 0 inner
        let cursor := cursor.after (before scan.rest rest)
        let (close, scan) ← closingTag .raw { rest := rest }
        let closing := cursor.tag close none scan.rest
        let tokens ← tokensFrom fuel (cursor.after (before rest scan.rest)) blocks scan.rest
        return .tag tag :: .raw content :: .tag closing :: tokens
      | kind =>
        let tokens ← tokensFrom fuel cursor (openAfter kind blocks) scan.rest
        return .tag tag :: tokens
    else
      let (text, rest) := takeText ['{', '{'] 0 s
      let isGap := !cursor.isStart && (before s rest).all Text.isJsonBlank
      do
        let tokens ← tokensFrom fuel (cursor.after (before s rest)) blocks rest
        return .text isGap text :: tokens

/-- The tokens of a source, or `none` if it is malformed. -/
def tokens? (source : List Char) : Option (List Token) :=
  tokensFrom (source.length + 1) {} [] source

end Storefront.Template
