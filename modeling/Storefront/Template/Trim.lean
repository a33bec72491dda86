import Storefront.Template.Token

/-!
# White space around tags

A tilde at the end of a tag strips the white space on its side. A tag other than a value that
stands alone on its line takes the line with it: the spaces and tabs before it and the line break
after it. `trimmed` applies both rules to a list of tokens, and what remains of the tokens is
their text and, for each tag, whether it stands alone.
-/

namespace Storefront.Template

open Text (isInline isBreak)

/-- A token whose white space has been settled. -/
inductive Piece where
  | text (s : List Char)
  | tag (t : Tag) (standalone : Bool)

/-- Whether a tag of this kind can take its line with it. -/
def TagKind.takesLine : TagKind → Bool
  | value _ _ => false
  | _ => true

/-- Whether the tag stands alone on its line. -/
def Tag.standsAlone (t : Tag) : Bool :=
  t.kind.takesLine && t.startsLine && t.endsLine

/-- What the tags before a text have decided about its start. -/
structure Margin where
  /-- A tilde strips all white space. -/
  strip : Bool := false
  /-- The tag before took its line. -/
  tookLine : Bool := false

/-- What a tag decides about the start of the texts behind it. A comment decides nothing about
stripping, a value nothing about lines. -/
def Margin.after (m : Margin) (t : Tag) : Margin where
  strip := match t.kind with
    | .comment => m.strip
    | _ => t.trimAfter
  tookLine := if t.kind.takesLine then t.standsAlone else m.tookLine

/-- Drops a line break. -/
def dropBreak : List Char → List Char
  | '\r' :: '\n' :: rest => rest
  | '\n' :: rest => rest
  | s => s

/-- The start of a text, trimmed. -/
def Margin.trimStart (m : Margin) (s : List Char) : List Char :=
  if m.strip then Text.trimStart s
  else if m.tookLine then dropBreak (s.dropWhile isInline)
  else s

/-- The end of a text before a tag, trimmed. -/
def Tag.trimEnd (t : Tag) (s : List Char) : List Char :=
  let s := if t.trimBefore then Text.trimEnd s else s
  if t.standsAlone then Text.dropEndWhile isInline s else s

/-- The end of a text before the given tokens, trimmed. -/
def trimEndBefore (tokens : List Token) (s : List Char) : List Char :=
  match tokens with
  | .tag t :: _ => t.trimEnd s
  | _ => s

/-- The pieces of a list of tokens behind the margin `m`. A gap whose white space is stripped is
no text at all. -/
def trimmed : Margin → List Token → List Piece
  | _, [] => []
  | m, .text isGap s :: rest =>
    if isGap && m.strip then trimmed m rest
    else .text (trimEndBefore rest (m.trimStart s)) :: trimmed { m with tookLine := false } rest
  | m, .raw s :: rest => .text (trimEndBefore rest (m.trimStart s)) :: trimmed m rest
  | m, .tag t :: rest => .tag t t.standsAlone :: trimmed (m.after t) rest

end Storefront.Template
