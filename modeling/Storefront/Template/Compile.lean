import Storefront.Template.Trim
import Storefront.Template.Error
import Storefront.Template.Description
import Storefront.Dialect

/-!
# Compiling a source

The pieces of a source are nested into the elements of a template. The tokens have seen to it that
blocks open and close in pairs; what is left to check is that a closing tag bears the name of the
block that it closes and that every literal is valid JSON, the first fault in the source counting.
A dialect without decorators then refuses a template that holds one at any depth.
-/

namespace Storefront.Template

/-- A block whose end has not been read: its opening, the finished part of a block before an else,
and the elements of the current part, the last first. -/
structure Frame where
  kind : BlockKind
  place : Placement
  call : Expr
  names : BlockNames
  /-- The elements before the else, once there is one. -/
  body : Option (List Element) := none
  elements : List Element := []
  /-- Whether this block stands for the else part of the block around it. -/
  isChained : Bool := false

/-- The block of a frame that is complete. -/
def Frame.finish (f : Frame) : Element :=
  let last := f.elements.reverse
  match f.kind with
  | .helper | .raw =>
    match f.body with
    | some body => .block f.place f.call f.names body last
    | none => .block f.place f.call f.names last []
  | .decorator => .decoratorBlock f.place f.call last
  | .part => .partBlock f.place f.call last

/-- The name that a closing tag is compared with. -/
def Frame.name (f : Frame) : Option String :=
  match f.call.callee with
  | .name s => some s
  | .path p => some p.text
  | _ => none

/-- The name of a frame in messages: a name that is a call is shown in full. -/
def Frame.title (f : Frame) : String :=
  f.name.getD f.call.callee.describe

/-- The elements read so far outside of all blocks, the last first, and the open blocks, the
innermost first. -/
structure Nesting where
  elements : List Element := []
  frames : List Frame := []

namespace Nesting

/-- Adds an element to the innermost open block. -/
def add (n : Nesting) (e : Element) : Nesting :=
  match n.frames with
  | [] => { n with elements := e :: n.elements }
  | f :: rest => { n with frames := { f with elements := e :: f.elements } :: rest }

def push (n : Nesting) (f : Frame) : Nesting :=
  { n with frames := f :: n.frames }

/-- Adds a block that is complete; if it is an else part, the block around it is complete too. -/
def settle (elements : List Element) (e : Element) : (isChained : Bool) → List Frame → Nesting
  | true, f :: rest =>
    settle elements { f with elements := e :: f.elements }.finish f.isChained rest
  | _, frames => add ⟨elements, frames⟩ e

/-- Ends the innermost block and all blocks of which it is the else part. -/
def pop (n : Nesting) : Nesting :=
  match n.frames with
  | [] => n
  | f :: rest => settle n.elements f.finish f.isChained rest

/-- The block that a closing tag names: the innermost that is no else part. -/
def named (n : Nesting) : Option Frame :=
  n.frames.find? fun f => !f.isChained

/-- Ends the current part of the innermost block at an else. -/
def divide (n : Nesting) : Nesting :=
  match n.frames with
  | [] => n
  | f :: rest =>
    { n with frames := { f with body := some f.elements.reverse, elements := [] } :: rest }

end Nesting

/-- The place of a tag. -/
def Tag.place (t : Tag) (standalone : Bool) : Placement where
  position := some t.position
  standalone := standalone && !t.trimBefore
  indent := match t.kind with
    | .part _ => if t.trimBefore || t.indent.isEmpty then none else some t.indent
    | _ => none

/-- Whether a closing tag's name fits the block that it closes. -/
def closes (kind : BlockKind) (opened : Option String) (closing : String) : Bool :=
  opened == some closing ||
    match kind with
    | .decorator | .part => closing == ""
    | .helper | .raw => false

/-- The word for a kind of block in a message. -/
def BlockKind.word : BlockKind → String
  | helper | raw => "helper"
  | decorator | part => "decorator"

/-- Adds a tag. -/
def Nesting.tag (source : List Char) (n : Nesting) (t : Tag) (standalone : Bool) :
    Except CompileError Nesting :=
  let place := t.place standalone
  match t.fault with
  | some text => .error (.invalidParameter text)
  | none =>
    match t.kind with
    | .value escaped call => .ok (n.add (.value place escaped call))
    | .comment => .ok n
    | .decorator call => .ok (n.add (.decorator place call))
    | .part call => .ok (n.add (.part place call))
    | .opening kind call names => .ok (n.push { kind, place, call, names })
    | .chained call names =>
      let place := { place with position := none }
      .ok (n.divide.push { kind := .helper, place, call, names, isChained := true })
    | .otherwise => .ok n.divide
    | .closing kind name =>
      match n.named with
      | none => .error .malformed
      | some f =>
        if closes kind f.name name then .ok n.pop
        else .error (.mismatch kind.word f.title name t.position source)

/-- Nests pieces into elements. -/
def nest (source : List Char) : Nesting → List Piece → Except CompileError Template
  | n, [] => if n.frames.isEmpty then .ok n.elements.reverse else .error .malformed
  | n, .text s :: rest => nest source (n.add (.text s)) rest
  | n, .tag t standalone :: rest => do
    let n ← n.tag source t standalone
    nest source n rest

/-- The template of a source, in the dialect with all tags. -/
def parse (source : List Char) : Except CompileError Template :=
  match tokens? source with
  | none => .error .malformed
  | some tokens => nest source {} (trimmed {} tokens)

/-! ### Decorators in a template -/

mutual

/-- Whether the first decorator of a template is a block; `none` if there is none. A template is
searched in the order of its source, without the bodies of decorators. -/
def firstDecorator : List Element → Option Bool
  | [] => none
  | e :: rest => decoratorIn e <|> firstDecorator rest

/-- The first decorator of an element. -/
def decoratorIn : Element → Option Bool
  | .decorator _ _ => some false
  | .decoratorBlock _ _ _ => some true
  | .block _ _ _ body inverse => firstDecorator body <|> firstDecorator inverse
  | .partBlock _ _ body => firstDecorator body
  | _ => none

end

/-- Compiles a source in a dialect. -/
def compile (dialect : Dialect) (source : String) : Except CompileError Template := do
  let template ← parse source.toList
  match dialect, firstDecorator template with
  | .v3, some isBlock => .error (.decoratorTag isBlock)
  | _, _ => .ok template

end Storefront.Template
