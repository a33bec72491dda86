import Storefront.Render.Scope
import Storefront.Render.Page
import Storefront.Render.Helper
import Storefront.Render.Show

/-!
# Running a template

A run writes a page. It reads an environment that does not change (helpers, templates, the root
data) and carries the helpers' store, the page, the scopes and the content that was given to the
part. The elements of one template are run by recursion on their structure; a template that is
called by name is run one level deeper. Parts may call each other without end, so the levels are
counted: a run that goes deeper than the stack allows overflows, which is no failure that a run
reports.

Everything that a failing run did to the store stays done.
-/

namespace Storefront.Render

open Json (Value)

/-- What a run can use. -/
structure Environment (σ : Type) where
  /-- How values are escaped. -/
  escape : List Char → List Char
  helper? : String → Option (Helper σ)
  /-- The templates that parts can name. -/
  templates : Table Template
  root : Value
  /-- How many levels of parts the stack has room for. -/
  depth : Nat

/-- The helper called `name`, or else the one that stands in for missing ones. -/
def Environment.resolve {σ : Type} (env : Environment σ) (name standIn : String) :
    Except Reason (Helper σ) :=
  match env.helper? name <|> env.helper? standIn with
  | some h => .ok h
  | none => .error (.helperNotFound name)

variable {σ : Type}

/-! ### Expressions -/

/-- The text of a value that may be missing. -/
def shownText (v : Option Value) : String :=
  match v with
  | some v => String.ofList v.shown
  | none => ""

def callHelper (h : Helper σ) (i : Invocation) : EStateM Reason σ Outcome := fun s =>
  match h i s with
  | .ok (o, s) => .ok o s
  | .error e => .error e s

/-- A result that needs no store. -/
def settled {α ε σ : Type} : Except ε α → EStateM ε σ α
  | .ok a => pure a
  | .error e => throw e

mutual

/-- The value of an expression, `none` if it is missing. -/
def eval (env : Environment σ) (scopes : List Scope) : Expr → EStateM Reason σ (Option Value)
  | .name _ => pure none
  | .path p => settled (lookup env.root scopes p)
  | .literal v => pure (some v)
  | .call callee params hash => do
    let name ← match callee with
      | .name s => pure s
      | .path p => pure p.text
      | _ => shownText <$> eval env scopes callee
    let params ← evalParams env scopes params
    let hash ← evalHash env scopes hash
    let h ← settled (env.resolve name "helperMissing")
    let o ← callHelper h { params, hash }
    return some o.result

/-- The values of positional parameters; a missing one counts as null. -/
def evalParams (env : Environment σ) (scopes : List Scope) :
    List Expr → EStateM Reason σ (List Value)
  | [] => pure []
  | e :: es => do
    let v ← eval env scopes e
    let vs ← evalParams env scopes es
    return v.getD .null :: vs

/-- The values of named parameters. -/
def evalHash (env : Environment σ) (scopes : List Scope) :
    List (String × Expr) → EStateM Reason σ (List (String × Value))
  | [] => pure []
  | (k, e) :: es => do
    let v ← eval env scopes e
    let vs ← evalHash env scopes es
    return (k, v.getD .null) :: vs

end

/-- The name that a callee stands for. -/
def evalName (env : Environment σ) (scopes : List Scope) : Expr → EStateM Reason σ String
  | .name s => pure s
  | .path p => pure p.text
  | e => shownText <$> eval env scopes e

/-! ### Runs -/

structure State (σ : Type) where
  store : σ
  page : Page := {}
  scopes : List Scope
  /-- The content given to the part that runs, if it was called in block form. -/
  content : Option String := none

abbrev Run (σ : Type) := EStateM (Halt Failure) (State σ)

namespace Run

variable {α : Type}

/-- Evaluates in the current scopes. -/
def evaluate (m : List Scope → EStateM Reason σ α) : Run σ α := fun s =>
  match m s.scopes s.store with
  | .ok a store => .ok a { s with store }
  | .error reason store => .error (.failed { reason }) { s with store }

def fail (reason : Reason) : Run σ α :=
  throw (.failed { reason })

/-- Places the failures of `m` that have no place. -/
def placed (position : Option Text.Position) (m : Run σ α) : Run σ α := fun s =>
  match m s with
  | .error e s => .error (e.map (·.at? position)) s
  | r => r

def onPage (f : Page → Page) : Run σ Unit :=
  modify fun s => { s with page := f s.page }

/-- Writes at the current indentation. -/
def write (text : List Char) : Run σ Unit :=
  onPage (·.write text)

/-- Writes as it is. -/
def put (text : List Char) : Run σ Unit :=
  onPage (·.put text)

/-- Runs `m` with one more scope. -/
def inScope (scope : Scope) (m : Run σ Unit) : Run σ Unit := do
  modify fun s => { s with scopes := scope :: s.scopes }
  m
  modify fun s => { s with scopes := s.scopes.tail }

def onScope (f : Scope → Scope) : Run σ Unit :=
  modify fun s => { s with scopes := match s.scopes with
    | [] => []
    | scope :: rest => f scope :: rest }

def scope : Run σ Scope :=
  return (← get).scopes.headD default

/-- Runs `m` once for each round, in one scope that keeps the parts defined in it. -/
def rounds (rs : List Round) (m : Run σ Unit) : Run σ Unit :=
  inScope { value := .null } <| rs.forM fun r => do
    onScope fun scope =>
      { scope with value := r.value, locals := r.locals, names := r.names }
    m

/-- The text that `m` writes, which does not reach the page. -/
def captured (m : Run σ Unit) : Run σ String := do
  let outer := (← get).page.text
  onPage fun p => { p with text := "" }
  m
  let inner := (← get).page.text
  onPage fun p => { p with text := outer }
  return inner

end Run

open Run

/-- The name and the evaluated parameters of a call. -/
def invocation (env : Environment σ) (call : Expr) (names : BlockNames) :
    Run σ (String × Invocation) :=
  evaluate fun scopes => do
    let name ← evalName env scopes call.callee
    let params ← evalParams env scopes call.params
    let hash ← evalHash env scopes call.hash
    return (name, { params, hash, names })

/-! ### Tags -/

/-- Runs `m` as the output of a helper. -/
def asHelper (standalone : Bool) (m : Run σ Unit) : Run σ Unit := do
  let before := (← get).page
  onPage (·.enterHelper standalone)
  m
  onPage (·.leave before)

/-- What an outcome writes where there is no block. -/
def writeOutcome (escape : List Char → List Char) : Outcome → Run σ Unit
  | .value v => write (escape v.shown)
  | .verdict b => put (Value.bool b).shown
  | .text s => put s.toList
  | _ => pure ()

/-- A tag that calls a helper. -/
def helperTag (env : Environment σ) (escape : List Char → List Char) (call : Expr) :
    Run σ Unit := do
  let (name, i) ← invocation env call .none
  let h ← settled ((env.resolve name "helperMissing").mapError fun reason => .failed { reason })
  asHelper false do
    let o ← evaluate fun _ => callHelper h i
    writeOutcome escape o

/-- A tag that writes a value. A bare name calls the helper of that name if there is one; a value
that is missing is left to the helper that stands in for missing ones. -/
def valueTag (env : Environment σ) (escaped : Bool) (call : Expr) : Run σ Unit := do
  let escape := if escaped then env.escape else id
  if call.isBare then
    let name ← evaluate fun scopes => evalName env scopes call.callee
    if (env.helper? name).isSome then helperTag env escape call
    else
      match ← evaluate fun scopes => eval env scopes call.callee with
      | some v => write (escape v.shown)
      | none =>
        match env.helper? "helperMissing" with
        | some h =>
          let (_, i) ← invocation env call .none
          let o ← evaluate fun _ => callHelper h i
          writeOutcome escape o
        | none => pure ()
  else helperTag env escape call

/-- A block whose helper decides what becomes of its two parts. -/
def blockTag (env : Environment σ) (standalone : Bool) (call : Expr) (names : BlockNames)
    (body inverse : Run σ Unit) : Run σ Unit := do
  let (name, i) ← invocation env call names
  let h ← settled ((env.resolve name "blockHelperMissing").mapError fun reason =>
    .failed { reason })
  asHelper standalone do
    let o ← evaluate fun _ => callHelper h i
    match o with
    | .value _ => writeOutcome env.escape o
    | .verdict b => if b then body else inverse
    | .text _ => writeOutcome env.escape o
    | .nothing => pure ()
    | .body => body
    | .inverse => inverse
    | .within value names =>
      let outer ← scope
      inScope { value, names, locals := outer.locals } body
    | .rounds rs => rounds rs body

/-- A decorator. The only one there is defines a part in the current scope. -/
def decorate (env : Environment σ) (call : Expr) (body : Option Template) : Run σ Unit := do
  let (name, i) ← invocation env call .none
  if name = "inline" then
    match i.params.head? with
    | none => fail (.missingParam name 0)
    | some v =>
      match v.string?, body with
      | none, _ => fail (.invalidParamType "String")
      | some _, none => fail .blockContentRequired
      | some part, some body =>
        onScope fun scope => { scope with parts := scope.parts.insert part body }
  else fail (.decoratorNotFound name)

/-- A value with fields added: arrays and strings become objects with numbered fields. -/
def withFields (base : Value) (new : Table Value) : Value :=
  if new.isEmpty then base
  else
    let numbered (vs : List Value) : Table Value :=
      Table.ofList ((List.range vs.length).map toString |>.zip vs)
    let fields := match base with
      | .object fields => fields
      | .array items => numbered items
      | .string s => numbered (s.toList.map fun c => .string (String.singleton c))
      | _ => []
    .object (Table.insertAll fields new)

/-- Runs the template of a part in a scope of its own, at its own indentation. A body is run first,
in that scope, and its text is the content that the template may place; without a body there is no
content. -/
def runPart (place : Placement) (i : Invocation) (body : Option (Run σ Unit))
    (template : Run σ Unit) : Run σ Unit := do
  let outer ← scope
  let value := withFields (i.params.headD outer.value) i.hash
  inScope { value, names := i.hash, locals := outer.locals } do
    let content ← match body with
      | some body => some <$> captured body
      | none => pure none
    let around ← get
    modify fun s => { s with content }
    onPage fun p => { p with indent := p.innerIndent place.indent }
    template
    onPage fun p => { p with indent := around.page.indent }
    modify fun s => { s with content := around.content }

/-- A tag that calls a part; `body` is what a block form holds. `visit` runs a template that is
called by name. The body stands in for a part that is not there, and in its own scope for content
that was not given. -/
def partTag (env : Environment σ) (visit : Template → Run σ Unit) (place : Placement) (call : Expr)
    (body : Option (Run σ Unit)) : Run σ Unit := do
  let (name, i) ← invocation env call .none
  let before := (← get).page
  onPage (·.enterPart place.standalone place.indent)
  if name = "@partial-block" then
    match (← get).content, body with
    | some content, _ => put content.toList
    | none, some body => body
    | none, none => fail .noBlockContent
  else
    match part? (← get).scopes name <|> env.templates.get? name, body with
    | some t, _ => runPart place i body (visit t)
    | none, some body => runPart place i none body
    | none, none => fail (.partNotFound name)
  onPage (·.leave before)

/-! ### Templates -/

mutual

def runElement (env : Environment σ) (visit : Template → Run σ Unit) : Element → Run σ Unit
  | .text s => write s
  | .value place escaped call => placed place.position (valueTag env escaped call)
  | .block place call names body inverse =>
    placed place.position
      (blockTag env place.standalone call names (runElements env visit body)
        (runElements env visit inverse))
  | .decorator place call => placed place.position (decorate env call none)
  | .decoratorBlock place call body => placed place.position (decorate env call (some body))
  | .part place call => placed place.position (partTag env visit place call none)
  | .partBlock place call body =>
    placed place.position
      (partTag env visit place call (some (runElements env visit body)))

def runElements (env : Environment σ) (visit : Template → Run σ Unit) : List Element → Run σ Unit
  | [] => pure ()
  | e :: es => do
    runElement env visit e
    runElements env visit es

end

/-- Runs a template on a stack with room for `depth` levels. -/
def runTemplate (env : Environment σ) : (depth : Nat) → Template → Run σ Unit
  | 0, _ => throw .overflow
  | depth + 1, t => runElements env (runTemplate env depth) t

/-- Renders a template: its text or why there is none, and the store as the run left it. -/
def Environment.render (env : Environment σ) (t : Template) (store : σ) :
    Except (Halt Failure) String × σ :=
  match runTemplate env (env.depth + 1) t { store, scopes := [{ value := env.root }] } with
  | .ok _ s => (.ok s.page.text, s.store)
  | .error e s => (.error e, s.store)

end Storefront.Render
