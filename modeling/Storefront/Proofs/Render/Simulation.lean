import Storefront.Proofs.Render.Simulates
import Mathlib.Data.Option.Basic

/-!
# Two runs of a template

A template is run twice, in environments that agree on helpers, templates and root data and that
escape values alike up to a relation `T` of texts; the stores are related by `Q`. The runs then
stay together: they fail at the same place for the same reason or both end, with related stores and
with pages that are related by `T` (`EnvRel.render`). What is written is never read again, so all
that `T` has to respect is what writing looks at (`TextRel`).

The two stacks may be of different sizes, and a run on the smaller one may overflow where the other
goes on. As long as it does not, the size of the stack makes no difference
(`Environment.render_depth`).
-/

namespace Storefront.Render

open Json (Value)
open Text (isBreak)

variable {σ τ : Type} {Q : σ → τ → Prop} {T : List Char → List Char → Prop} {G : Prop}

/-! ### Texts and pages -/

/-- Strings whose characters are related. -/
def StringRel (T : List Char → List Char → Prop) (a b : String) : Prop :=
  T a.toList b.toList

/-- A relation of texts that is kept by writing them. -/
structure TextRel (T : List Char → List Char → Prop) : Prop where
  refl : ∀ s, T s s
  append : ∀ {s t a b}, T s t → T a b → T (s ++ a) (t ++ b)
  isEmpty_eq : ∀ {s t}, T s t → s.isEmpty = t.isEmpty
  head_isBreak : ∀ {s t}, T s t → s.head?.any isBreak = t.head?.any isBreak
  getLast_isBreak : ∀ {s t}, T s t → s.getLast?.any isBreak = t.getLast?.any isBreak
  indented : ∀ {s t}, T s t → ∀ indent, T (Page.indented indent s) (Page.indented indent t)

theorem TextRel.eq : TextRel Eq where
  refl _ := rfl
  append := by
    rintro s _ a _ rfl rfl
    rfl
  isEmpty_eq := congrArg _
  head_isBreak := by
    rintro s _ rfl
    rfl
  getLast_isBreak := by
    rintro s _ rfl
    rfl
  indented := by
    rintro s _ rfl _
    rfl

theorem ExceptRel.eq {ε : Type} {x y : Except ε String} (h : ExceptRel (StringRel Eq) x y) :
    x = y := by
  cases h with
  | ok h => rw [String.toList_injective h]
  | error e => rfl

theorem StringRel.append_ofList (hT : TextRel T) {a b : String} {s t : List Char}
    (h : StringRel T a b) (hs : T s t) :
    StringRel T (a ++ String.ofList s) (b ++ String.ofList t) := by
  unfold StringRel
  rw [String.toList_append, String.toList_append, String.toList_ofList, String.toList_ofList]
  exact hT.append h hs

/-- Pages that differ in their texts only. -/
structure PageRel (T : List Char → List Char → Prop) (p q : Page) : Prop where
  text : StringRel T p.text q.text
  indent : p.indent = q.indent
  pending : p.pending = q.pending
  lineEnded : p.lineEnded = q.lineEnded
  produced : p.produced = q.produced

namespace PageRel

variable {p q before before' : Page} {s t : List Char}

theorem put (hT : TextRel T) (h : PageRel T p q) (hs : T s t) : PageRel T (p.put s) (q.put t) :=
  ⟨h.text.append_ofList hT hs, h.indent, h.pending, h.lineEnded, h.produced⟩

theorem write (hT : TextRel T) (h : PageRel T p q) (hs : T s t) :
    PageRel T (p.write s) (q.write t) := by
  unfold Page.write
  rw [← hT.isEmpty_eq hs, ← h.indent, ← h.pending, ← hT.head_isBreak hs, ← hT.getLast_isBreak hs]
  split
  · exact h
  · refine ⟨?_, rfl, rfl, rfl, rfl⟩
    exact h.text.append_ofList hT (hT.append (hT.refl _) (hT.indented hs _))

theorem enterHelper (h : PageRel T p q) (standalone : Bool) :
    PageRel T (p.enterHelper standalone) (q.enterHelper standalone) := by
  refine ⟨h.text, h.indent, ?_, h.lineEnded, rfl⟩
  rw [Page.enterHelper, Page.enterHelper, h.pending, h.lineEnded]

theorem enterPart (h : PageRel T p q) (standalone : Bool) (indent : Option (List Char)) :
    PageRel T (p.enterPart standalone indent) (q.enterPart standalone indent) := by
  refine ⟨h.text, h.indent, ?_, h.lineEnded, rfl⟩
  rw [Page.enterPart, Page.enterPart, h.lineEnded]

theorem leave (h : PageRel T p q) (hb : PageRel T before before') :
    PageRel T (p.leave before) (q.leave before') := by
  unfold Page.leave
  rw [← h.produced]
  split
  · exact ⟨h.text, h.indent, h.lineEnded, h.lineEnded, rfl⟩
  · exact ⟨h.text, h.indent, hb.pending, h.lineEnded, hb.produced⟩

end PageRel

/-! ### Helpers and environments -/

/-- Helpers that do the same on related stores. -/
def HelperRel (Q : σ → τ → Prop) (f : Helper σ) (g : Helper τ) : Prop :=
  ∀ i, Simulates Never Q Eq (callHelper f i) (callHelper g i)

theorem helperRel_refl : ∀ f : Option (Helper σ), Option.Rel (HelperRel Eq) f f
  | none => .none
  | some _ => .some fun _ => .refl _

structure EnvRel (Q : σ → τ → Prop) (T : List Char → List Char → Prop) (env : Environment σ)
    (env' : Environment τ) : Prop where
  escape : ∀ s, T (env.escape s) (env'.escape s)
  helper : ∀ name, Option.Rel (HelperRel Q) (env.helper? name) (env'.helper? name)
  templates : ∀ name, env.templates.get? name = env'.templates.get? name
  root : env.root = env'.root

namespace EnvRel

variable {env : Environment σ} {env' : Environment τ}

theorem resolve (h : EnvRel Q T env env') (name standIn : String) :
    ExceptRel (HelperRel Q) (env.resolve name standIn) (env'.resolve name standIn) := by
  unfold Environment.resolve
  have hname := h.helper name
  have hstandIn := h.helper standIn
  generalize env.helper? name = f, env'.helper? name = g at hname ⊢
  cases hname with
  | some hfg => exact .ok hfg
  | none =>
    generalize env.helper? standIn = f, env'.helper? standIn = g at hstandIn ⊢
    cases hstandIn with
    | some hfg => exact .ok hfg
    | none => exact .error _

/-! ### Expressions -/

theorem evalName_of_eval {scopes : List Scope} {e : Expr}
    (he : Simulates Never Q Eq (eval env scopes e) (eval env' scopes e)) :
    Simulates Never Q Eq (evalName env scopes e) (evalName env' scopes e) := by
  cases e with
  | name s => exact .pure rfl
  | path p => exact .pure rfl
  | literal v => exact he.map fun _ _ => congrArg shownText
  | call callee params hash => exact he.map fun _ _ => congrArg shownText

theorem eval_call (env : Environment σ) (scopes : List Scope) (callee : Expr) (params : List Expr)
    (hash : List (String × Expr)) :
    eval env scopes (.call callee params hash) = do
      let name ← evalName env scopes callee
      let params ← evalParams env scopes params
      let hash ← evalHash env scopes hash
      let h ← settled (env.resolve name "helperMissing")
      let o ← callHelper h { params, hash }
      return some o.result := by
  cases callee <;> rfl

mutual

theorem simulates_eval (h : EnvRel Q T env env') (scopes : List Scope) :
    ∀ e, Simulates Never Q Eq (eval env scopes e) (eval env' scopes e)
  | .name _ => .pure rfl
  | .path p => by
    unfold eval
    rw [h.root]
    exact .settled (.refl _)
  | .literal _ => .pure rfl
  | .call callee params hash => by
    rw [eval_call, eval_call]
    refine (evalName_of_eval (h.simulates_eval scopes callee)).bind_eq fun name => ?_
    refine (h.simulates_evalParams scopes params).bind_eq fun params => ?_
    refine (h.simulates_evalHash scopes hash).bind_eq fun hash => ?_
    refine (Simulates.settled (h.resolve name _)).bind fun f g hfg => ?_
    exact (hfg _).bind_eq fun o => .pure rfl

theorem simulates_evalParams (h : EnvRel Q T env env') (scopes : List Scope) :
    ∀ es, Simulates Never Q Eq (evalParams env scopes es) (evalParams env' scopes es)
  | [] => .pure rfl
  | e :: es => by
    refine (h.simulates_eval scopes e).bind_eq fun v => ?_
    exact (h.simulates_evalParams scopes es).bind_eq fun vs => .pure rfl

theorem simulates_evalHash (h : EnvRel Q T env env') (scopes : List Scope) :
    ∀ es, Simulates Never Q Eq (evalHash env scopes es) (evalHash env' scopes es)
  | [] => .pure rfl
  | (_, e) :: es => by
    refine (h.simulates_eval scopes e).bind_eq fun v => ?_
    exact (h.simulates_evalHash scopes es).bind_eq fun vs => .pure rfl

end

theorem simulates_evalName (h : EnvRel Q T env env') (scopes : List Scope) (e : Expr) :
    Simulates Never Q Eq (evalName env scopes e) (evalName env' scopes e) :=
  evalName_of_eval (h.simulates_eval scopes e)

end EnvRel

/-! ### Steps of a run -/

/-- States of two runs that stay together. -/
structure StateRel (Q : σ → τ → Prop) (T : List Char → List Char → Prop) (s : State σ)
    (t : State τ) : Prop where
  store : Q s.store t.store
  page : PageRel T s.page t.page
  scopes : s.scopes = t.scopes
  content : Option.Rel (StringRel T) s.content t.content

/-- The errors with which a run gives up: overflows, where `G` allows that. -/
def GivesUp (G : Prop) (e : Halt Failure) : Prop :=
  G ∧ e = .overflow

/-- Two runs stay together, unless the first overflows where `G` allows that. -/
abbrev Together {α β : Type} (G : Prop) (Q : σ → τ → Prop) (T : List Char → List Char → Prop)
    (R : α → β → Prop) (m : Run σ α) (n : Run τ β) : Prop :=
  Simulates (GivesUp G) (StateRel Q T) R m n

namespace Run

variable {α β : Type} {R : α → β → Prop}

theorem simulates_evaluate {m : List Scope → EStateM Reason σ α}
    {n : List Scope → EStateM Reason τ β}
    (h : ∀ scopes, Simulates Never Q R (m scopes) (n scopes)) :
    Together G Q T R (evaluate m) (evaluate n) := by
  intro s t hs
  have hmn := h s.scopes s.store t.store hs.store
  unfold evaluate
  rw [← hs.scopes]
  generalize m s.scopes s.store = x, n s.scopes t.store = y at hmn ⊢
  cases hmn with
  | ok hab hst => exact .ok hab ⟨hst, hs.page, rfl, hs.content⟩
  | error e hst => exact .error _ ⟨hst, hs.page, rfl, hs.content⟩
  | gaveUp h => exact h.elim

theorem simulates_placed {S : State σ → State τ → Prop} {m : Run σ α} {n : Run τ β}
    (h : Simulates (GivesUp G) S R m n) (position : Option Text.Position) :
    Simulates (GivesUp G) S R (placed position m) (placed position n) := by
  intro s t hs
  have hmn := h s t hs
  unfold placed
  generalize m s = x, n t = y at hmn ⊢
  cases hmn with
  | ok hab hst => exact .ok hab hst
  | error e hst => exact .error _ hst
  | gaveUp h =>
    obtain ⟨hG, rfl⟩ := h
    exact .gaveUp ⟨hG, rfl⟩

theorem simulates_onPage {f g : Page → Page}
    (h : ∀ p q, PageRel T p q → PageRel T (f p) (g q)) :
    Together G Q T Eq (onPage f : Run σ Unit) (onPage g : Run τ Unit) :=
  .modify fun _ _ hs => ⟨hs.store, h _ _ hs.page, hs.scopes, hs.content⟩

theorem simulates_write (hT : TextRel T) {s t : List Char} (h : T s t) :
    Together G Q T Eq (write s : Run σ Unit) (write t : Run τ Unit) :=
  simulates_onPage fun _ _ hp => hp.write hT h

theorem simulates_put (hT : TextRel T) {s t : List Char} (h : T s t) :
    Together G Q T Eq (put s : Run σ Unit) (put t : Run τ Unit) :=
  simulates_onPage fun _ _ hp => hp.put hT h

theorem simulates_onScopes (f : List Scope → List Scope) :
    Together G Q T Eq
      (modify fun s => { s with scopes := f s.scopes } : Run σ Unit)
      (modify fun s => { s with scopes := f s.scopes } : Run τ Unit) :=
  .modify fun _ _ hs => ⟨hs.store, hs.page, congrArg f hs.scopes, hs.content⟩

theorem simulates_scope :
    Together G Q T Eq (scope : Run σ Scope) (scope : Run τ Scope) :=
  Simulates.get.bind fun _ _ hs => .pure (by rw [hs.scopes])

theorem simulates_inScope (scope : Scope) {m : Run σ Unit} {n : Run τ Unit}
    (h : Together G Q T Eq m n) :
    Together G Q T Eq (inScope scope m) (inScope scope n) := by
  refine (simulates_onScopes (scope :: ·)).bind_eq fun _ => ?_
  exact h.bind_eq fun _ => simulates_onScopes List.tail

theorem simulates_onScope (f : Scope → Scope) :
    Together G Q T Eq (onScope f : Run σ Unit) (onScope f : Run τ Unit) :=
  .modify fun s t hs => by
    refine ⟨hs.store, hs.page, ?_, hs.content⟩
    dsimp only
    rw [hs.scopes]

theorem simulates_rounds (rs : List Round) {m : Run σ Unit} {n : Run τ Unit}
    (h : Together G Q T Eq m n) :
    Together G Q T Eq (rounds rs m) (rounds rs n) := by
  refine simulates_inScope _ (.forM rs fun r => ?_)
  exact (simulates_onScope _).bind_eq fun _ => h

/-- What two runs write apart from the page is related as texts are. -/
theorem simulates_captured (hT : TextRel T) {m : Run σ Unit} {n : Run τ Unit}
    (h : Together G Q T Eq m n) :
    Together G Q T (StringRel T) (captured m) (captured n) := by
  refine Simulates.get.bind fun s t hs => ?_
  refine (simulates_onPage fun p q hp => ?_).bind_eq fun _ => ?_
  · exact ⟨hT.refl _, hp.indent, hp.pending, hp.lineEnded, hp.produced⟩
  refine h.bind_eq fun _ => ?_
  refine Simulates.get.bind fun s' t' hs' => ?_
  refine (simulates_onPage fun p q hp => ?_).bind_eq fun _ => .pure hs'.page.text
  exact ⟨hs.page.text, hp.indent, hp.pending, hp.lineEnded, hp.produced⟩

end Run

open Run

/-! ### Tags -/

theorem simulates_asHelper (standalone : Bool) {m : Run σ Unit} {n : Run τ Unit}
    (h : Together G Q T Eq m n) :
    Together G Q T Eq (asHelper standalone m) (asHelper standalone n) := by
  refine Simulates.get.bind fun s t hs => ?_
  refine (simulates_onPage fun _ _ hp => hp.enterHelper standalone).bind_eq fun _ => ?_
  exact h.bind_eq fun _ => simulates_onPage fun _ _ hp => hp.leave hs.page

theorem simulates_writeOutcome (hT : TextRel T) {f g : List Char → List Char}
    (hfg : ∀ s, T (f s) (g s)) (o : Outcome) :
    Together G Q T Eq (writeOutcome f o : Run σ Unit)
      (writeOutcome g o : Run τ Unit) := by
  cases o with
  | value v => exact simulates_write hT (hfg v.shown)
  | verdict b => exact simulates_put hT (hT.refl _)
  | text s => exact simulates_put hT (hT.refl _)
  | _ => exact .pure rfl

namespace EnvRel

variable {env : Environment σ} {env' : Environment τ}

theorem simulates_invocation (h : EnvRel Q T env env') (call : Expr) (names : BlockNames) :
    Together G Q T Eq (invocation env call names) (invocation env' call names) := by
  refine simulates_evaluate fun scopes => ?_
  refine (h.simulates_evalName scopes call.callee).bind_eq fun name => ?_
  refine (h.simulates_evalParams scopes call.params).bind_eq fun params => ?_
  exact (h.simulates_evalHash scopes call.hash).bind_eq fun hash => .pure rfl

theorem simulates_helperTag (hT : TextRel T) (h : EnvRel Q T env env')
    {f g : List Char → List Char} (hfg : ∀ s, T (f s) (g s)) (call : Expr) :
    Together G Q T Eq (helperTag env f call) (helperTag env' g call) := by
  refine (h.simulates_invocation call .none).bind_eq fun (name, i) => ?_
  refine (Simulates.settled ((h.resolve name _).mapError _)).bind fun _ _ hh => ?_
  refine simulates_asHelper false ?_
  exact (simulates_evaluate fun _ => hh i).bind_eq fun o => simulates_writeOutcome hT hfg o

theorem simulates_valueTag (hT : TextRel T) (h : EnvRel Q T env env') (escaped : Bool)
    (call : Expr) :
    Together G Q T Eq (valueTag env escaped call) (valueTag env' escaped call) := by
  have hescape : ∀ s, T ((if escaped then env.escape else id) s)
      ((if escaped then env'.escape else id) s) := by
    intro s
    cases escaped with
    | true => exact h.escape s
    | false => exact hT.refl s
  unfold valueTag
  dsimp only
  split
  · refine (simulates_evaluate fun scopes => h.simulates_evalName scopes _).bind_eq fun name => ?_
    have hname := h.helper name
    generalize env.helper? name = f, env'.helper? name = g at hname ⊢
    cases hname with
    | some _ => exact h.simulates_helperTag hT hescape call
    | none =>
      refine (simulates_evaluate fun scopes => h.simulates_eval scopes _).bind_eq fun v => ?_
      cases v with
      | some v => exact simulates_write hT (hescape _)
      | none =>
        have hmissing := h.helper "helperMissing"
        generalize env.helper? "helperMissing" = f, env'.helper? "helperMissing" = g at hmissing ⊢
        cases hmissing with
        | none => exact .pure rfl
        | some hh =>
          refine (h.simulates_invocation call .none).bind_eq fun (_, i) => ?_
          exact (simulates_evaluate fun _ => hh i).bind_eq fun o =>
            simulates_writeOutcome hT hescape o
  · exact h.simulates_helperTag hT hescape call

theorem simulates_blockTag (hT : TextRel T) (h : EnvRel Q T env env') (standalone : Bool)
    (call : Expr) (names : BlockNames) {body inverse : Run σ Unit} {body' inverse' : Run τ Unit}
    (hbody : Together G Q T Eq body body')
    (hinverse : Together G Q T Eq inverse inverse') :
    Together G Q T Eq (blockTag env standalone call names body inverse)
      (blockTag env' standalone call names body' inverse') := by
  refine (h.simulates_invocation call names).bind_eq fun (name, i) => ?_
  refine (Simulates.settled ((h.resolve name _).mapError _)).bind fun _ _ hh => ?_
  refine simulates_asHelper standalone ?_
  refine (simulates_evaluate fun _ => hh i).bind_eq fun o => ?_
  cases o with
  | value v => exact simulates_writeOutcome hT h.escape _
  | verdict b =>
    cases b with
    | true => exact hbody
    | false => exact hinverse
  | text s => exact simulates_writeOutcome hT h.escape _
  | nothing => exact .pure rfl
  | body => exact hbody
  | inverse => exact hinverse
  | within value names =>
    exact simulates_scope.bind_eq fun outer => simulates_inScope _ hbody
  | rounds rs => exact simulates_rounds rs hbody

theorem simulates_decorate (h : EnvRel Q T env env') (call : Expr) (body : Option Template) :
    Together G Q T Eq (decorate env call body) (decorate env' call body) := by
  refine (h.simulates_invocation call .none).bind_eq fun (name, i) => ?_
  dsimp only
  split
  · split
    · exact .throw _
    · split
      · exact .throw _
      · exact .throw _
      · exact simulates_onScope _
  · exact .throw _

end EnvRel

/-! ### Parts -/

/-- What a part does with its template once the content is known. -/
def Run.asPart (place : Placement) (content : Option String) (template : Run σ Unit) :
    Run σ Unit := do
  let around ← get
  modify fun s => { s with content }
  onPage fun p => { p with indent := p.innerIndent place.indent }
  template
  onPage fun p => { p with indent := around.page.indent }
  modify fun s => { s with content := around.content }

theorem runPart_some (place : Placement) (i : Invocation) (body template : Run σ Unit) :
    runPart place i (some body) template = (do
      let outer ← scope
      let value := withFields (i.params.headD outer.value) i.hash
      inScope { value, names := i.hash, locals := outer.locals } do
        let content ← some <$> captured body
        asPart place content template) :=
  rfl

theorem runPart_none (place : Placement) (i : Invocation) (template : Run σ Unit) :
    runPart place i none template = (do
      let outer ← scope
      let value := withFields (i.params.headD outer.value) i.hash
      inScope { value, names := i.hash, locals := outer.locals }
        (asPart place none template)) :=
  rfl

theorem simulates_asPart (place : Placement) {c c' : Option String}
    (hc : Option.Rel (StringRel T) c c') {m : Run σ Unit} {n : Run τ Unit}
    (h : Together G Q T Eq m n) :
    Together G Q T Eq (asPart place c m) (asPart place c' n) := by
  refine Simulates.get.bind fun s t hs => ?_
  refine (Simulates.modify fun s t hs => ?_).bind_eq fun _ => ?_
  · exact ⟨hs.store, hs.page, hs.scopes, hc⟩
  refine (simulates_onPage fun p q hp => ?_).bind_eq fun _ => h.bind_eq fun _ => ?_
  · refine ⟨hp.text, ?_, hp.pending, hp.lineEnded, hp.produced⟩
    unfold Page.innerIndent
    rw [hp.indent]
  refine (simulates_onPage fun p q hp => ?_).bind_eq fun _ => .modify fun s' t' hs' => ?_
  · exact ⟨hp.text, hs.page.indent, hp.pending, hp.lineEnded, hp.produced⟩
  · exact ⟨hs'.store, hs'.page, hs'.scopes, hs.content⟩

theorem simulates_runPart (hT : TextRel T) (place : Placement) (i : Invocation)
    {body : Option (Run σ Unit)} {body' : Option (Run τ Unit)}
    (hbody : Option.Rel (Together G Q T Eq) body body') {template : Run σ Unit}
    {template' : Run τ Unit} (htemplate : Together G Q T Eq template template') :
    Together G Q T Eq (runPart place i body template)
      (runPart place i body' template') := by
  cases hbody with
  | none =>
    rw [runPart_none, runPart_none]
    exact simulates_scope.bind_eq fun outer =>
      simulates_inScope _ (simulates_asPart place .none htemplate)
  | @some body body' hbody =>
    have hcontent : Together G Q T (Option.Rel (StringRel T))
        (some <$> captured body) (some <$> captured body') :=
      (simulates_captured hT hbody).map fun _ _ => .some
    rw [runPart_some, runPart_some]
    refine simulates_scope.bind_eq fun outer => simulates_inScope _ ?_
    exact hcontent.bind fun c c' hc => simulates_asPart place hc htemplate

/-- Runs of the templates that parts call by name. -/
def VisitRel (G : Prop) (Q : σ → τ → Prop) (T : List Char → List Char → Prop)
    (visit : Template → Run σ Unit) (visit' : Template → Run τ Unit) : Prop :=
  ∀ t, Together G Q T Eq (visit t) (visit' t)

namespace EnvRel

variable {env : Environment σ} {env' : Environment τ}
variable {visit : Template → Run σ Unit} {visit' : Template → Run τ Unit}

theorem simulates_partTag (hT : TextRel T) (h : EnvRel Q T env env')
    (hvisit : VisitRel G Q T visit visit') (place : Placement) (call : Expr)
    {body : Option (Run σ Unit)} {body' : Option (Run τ Unit)}
    (hbody : Option.Rel (Together G Q T Eq) body body') :
    Together G Q T Eq (partTag env visit place call body)
      (partTag env' visit' place call body') := by
  refine (h.simulates_invocation call .none).bind_eq fun (name, i) => ?_
  refine Simulates.get.bind fun before before' hbefore => ?_
  refine (simulates_onPage fun _ _ hp => hp.enterPart _ _).bind_eq fun _ => ?_
  have hleave : Together G Q T Eq (onPage (·.leave before.page) : Run σ Unit)
      (onPage (·.leave before'.page) : Run τ Unit) :=
    simulates_onPage fun _ _ hp => hp.leave hbefore.page
  dsimp only
  split
  · refine Simulates.get.bind fun s t hs => ?_
    have hcontent := hs.content
    generalize s.content = c, t.content = c' at hcontent ⊢
    cases hcontent with
    | some hc => exact (simulates_put hT hc).bind_eq fun _ => hleave
    | none =>
      cases hbody with
      | some hbody => exact hbody.bind_eq fun _ => hleave
      | none => exact (Simulates.throw _).bind_eq fun _ => hleave
  · refine Simulates.get.bind fun s t hs => ?_
    rw [← hs.scopes, ← h.templates name]
    cases part? s.scopes name <|> env.templates.get? name with
    | some t => exact (simulates_runPart hT place i hbody (hvisit t)).bind_eq fun _ => hleave
    | none =>
      cases hbody with
      | some hbody => exact (simulates_runPart hT place i .none hbody).bind_eq fun _ => hleave
      | none => exact (Simulates.throw _).bind_eq fun _ => hleave

/-! ### Templates -/

mutual

theorem simulates_runElement (hT : TextRel T) (h : EnvRel Q T env env')
    (hvisit : VisitRel G Q T visit visit') :
    ∀ e, Together G Q T Eq (runElement env visit e) (runElement env' visit' e)
  | .text _ => simulates_write hT (hT.refl _)
  | .value _ escaped call => simulates_placed (h.simulates_valueTag hT escaped call) _
  | .block _ call names body inverse =>
    simulates_placed (h.simulates_blockTag hT _ call names (h.simulates_runElements hT hvisit body)
      (h.simulates_runElements hT hvisit inverse)) _
  | .decorator _ call => simulates_placed (h.simulates_decorate call none) _
  | .decoratorBlock _ call body => simulates_placed (h.simulates_decorate call (some body)) _
  | .part place call => simulates_placed (h.simulates_partTag hT hvisit place call .none) _
  | .partBlock place call body =>
    simulates_placed (h.simulates_partTag hT hvisit place call
      (.some (h.simulates_runElements hT hvisit body))) _

theorem simulates_runElements (hT : TextRel T) (h : EnvRel Q T env env')
    (hvisit : VisitRel G Q T visit visit') :
    ∀ es, Together G Q T Eq (runElements env visit es) (runElements env' visit' es)
  | [] => .pure rfl
  | e :: es => by
    refine (h.simulates_runElement hT hvisit e).bind_eq fun _ => ?_
    exact h.simulates_runElements hT hvisit es

end

/-- Stacks of one size, or a smaller one on the left, where an overflow counts as giving up. -/
theorem simulates_runTemplate (hT : TextRel T) (h : EnvRel Q T env env') {depth depth' : Nat}
    (hdepth : depth = depth' ∨ G ∧ depth ≤ depth') :
    VisitRel G Q T (runTemplate env depth) (runTemplate env' depth') := by
  induction depth generalizing depth' with
  | zero =>
    obtain rfl | ⟨hG, -⟩ := hdepth
    · exact fun _ => .throw _
    · exact fun _ _ _ _ => .gaveUp ⟨hG, rfl⟩
  | succ depth ih =>
    cases depth' with
    | zero => omega
    | succ depth' =>
      have hdepth' : depth = depth' ∨ G ∧ depth ≤ depth' :=
        hdepth.imp Nat.succ.inj (And.imp_right Nat.le_of_succ_le_succ)
      exact h.simulates_runElements hT (ih hdepth')

/-- Two renderings end alike: with texts that are related by `T` or for the same reason, and in any
case with related stores. -/
theorem render (hT : TextRel T) (h : EnvRel Q T env env') (hdepth : env.depth = env'.depth)
    (t : Template) {s : σ} {s' : τ} (hs : Q s s') :
    ExceptRel (StringRel T) (env.render t s).1 (env'.render t s').1 ∧
      Q (env.render t s).2 (env'.render t s').2 := by
  have hpage : PageRel T {} {} := ⟨hT.refl _, rfl, rfl, rfl, rfl⟩
  have hrun := h.simulates_runTemplate hT (G := False) (.inl (congrArg (· + 1) hdepth)) t
    { store := s, scopes := [{ value := env.root }] }
    { store := s', scopes := [{ value := env'.root }] } ⟨hs, hpage, by rw [h.root], .none⟩
  unfold Environment.render
  generalize runTemplate env (env.depth + 1) t _ = x,
    runTemplate env' (env'.depth + 1) t _ = y at hrun ⊢
  cases hrun with
  | ok _ hst => exact ⟨.ok hst.page.text, hst.store⟩
  | error e hst => exact ⟨.error e, hst.store⟩
  | gaveUp h => exact h.1.elim

end EnvRel

/-- A rendering that does not overflow comes to the same on every larger stack. -/
theorem Environment.render_depth (env : Environment σ) {depth : Nat} (hdepth : env.depth ≤ depth)
    (t : Template) (store : σ) (h : (env.render t store).1 ≠ .error .overflow) :
    { env with depth }.render t store = env.render t store := by
  have henv : EnvRel Eq Eq env { env with depth } :=
    ⟨fun _ => rfl, fun _ => helperRel_refl _, fun _ => rfl, rfl⟩
  have hpage : PageRel Eq {} {} := ⟨rfl, rfl, rfl, rfl, rfl⟩
  have hrun := henv.simulates_runTemplate .eq (G := True)
    (.inr ⟨trivial, Nat.succ_le_succ hdepth⟩) t
    { store, scopes := [{ value := env.root }] } _ ⟨rfl, hpage, rfl, .none⟩
  unfold render at h ⊢
  generalize runTemplate env (env.depth + 1) t _ = x,
    runTemplate { env with depth } (depth + 1) t _ = y at hrun h ⊢
  cases hrun with
  | ok _ hst =>
    dsimp only
    rw [String.toList_injective hst.page.text, hst.store]
  | error e hst =>
    dsimp only
    rw [hst.store]
  | gaveUp he =>
    obtain ⟨-, rfl⟩ := he
    exact absurd rfl h

end Storefront.Render
