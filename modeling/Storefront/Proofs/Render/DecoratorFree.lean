import Storefront.Proofs.Render.Simulation
import Storefront.Proofs.Template.Decorators

/-!
# Runs without decorators

Only a decorator defines a part in a scope. So where neither the template nor any template of the
environment holds a decorator, every part that is called comes from the environment, and no template
with a decorator is ever run. `renderGuarded` renders with an alarm that goes off in place of such a
template; without decorators it renders as if there were none (`renderGuarded_eq`).
-/

namespace Storefront

instance : DecidablePred Template.DecoratorFree := fun t =>
  inferInstanceAs (Decidable (∀ e ∈ Template.allElements t, Template.decorator? e = none))

namespace Render

open Template (DecoratorFree allElements innerElements decorator?)

variable {σ α β : Type}

/-- Runs a template, but does `alarm` in place of every template with a decorator that is called. -/
def runGuarded (env : Environment σ) (alarm : Run σ Unit) : (depth : Nat) → Template → Run σ Unit
  | 0, _ => throw .overflow
  | depth + 1, t =>
    if DecoratorFree t then runElements env (runGuarded env alarm depth) t else alarm

/-- Renders a template with an alarm at every template with a decorator. -/
def Environment.renderGuarded (env : Environment σ) (alarm : Run σ Unit) (t : Template)
    (store : σ) : Except (Halt Failure) String × σ :=
  match runGuarded env alarm (env.depth + 1) t { store, scopes := [{ value := env.root }] } with
  | .ok _ s => (.ok s.page.text, s.store)
  | .error e s => (.error e, s.store)

/-! ### Runs where no scope defines a part -/

/-- No scope defines a part. -/
def State.NoParts (s : State σ) : Prop :=
  ∀ scope ∈ s.scopes, scope.parts = []

/-- One state, in which no scope defines a part. -/
def BothNoParts (s t : State σ) : Prop :=
  s = t ∧ s.NoParts

/-- Two runs that do the same where no scope defines a part, and define none. -/
abbrev Coincide (m n : Run σ α) : Prop :=
  Simulates (GivesUp False) BothNoParts Eq m n

theorem part?_eq_none {scopes : List Scope} (h : ∀ scope ∈ scopes, scope.parts = [])
    (name : String) : part? scopes name = none := by
  rw [part?, List.findSome?_eq_none_iff]
  intro scope hscope
  rw [h scope hscope]
  rfl

open Run

theorem coincide_modify {f : State σ → State σ} (h : ∀ s, s.NoParts → (f s).NoParts) :
    Coincide (modify f) (modify f) :=
  .modify fun s _ hst => ⟨congrArg f hst.1, h s hst.2⟩

theorem coincide_onPage (f : Page → Page) : Coincide (onPage f : Run σ Unit) (onPage f) :=
  coincide_modify fun _ h => h

theorem coincide_evaluate (m : List Scope → EStateM Reason σ α) :
    Coincide (evaluate m) (evaluate m) := by
  rintro s _ ⟨rfl, hs⟩
  unfold evaluate
  cases m s.scopes s.store with
  | ok a store => exact .ok rfl ⟨rfl, hs⟩
  | error reason store => exact .error _ ⟨rfl, hs⟩

theorem coincide_scope : Coincide (scope : Run σ Scope) scope :=
  Simulates.get.bind fun _ _ hst => .pure (congrArg (·.scopes.headD default) hst.1)

theorem coincide_inScope {scope : Scope} (hscope : scope.parts = []) {m n : Run σ Unit}
    (h : Coincide m n) : Coincide (inScope scope m) (inScope scope n) := by
  refine (coincide_modify fun s hs => ?_).bind_eq fun _ => h.bind_eq fun _ =>
    coincide_modify fun s hs => ?_
  · exact List.forall_mem_cons.2 ⟨hscope, hs⟩
  · exact fun inner hinner => hs inner (List.mem_of_mem_tail hinner)

theorem coincide_rounds (rs : List Round) {m n : Run σ Unit} (h : Coincide m n) :
    Coincide (rounds rs m) (rounds rs n) := by
  refine coincide_inScope rfl (.forM rs fun r => ?_)
  refine (coincide_modify fun s hs => ?_).bind_eq fun _ => h
  -- a round changes everything of the innermost scope but its parts
  intro scope hscope
  cases hscopes : s.scopes with
  | nil => simp [hscopes] at hscope
  | cons first rest =>
    simp only [hscopes, List.mem_cons] at hscope
    rcases hscope with rfl | hrest
    · exact hs first (by simp [hscopes])
    · exact hs scope (by simp [hscopes, hrest])

theorem coincide_captured {m n : Run σ Unit} (h : Coincide m n) :
    Coincide (captured m) (captured n) := by
  refine Simulates.get.bind ?_
  rintro s _ ⟨rfl, -⟩
  refine (coincide_onPage _).bind_eq fun _ => h.bind_eq fun _ => ?_
  refine Simulates.get.bind ?_
  rintro s' _ ⟨rfl, -⟩
  exact (coincide_onPage _).bind_eq fun _ => .pure rfl

/-! ### Tags -/

theorem coincide_asHelper (standalone : Bool) {m n : Run σ Unit} (h : Coincide m n) :
    Coincide (asHelper standalone m) (asHelper standalone n) := by
  refine Simulates.get.bind ?_
  rintro s _ ⟨rfl, -⟩
  exact (coincide_onPage _).bind_eq fun _ => h.bind_eq fun _ => coincide_onPage _

theorem coincide_writeOutcome (escape : List Char → List Char) (o : Outcome) :
    Coincide (writeOutcome escape o : Run σ Unit) (writeOutcome escape o) := by
  cases o with
  | value v => exact coincide_onPage (·.write (escape v.shown))
  | verdict b => exact coincide_onPage (·.put (Json.Value.bool b).shown)
  | text s => exact coincide_onPage (·.put s.toList)
  | _ => exact .pure rfl

theorem coincide_settled (x : Except (Halt Failure) α) :
    Coincide (settled x : Run σ α) (settled x) :=
  .settled (.refl x)

theorem coincide_helperTag (env : Environment σ) (escape : List Char → List Char) (call : Expr) :
    Coincide (helperTag env escape call) (helperTag env escape call) := by
  refine (coincide_evaluate _).bind_eq fun (name, i) => ?_
  refine (coincide_settled _).bind_eq fun h => coincide_asHelper false ?_
  exact (coincide_evaluate _).bind_eq fun o => coincide_writeOutcome escape o

theorem coincide_valueTag (env : Environment σ) (escaped : Bool) (call : Expr) :
    Coincide (valueTag env escaped call) (valueTag env escaped call) := by
  unfold valueTag
  dsimp only
  split
  · refine (coincide_evaluate _).bind_eq fun name => ?_
    split
    · exact coincide_helperTag env _ call
    · refine (coincide_evaluate _).bind_eq fun v => ?_
      cases v with
      | some v => exact coincide_onPage _
      | none =>
        cases env.helper? "helperMissing" with
        | none => exact .pure rfl
        | some h =>
          refine (coincide_evaluate _).bind_eq fun (_, i) => ?_
          exact (coincide_evaluate _).bind_eq fun o => coincide_writeOutcome _ o
  · exact coincide_helperTag env _ call

theorem coincide_blockTag (env : Environment σ) (standalone : Bool) (call : Expr)
    (names : BlockNames) {body body' inverse inverse' : Run σ Unit} (hbody : Coincide body body')
    (hinverse : Coincide inverse inverse') :
    Coincide (blockTag env standalone call names body inverse)
      (blockTag env standalone call names body' inverse') := by
  refine (coincide_evaluate _).bind_eq fun (name, i) => ?_
  refine (coincide_settled _).bind_eq fun h => coincide_asHelper standalone ?_
  refine (coincide_evaluate _).bind_eq fun o => ?_
  cases o with
  | value v => exact coincide_writeOutcome env.escape _
  | verdict b =>
    cases b with
    | true => exact hbody
    | false => exact hinverse
  | text s => exact coincide_writeOutcome env.escape _
  | nothing => exact .pure rfl
  | body => exact hbody
  | inverse => exact hinverse
  | within value names =>
    exact coincide_scope.bind_eq fun outer => coincide_inScope rfl hbody
  | rounds rs => exact coincide_rounds rs hbody

theorem coincide_asPart (place : Placement) (content : Option String) {m n : Run σ Unit}
    (h : Coincide m n) : Coincide (asPart place content m) (asPart place content n) := by
  refine Simulates.get.bind ?_
  rintro around _ ⟨rfl, -⟩
  have hset (c : Option String) : Coincide (modify fun s => { s with content := c } : Run σ Unit)
      (modify fun s => { s with content := c }) :=
    coincide_modify fun _ hs => hs
  refine (hset content).bind_eq fun _ => (coincide_onPage _).bind_eq fun _ => ?_
  exact h.bind_eq fun _ => (coincide_onPage _).bind_eq fun _ => hset around.content

theorem coincide_runPart (place : Placement) (i : Invocation) {body body' : Option (Run σ Unit)}
    (hbody : Option.Rel Coincide body body') {m n : Run σ Unit} (h : Coincide m n) :
    Coincide (runPart place i body m) (runPart place i body' n) := by
  cases hbody with
  | none =>
    rw [runPart_none, runPart_none]
    exact coincide_scope.bind_eq fun outer => coincide_inScope rfl (coincide_asPart place none h)
  | @some body body' hbody =>
    have hcontent : Coincide (some <$> captured body) (some <$> captured body') :=
      (coincide_captured hbody).map fun _ _ => congrArg some
    rw [runPart_some, runPart_some]
    refine coincide_scope.bind_eq fun outer => coincide_inScope rfl ?_
    exact hcontent.bind_eq fun content => coincide_asPart place content h

variable {env : Environment σ} {visit visit' : Template → Run σ Unit}

/-- Runs of the templates that the environment holds coincide. -/
def VisitsCoincide (env : Environment σ) (visit visit' : Template → Run σ Unit) : Prop :=
  ∀ name t, env.templates.get? name = some t → Coincide (visit t) (visit' t)

theorem coincide_partTag (hvisit : VisitsCoincide env visit visit') (place : Placement)
    (call : Expr) {body body' : Option (Run σ Unit)} (hbody : Option.Rel Coincide body body') :
    Coincide (partTag env visit place call body) (partTag env visit' place call body') := by
  refine (coincide_evaluate _).bind_eq fun (name, i) => ?_
  refine Simulates.get.bind ?_
  rintro before _ ⟨rfl, -⟩
  refine (coincide_onPage _).bind_eq fun _ => ?_
  dsimp only
  split
  · refine Simulates.get.bind ?_
    rintro s _ ⟨rfl, -⟩
    cases s.content with
    | some content => exact (coincide_onPage _).bind_eq fun _ => coincide_onPage _
    | none =>
      cases hbody with
      | some hbody => exact hbody.bind_eq fun _ => coincide_onPage _
      | none => exact (Simulates.throw _).bind_eq fun _ => coincide_onPage _
  · refine Simulates.get.bind ?_
    rintro s _ ⟨rfl, hs⟩
    -- the scopes define nothing, so the part is one of the environment
    rw [part?_eq_none hs name]
    cases ht : env.templates.get? name with
    | some t =>
      exact (coincide_runPart place i hbody (hvisit name t ht)).bind_eq fun _ => coincide_onPage _
    | none =>
      cases hbody with
      | some hbody =>
        exact (coincide_runPart place i .none hbody).bind_eq fun _ => coincide_onPage _
      | none => exact (Simulates.throw _).bind_eq fun _ => coincide_onPage _

/-! ### Templates -/

mutual

theorem coincide_runElement (hvisit : VisitsCoincide env visit visit') :
    ∀ e, decorator? e = none → (∀ inner ∈ innerElements e, decorator? inner = none) →
      Coincide (runElement env visit e) (runElement env visit' e)
  | .text s, _, _ => coincide_onPage (·.write s)
  | .value _ escaped call, _, _ => simulates_placed (coincide_valueTag env escaped call) _
  | .block _ call names body inverse, _, h => by
    obtain ⟨hbody, hinverse⟩ := List.forall_mem_append.1 h
    exact simulates_placed (coincide_blockTag env _ call names
      (coincide_runElements hvisit body hbody) (coincide_runElements hvisit inverse hinverse)) _
  | .decorator _ _, h, _ => nomatch h
  | .decoratorBlock _ _ _, h, _ => nomatch h
  | .part place call, _, _ => simulates_placed (coincide_partTag hvisit place call .none) _
  | .partBlock place call body, _, h =>
    simulates_placed
      (coincide_partTag hvisit place call (.some (coincide_runElements hvisit body h))) _

theorem coincide_runElements (hvisit : VisitsCoincide env visit visit') :
    ∀ es, DecoratorFree es → Coincide (runElements env visit es) (runElements env visit' es)
  | [], _ => .pure rfl
  | e :: es, h => by
    obtain ⟨he, hrest⟩ := List.forall_mem_cons.1 h
    obtain ⟨hinner, hes⟩ := List.forall_mem_append.1 hrest
    exact (coincide_runElement hvisit e he hinner).bind_eq fun _ =>
      coincide_runElements hvisit es hes

end

theorem coincide_runGuarded (henv : ∀ name t, env.templates.get? name = some t → DecoratorFree t)
    (alarm : Run σ Unit) {t : Template} (ht : DecoratorFree t) (depth : Nat) :
    Coincide (runGuarded env alarm depth t) (runTemplate env depth t) := by
  induction depth generalizing t with
  | zero => exact .throw _
  | succ depth ih =>
    rw [runGuarded, if_pos ht]
    exact coincide_runElements (fun name t hget => ih (henv name t hget)) t ht

/-- Without decorators in the template and in the environment, the alarm never goes off. -/
theorem Environment.renderGuarded_eq
    (henv : ∀ name t, env.templates.get? name = some t → DecoratorFree t) (alarm : Run σ Unit)
    {t : Template} (ht : DecoratorFree t) (store : σ) :
    env.renderGuarded alarm t store = env.render t store := by
  have hrun := coincide_runGuarded henv alarm ht (env.depth + 1)
    { store, scopes := [{ value := env.root }] } _ ⟨rfl, by simp [State.NoParts]⟩
  unfold renderGuarded render
  generalize runGuarded env alarm (env.depth + 1) t _ = x,
    runTemplate env (env.depth + 1) t _ = y at hrun ⊢
  cases hrun with
  | ok _ hst => rw [hst.1]
  | error e hst => rw [hst.1]
  | gaveUp h => exact h.1.elim

end Render

end Storefront
