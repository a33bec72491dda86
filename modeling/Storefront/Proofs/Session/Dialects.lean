import Storefront.Proofs.Escape
import Storefront.Proofs.Registry.Restore
import Storefront.Proofs.Render.Simulation
import Storefront.Proofs.Session.Run
import Storefront.Proofs.Template.Compile
import Mathlib.Data.List.Forall2

/-!
# One session in both dialects

A renderer without decorators is taken through the same steps in v3 and in v4. As long as the
sources mean the same in both dialects, the two renderers differ in nothing but the dialect after
every step, and the answers are equal up to the escaping of equals signs (`session_dialects`).
-/

namespace Storefront

open Json (Value)
open Render

theorem EqualsEscaped.textRel : TextRel EqualsEscaped where
  refl := .refl
  append := .append
  isEmpty_eq := isEmpty_eq
  head_isBreak := head_isBreak
  getLast_isBreak := getLast_isBreak
  indented := indented

/-- Answers that are equal once the entity of the equals sign is read. -/
inductive Answer.SameButEquals : Answer → Answer → Prop where
  | refl (a : Answer) : SameButEquals a a
  | text {s t : String} (h : readEquals s.toList = readEquals t.toList) :
    SameButEquals (.text s) (.text t)

/-- The steps that do the same in both dialects: no artifact is added or made, no dialect is asked
for, and no decorator is added. -/
def Step.IsCommon {H : Type} : Step H → Prop
  | .add entries =>
    ∀ e ∈ entries, Artifact.isPrecompiled e.2.toList = false ∧ Dialect.IsCommonSource e.2
  | .renderString source _ => Dialect.IsCommonSource source
  | .preprocess _ | .preprocessAll _ | .addDecorator _ | .engine => False
  | _ => True

/-- Two runs that end alike, up to the escaping of equals signs, with the same store. -/
def SameRun {ε σ : Type} (x y : Except ε String × σ) : Prop :=
  ExceptRel (StringRel EqualsEscaped) x.1 y.1 ∧ x.2 = y.2

namespace Registry

variable {H : Type}

/-- The same registry in another dialect. -/
def inDialect (r : Registry H) (d : Dialect) : Registry H :=
  { r with dialect := d }

variable {r : Registry H}

theorem add_inDialect (h3 : r.dialect = .v3) (path : String) {text : String}
    (hraw : Artifact.isPrecompiled text.toList = false) (htext : Dialect.IsCommonSource text) :
    (r.inDialect .v4).add path text = (r.add path text).map fun x => (x.1, x.2.inDialect .v4) := by
  have hbuild : build .v4 path text = build .v3 path text := by
    rw [build, build, Dialect.restore_raw .v4 hraw, Dialect.restore_raw .v3 hraw,
      Dialect.compile_eq_of_isCommonSource htext]
  cases hl : r.isLoaded path with
  | true =>
    have hl' : (r.inDialect .v4).isLoaded path := hl
    rw [add_loaded hl, add_loaded hl']
    rfl
  | false =>
    have hl' : (r.inDialect .v4).isLoaded path = false := hl
    rw [add_unloaded hl, add_unloaded hl', h3]
    show Except.map _ (build .v4 path text) = _
    rw [hbuild]
    cases build .v3 path text <;> rfl

theorem addMany_inDialect (h3 : r.dialect = .v3) {entries : List (String × String)}
    (h : ∀ e ∈ entries, Artifact.isPrecompiled e.2.toList = false ∧ Dialect.IsCommonSource e.2) :
    (r.inDialect .v4).addMany entries =
      ((r.addMany entries).1, (r.addMany entries).2.inDialect .v4) := by
  induction entries generalizing r with
  | nil => rfl
  | cons entry rest ih =>
    obtain ⟨path, text⟩ := entry
    obtain ⟨hraw, htext⟩ := h _ List.mem_cons_self
    have hadd' := add_inDialect h3 path hraw htext
    cases hadd : r.add path text with
    | error e =>
      rw [hadd] at hadd'
      rw [addMany_cons_error hadd, addMany_cons_error hadd']
    | ok result =>
      obtain ⟨b, r'⟩ := result
      rw [hadd] at hadd'
      rw [addMany_cons_ok hadd, addMany_cons_ok hadd']
      exact ih ((add_dialect hadd).trans h3) fun e he => h e (List.mem_cons_of_mem _ he)

/-! ### Rendering -/

theorem envRel_inDialect {σ : Type} (h3 : r.dialect = .v3) (bind : String → H → Helper σ)
    (data : Value) :
    EnvRel Eq EqualsEscaped (r.environment bind data)
      ((r.inDialect .v4).environment bind data) where
  escape s := by
    show EqualsEscaped (r.dialect.escape s) (Dialect.v4.escape s)
    rw [h3]
    exact equalsEscaped_escape s
  helper name := helperRel_refl ((r.environment bind data).helper? name)
  templates _ := rfl
  root := rfl

theorem run_inDialect {σ : Type} (h3 : r.dialect = .v3) (bind : String → H → Helper σ)
    (t : Template) (data : Value) (store : σ) :
    SameRun (r.run bind t data store) ((r.inDialect .v4).run bind t data store) := by
  have hrender := (envRel_inDialect h3 bind data).render EqualsEscaped.textRel rfl t (Eq.refl store)
  exact ⟨hrender.1.mapError (Halt.map EngineError.render), hrender.2⟩

theorem execute_inDialect {σ : Type} (h3 : r.dialect = .v3) (bind : String → H → Helper σ)
    (path : String) (data : Value) (store : σ) :
    SameRun (r.execute bind path data store) ((r.inDialect .v4).execute bind path data store) := by
  have hget : (r.inDialect .v4).templates.get? path = r.templates.get? path := rfl
  rw [execute, execute, hget]
  cases r.templates.get? path with
  | some t => exact run_inDialect h3 bind t data store
  | none => exact ⟨.error _, rfl⟩

theorem executeSource_inDialect {σ : Type} (h3 : r.dialect = .v3)
    (bind : String → H → Helper σ) {source : String} (hs : Dialect.IsCommonSource source)
    (data : Value) (store : σ) :
    SameRun (r.executeSource bind source data store)
      ((r.inDialect .v4).executeSource bind source data store) := by
  have hcompile : (r.inDialect .v4).dialect.compile source = r.dialect.compile source := by
    rw [h3]
    exact Dialect.compile_eq_of_isCommonSource hs
  cases hc : r.dialect.compile source with
  | ok t =>
    rw [executeSource_compiled hc, executeSource_compiled (hcompile.trans hc)]
    exact run_inDialect h3 bind t data store
  | error e =>
    rw [executeSource_refused hc, executeSource_refused (hcompile.trans hc)]
    exact ⟨.error _, rfl⟩

end Registry

namespace Renderer

variable {H : Type} [Registrable H]

/-- The same renderer in another dialect. -/
def inDialect (r : Renderer H) (d : Dialect) : Renderer H :=
  { r with registry := r.registry.inDialect d }

variable {r : Renderer H}

/-- Two renderings that end alike, up to the escaping of equals signs, in renderers that differ in
the dialect. -/
def SameRendering (x y : Except (Halt Error) String × Renderer H) : Prop :=
  ExceptRel (StringRel EqualsEscaped) x.1 y.1 ∧ y.2 = x.2.inDialect .v4

omit [Registrable H] in
theorem outcome_inDialect (hd : r.decorators = []) (path : String)
    {x y : Except (Halt EngineError) String} (h : ExceptRel (StringRel EqualsEscaped) x y) :
    ExceptRel (StringRel EqualsEscaped) (r.outcome path x) ((r.inDialect .v4).outcome path y) := by
  cases h with
  | ok htext =>
    show ExceptRel _ ((r.decorators.apply _).mapError _) ((r.decorators.apply _).mapError _)
    rw [hd]
    exact .ok htext
  | error e => exact .error _

theorem render_inDialect (h3 : r.registry.dialect = .v3) (hd : r.decorators = []) (path : String)
    (context : Table Value) :
    SameRendering (r.render path context) ((r.inDialect .v4).render path context) := by
  have hrun : SameRun
      (r.registry.execute r.bind path (r.augment (some path) context) r.store)
      ((r.inDialect .v4).registry.execute (r.inDialect .v4).bind path
        ((r.inDialect .v4).augment (some path) context) (r.inDialect .v4).store) :=
    Registry.execute_inDialect h3 r.bind path (r.augment (some path) context) r.store
  cases hl : r.registry.isLoaded path with
  | false =>
    rw [render_unloaded hl, render_unloaded (r := r.inDialect .v4) hl]
    exact ⟨.error _, rfl⟩
  | true =>
    rw [render_loaded hl, render_loaded (r := r.inDialect .v4) hl]
    refine ⟨outcome_inDialect hd path hrun.1, ?_⟩
    dsimp only
    rw [← hrun.2]
    rfl

theorem renderString_inDialect (h3 : r.registry.dialect = .v3) {source : String}
    (hs : Dialect.IsCommonSource source) (context : Table Value) :
    SameRendering (r.renderString source context)
      ((r.inDialect .v4).renderString source context) := by
  have hrun : SameRun
      (r.registry.executeSource r.bind source (r.augment none context) r.store)
      ((r.inDialect .v4).registry.executeSource (r.inDialect .v4).bind source
        ((r.inDialect .v4).augment none context) (r.inDialect .v4).store) :=
    Registry.executeSource_inDialect h3 r.bind hs (r.augment none context) r.store
  have hcompile : (r.inDialect .v4).registry.dialect.compile source =
      r.registry.dialect.compile source := by
    rw [h3]
    exact Dialect.compile_eq_of_isCommonSource hs
  cases hc : r.registry.dialect.compile source with
  | error e =>
    rw [renderString_refused hc, renderString_refused (hcompile.trans hc)]
    exact ⟨.error _, rfl⟩
  | ok _ =>
    rw [renderString_compiled hc, renderString_compiled (hcompile.trans hc)]
    refine ⟨hrun.1.mapError _, ?_⟩
    dsimp only
    rw [← hrun.2]
    rfl

/-! ### Steps and sessions -/

/-- Two steps with answers that are equal up to the escaping of equals signs, into renderers that
differ in the dialect. -/
def SameStep (x y : Answer × Renderer H) : Prop :=
  x.1.SameButEquals y.1 ∧ y.2 = x.2.inDialect .v4

omit [Registrable H] in
theorem SameRendering.sameStep {x y : Except (Halt Error) String × Renderer H}
    (h : SameRendering x y) :
    SameStep (.ofText x.1, x.2) (.ofText y.1, y.2) := by
  obtain ⟨result, renderer⟩ := x
  obtain ⟨result', renderer'⟩ := y
  obtain ⟨hresult, hrenderer⟩ := h
  refine ⟨?_, hrenderer⟩
  cases hresult with
  | ok htext => exact .text htext.readEquals_eq
  | error e => exact .refl _

theorem step_inDialect (h3 : r.registry.dialect = .v3) (hd : r.decorators = []) {s : Step H}
    (hs : s.IsCommon) : SameStep (r.step s) ((r.inDialect .v4).step s) := by
  cases s with
  | add entries =>
    have hadd : (r.inDialect .v4).registry.addMany entries = _ := Registry.addMany_inDialect h3 hs
    rw [step, step, hadd]
    exact ⟨.refl _, rfl⟩
  | render path context => exact (render_inDialect h3 hd path context).sameStep
  | renderString source context => exact (renderString_inDialect h3 hs context).sameStep
  | preprocess _ => exact hs.elim
  | preprocessAll _ => exact hs.elim
  | addDecorator _ => exact hs.elim
  | engine => exact hs.elim
  | _ => exact ⟨.refl _, rfl⟩

theorem step_decorators_eq_nil (hd : r.decorators = []) {s : Step H} (hs : s.IsCommon) :
    (r.step s).2.decorators = [] := by
  rw [step_decorators]
  cases s with
  | resetDecorators => rfl
  | addDecorator _ => exact hs.elim
  | _ => exact hd

theorem session_inDialect (h3 : r.registry.dialect = .v3) (hd : r.decorators = [])
    {steps : List (Step H)} (h : ∀ s ∈ steps, s.IsCommon) :
    List.Forall₂ Answer.SameButEquals (r.session steps).1 ((r.inDialect .v4).session steps).1 ∧
      ((r.inDialect .v4).session steps).2 = (r.session steps).2.inDialect .v4 := by
  induction steps generalizing r with
  | nil => exact ⟨.nil, rfl⟩
  | cons s rest ih =>
    have hs : s.IsCommon := h s List.mem_cons_self
    obtain ⟨hanswer, hnext⟩ := step_inDialect h3 hd hs
    obtain ⟨hanswers, hlast⟩ := ih ((step_dialect r s).trans h3) (step_decorators_eq_nil hd hs)
      fun s hs => h s (List.mem_cons_of_mem _ hs)
    rw [session_cons, session_cons, hnext]
    exact ⟨.cons hanswer hanswers, hlast⟩

theorem new_inDialect (site theme : Table Value) (depth : Nat) :
    (new site theme .v3 depth).inDialect .v4 = (new site theme .v4 depth : Renderer H) :=
  rfl

/-- The dialects differ in the escaping of equals signs only: taken through the same steps, a v3 and
a v4 renderer without decorators give the same answers up to it, and after every step they have the
same store and the same paths loaded. -/
theorem session_dialects (site theme : Table Value) (depth : Nat) (steps : List (Step H))
    (h : ∀ s ∈ steps, s.IsCommon) :
    List.Forall₂ Answer.SameButEquals ((new site theme .v3 depth).session steps).1
        ((new site theme .v4 depth).session steps).1 ∧
      ∀ before after, steps = before ++ after →
        let r := ((new site theme .v3 depth).session before).2
        let r' := ((new site theme .v4 depth).session before).2
        r.store = r'.store ∧ ∀ path, r.registry.isLoaded path = r'.registry.isLoaded path := by
  constructor
  · exact (session_inDialect rfl rfl h).1
  · rintro before after rfl
    have hbefore := (session_inDialect (new_dialect site theme .v3 depth) rfl fun s hs =>
      h s (List.mem_append_left after hs)).2
    rw [new_inDialect] at hbefore
    rw [hbefore]
    exact ⟨rfl, fun _ => rfl⟩

/-- A page with a value and an equals sign of its own: the sign in the value is escaped by the
second dialect only, and that of the page by neither. -/
theorem session_dialects_page :
    let steps : List (Step Builtin) :=
      [.add [("page", "a=\x7b\x7bx\x7d\x7d")], .render "page" [("x", .string "b=c")]]
    let answers (d : Dialect) := ((new [] [] d).session steps).1
    answers .v3 = [.done, .text "a=b=c"] ∧ answers .v4 = [.done, .text "a=b&#x3D;c"] ∧
      List.Forall₂ Answer.SameButEquals (answers .v3) (answers .v4) := by
  intro steps answers
  have hsource : ∃ t, Dialect.v3.compile "a=\x7b\x7bx\x7d\x7d" = .ok t :=
    Dialect.exists_of_isOk (by decide +kernel)
  refine ⟨session_add_render (by decide +kernel) (by decide +kernel),
    session_add_render (by decide +kernel) (by decide +kernel), ?_⟩
  refine (session_dialects [] [] _ steps ?_).1
  intro s hs
  rcases List.mem_cons.1 hs with rfl | hs
  · intro e he
    rw [List.mem_singleton.1 he]
    exact ⟨by decide, .inl hsource⟩
  · rw [List.mem_singleton.1 hs]
    exact trivial

end Renderer

end Storefront
