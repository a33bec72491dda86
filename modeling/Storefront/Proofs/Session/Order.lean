import Storefront.Proofs.Registry.Order
import Storefront.Proofs.Render.Simulation

/-!
# The order of registration does not matter

A table of templates is only ever asked what it has under a path. So renderers whose tables answer
this alike cannot be told apart by any session (`Alike.session_eq`), and whether a list of entries
or a reordering of it was added makes no difference to what follows (`registration_order`).
-/

namespace Storefront

open Json (Value)
open Render

/-- Registries that have the same templates under the same paths, and agree on everything else. -/
inductive Registry.Alike {H : Type} (r : Registry H) : Registry H → Prop where
  | intro {templates : Table Template} (h : ∀ path, templates.get? path = r.templates.get? path) :
      Alike r { r with templates }

namespace Registry.Alike

variable {H : Type} {r r' : Registry H}

theorem get?_eq (h : r.Alike r') (path : String) :
    r'.templates.get? path = r.templates.get? path := by
  obtain ⟨h⟩ := h
  exact h path

theorem dialect_eq (h : r.Alike r') : r'.dialect = r.dialect := by
  obtain ⟨-⟩ := h
  rfl

theorem isLoaded_eq (h : r.Alike r') (path : String) : r'.isLoaded path = r.isLoaded path := by
  rw [isLoaded, isLoaded, Table.contains, Table.contains, h.get?_eq]

theorem put (h : r.Alike r') (path : String) (t : Template) :
    (r.put path t).Alike (r'.put path t) := by
  obtain ⟨h⟩ := h
  refine .intro (r := r.put path t) fun q => ?_
  rw [Registry.put, Table.get?_insert, Table.get?_insert, h]

theorem addHelper (h : r.Alike r') (name : String) (helper : H) :
    (r.addHelper name helper).Alike (r'.addHelper name helper) := by
  obtain ⟨h⟩ := h
  exact .intro (r := r.addHelper name helper) h

theorem add (h : r.Alike r') (path text : String) :
    ExceptRel (fun x y => x.2.Alike y.2) (r.add path text) (r'.add path text) := by
  have hloaded := h.isLoaded_eq path
  cases hl : r.isLoaded path with
  | true =>
    rw [add_loaded hl, add_loaded (hloaded.trans hl)]
    exact .ok h
  | false =>
    rw [add_unloaded hl, add_unloaded (hloaded.trans hl), h.dialect_eq]
    cases build r.dialect path text with
    | error e => exact .error e
    | ok t => exact .ok (h.put path t)

theorem addMany (h : r.Alike r') (entries : List (String × String)) :
    (r'.addMany entries).1 = (r.addMany entries).1 ∧
      (r.addMany entries).2.Alike (r'.addMany entries).2 := by
  induction entries generalizing r r' with
  | nil => exact ⟨rfl, h⟩
  | cons entry rest ih =>
    obtain ⟨path, text⟩ := entry
    have hadd := h.add path text
    generalize hx : r.add path text = x, hy : r'.add path text = y at hadd
    cases hadd with
    | error e =>
      rw [addMany_cons_error hx, addMany_cons_error hy]
      exact ⟨rfl, h⟩
    | ok hnext =>
      rw [addMany_cons_ok hx, addMany_cons_ok hy]
      exact ih hnext

/-! ### Renderings -/

variable {σ : Type}

theorem run_eq (h : r.Alike r') (bind : String → H → Helper σ) (t : Template) (data : Value)
    (store : σ) : r'.run bind t data store = r.run bind t data store := by
  cases h with
  | @intro templates h =>
    have hrel : EnvRel Eq Eq (r.environment bind data)
        ({ r with templates }.environment bind data) :=
      { escape := fun _ => rfl
        helper := fun name => helperRel_refl ((r.environment bind data).helper? name)
        templates := fun name => (h name).symm
        root := rfl }
    have hrender := hrel.render .eq rfl t (Eq.refl store)
    have hresult := congrArg (Except.mapError (Halt.map EngineError.render)) hrender.1.eq
    exact Prod.ext hresult.symm hrender.2.symm

theorem execute_eq (h : r.Alike r') (bind : String → H → Helper σ) (path : String)
    (data : Value) (store : σ) :
    r'.execute bind path data store = r.execute bind path data store := by
  rw [execute, execute, h.get?_eq]
  cases r.templates.get? path with
  | some t => exact h.run_eq bind t data store
  | none => rfl

theorem runSource_eq (h : r.Alike r') (bind : String → H → Helper σ) (source : String)
    (data : Value) (store : σ) :
    r'.runSource bind source data store = r.runSource bind source data store := by
  rw [runSource, runSource]
  cases Template.parse source.toList with
  | ok t => exact h.run_eq bind t data store
  | error e => rfl

theorem executeSource_eq (h : r.Alike r') (bind : String → H → Helper σ) (source : String)
    (data : Value) (store : σ) :
    r'.executeSource bind source data store = r.executeSource bind source data store := by
  rw [executeSource, executeSource, h.dialect_eq]
  cases r.dialect.compile source with
  | ok t => exact h.runSource_eq bind source data store
  | error e => rfl

end Registry.Alike

theorem Registry.Reordered.alike {H : Type} {entries entries' : List (String × String)}
    (h : Reordered entries entries') {r : Registry H} (hok : (r.addMany entries).1 = .ok ()) :
    (r.addMany entries).2.Alike (r.addMany entries').2 := by
  have hget := h.addMany_get? hok
  obtain ⟨templates, heq⟩ := exists_templates_addMany r entries
  obtain ⟨templates', heq'⟩ := exists_templates_addMany r entries'
  rw [heq, heq'] at hget ⊢
  exact .intro (r := { r with templates }) hget

namespace Renderer

variable {H : Type} [Registrable H]

/-- Renderers that agree on everything but the order in which their tables list the templates. -/
inductive Alike (r : Renderer H) : Renderer H → Prop where
  | intro {registry : Registry H} (h : r.registry.Alike registry) : Alike r { r with registry }

/-- The same answers, and renderers that go on to give the same answers. -/
def AlikeResults {α : Type} (x y : α × Renderer H) : Prop :=
  y.1 = x.1 ∧ x.2.Alike y.2

namespace Alike

variable {r r' : Renderer H}

theorem render (h : r.Alike r') (path : String) (context : Table Value) :
    AlikeResults (r.render path context) (r'.render path context) := by
  cases h with
  | @intro registry h =>
    let r' : Renderer H := { r with registry }
    have hloaded : r'.registry.isLoaded path = r.registry.isLoaded path := h.isLoaded_eq path
    have hrun : r'.registry.execute r'.bind path (r'.augment (some path) context) r'.store =
        r.registry.execute r.bind path (r.augment (some path) context) r.store :=
      h.execute_eq ..
    show AlikeResults _ (r'.render path context)
    cases hl : r.registry.isLoaded path with
    | false =>
      rw [render_unloaded hl, render_unloaded (hloaded.trans hl)]
      exact ⟨rfl, .intro h⟩
    | true =>
      rw [render_loaded hl, render_loaded (hloaded.trans hl), hrun]
      exact ⟨rfl, .intro (r := { r with store := _ }) h⟩

theorem renderString (h : r.Alike r') (source : String) (context : Table Value) :
    AlikeResults (r.renderString source context) (r'.renderString source context) := by
  cases h with
  | @intro registry h =>
    let r' : Renderer H := { r with registry }
    have hcompile : r'.registry.dialect.compile source = r.registry.dialect.compile source := by
      rw [h.dialect_eq]
    have hrun : r'.registry.executeSource r'.bind source (r'.augment none context) r'.store =
        r.registry.executeSource r.bind source (r.augment none context) r.store :=
      h.executeSource_eq ..
    show AlikeResults _ (r'.renderString source context)
    cases hc : r.registry.dialect.compile source with
    | error e =>
      rw [renderString_refused hc, renderString_refused (hcompile.trans hc)]
      exact ⟨rfl, .intro h⟩
    | ok t =>
      rw [renderString_compiled hc, renderString_compiled (hcompile.trans hc), hrun]
      exact ⟨rfl, .intro (r := { r with store := _ }) h⟩

theorem step (h : r.Alike r') (s : Step H) : AlikeResults (r.step s) (r'.step s) := by
  cases s with
  | render path context =>
    obtain ⟨hanswer, hnext⟩ := h.render path context
    exact ⟨congrArg Answer.ofText hanswer, hnext⟩
  | renderString source context =>
    obtain ⟨hanswer, hnext⟩ := h.renderString source context
    exact ⟨congrArg Answer.ofText hanswer, hnext⟩
  | add entries =>
    obtain ⟨h⟩ := h
    obtain ⟨hresult, hnext⟩ := h.addMany entries
    refine ⟨?_, .intro (r := (r.step (.add entries)).2) hnext⟩
    dsimp only [Renderer.step]
    rw [hresult]
  | isLoaded path =>
    obtain ⟨h⟩ := h
    exact ⟨congrArg Answer.flag (h.isLoaded_eq path), .intro h⟩
  | registerHelper name helper =>
    obtain ⟨h⟩ := h
    exact ⟨rfl, .intro (h.addHelper name helper)⟩
  | _ =>
    obtain ⟨⟨h⟩⟩ := h
    exact ⟨rfl, ⟨⟨h⟩⟩⟩

theorem session_eq (h : r.Alike r') (steps : List (Step H)) :
    (r'.session steps).1 = (r.session steps).1 := by
  induction steps generalizing r r' with
  | nil => rfl
  | cons s rest ih =>
    obtain ⟨hanswer, hnext⟩ := h.step s
    rw [session_cons, session_cons, hanswer, ih hnext]

end Alike

open Registry (Reordered)

variable {entries entries' : List (String × String)}

/-- Whether the entries for different paths come in one order or another does not matter. Added to
whatever is registered, a list of entries and a reordering of it both succeed or both fail; and if
they succeed, then they register the same templates under the same paths, and every session that
follows gives the same answers. -/
theorem registration_order (h : Reordered entries entries') (r : Renderer H) :
    ((r.registry.addMany entries).1 = .ok () ↔ (r.registry.addMany entries').1 = .ok ()) ∧
    ((r.registry.addMany entries).1 = .ok () →
      (∀ path, (r.registry.addMany entries').2.templates.get? path =
        (r.registry.addMany entries).2.templates.get? path) ∧
      ∀ later, ((r.step (.add entries')).2.session later).1 =
        ((r.step (.add entries)).2.session later).1) := by
  refine ⟨h.addMany_ok_iff r.registry, fun hok => ⟨h.addMany_get? hok, fun later => ?_⟩⟩
  have hnext : (r.step (.add entries)).2.Alike (r.step (.add entries')).2 :=
    .intro (r := (r.step (.add entries)).2) (h.alike hok)
  exact hnext.session_eq later

/-- A page and the part that it calls, for which there is a second text: the first text is what the
page shows in either order. -/
theorem registration_order_parts :
    let page := "\x7b\x7b> part\x7d\x7d"
    let entries := [("part", "one"), ("page", page), ("part", "two")]
    let entries' := [("page", page), ("part", "one"), ("part", "two")]
    let r : Renderer Builtin := new [] [] .v4
    let rendered (entries : List (String × String)) :=
      ((r.step (.add entries)).2.render "page" []).1
    (rendered entries = .ok "one" ∧ rendered entries' = .ok "one") ∧
    Reordered entries entries' ∧ (r.registry.addMany entries).1 = .ok () ∧
      (∀ path, (r.registry.addMany entries').2.templates.get? path =
        (r.registry.addMany entries).2.templates.get? path) ∧
      ∀ later, ((r.step (.add entries')).2.session later).1 =
        ((r.step (.add entries)).2.session later).1 := by
  intro page entries entries' r rendered
  have h : Reordered entries entries' := by
    refine ⟨.swap .., fun path => ?_⟩
    by_cases hpart : "part" = path
    · subst hpart
      rfl
    · by_cases hpage : "page" = path
      · subst hpage
        rfl
      · simp [entries, entries', hpart, hpage]
  have hisOk : (r.registry.addMany entries).1.isOk := by decide +kernel
  cases hok : (r.registry.addMany entries).1 with
  | ok => exact ⟨by decide +kernel, h, rfl, (registration_order h r).2 hok⟩
  | error e =>
    rw [hok] at hisOk
    cases hisOk

end Renderer

end Storefront
