import Storefront.Session
import Storefront.Proofs.Template.Compile

/-!
# What a step can do to a renderer

A session runs in two parts as in one (`session_append`). Adding entries is the only step that
touches the templates (`step_templates`), and no step changes the dialect (`session_dialect`). The
decorators are left to the two steps about them (`step_decorators`).
-/

namespace Storefront

namespace Registry

variable {H : Type} {r : Registry H}

theorem isLoaded_iff {path : String} : r.isLoaded path ↔ ∃ t, r.templates.get? path = some t := by
  rw [isLoaded, Table.contains, Option.isSome_iff_exists]

theorem isLoaded_eq_false_iff {path : String} :
    r.isLoaded path = false ↔ r.templates.get? path = none := by
  rw [isLoaded, Table.contains, Option.isSome_eq_false_iff, Option.isNone_iff_eq_none]

theorem add_loaded {path : String} (h : r.isLoaded path) (text : String) :
    r.add path text = .ok (false, r) := by
  rw [add, if_pos h]

theorem add_unloaded {path : String} (h : r.isLoaded path = false) (text : String) :
    r.add path text = (build r.dialect path text).map fun t => (true, r.put path t) := by
  rw [add, h]
  rfl

/-- An entry that is added is skipped, or the template that is made of it is put under its path. -/
theorem add_ok_cases {path text : String} {b : Bool} {r' : Registry H}
    (h : r.add path text = .ok (b, r')) :
    r.isLoaded path ∧ r' = r ∨
      r.isLoaded path = false ∧ ∃ t, build r.dialect path text = .ok t ∧ r' = r.put path t := by
  by_cases hl : r.isLoaded path
  · rw [add_loaded hl] at h
    cases h
    exact .inl ⟨hl, rfl⟩
  · rw [Bool.not_eq_true] at hl
    rw [add_unloaded hl] at h
    cases hb : build r.dialect path text with
    | error e => rw [hb] at h; cases h
    | ok t => rw [hb] at h; cases h; exact .inr ⟨hl, t, rfl, rfl⟩

theorem add_dialect {path text : String} {b : Bool} {r' : Registry H}
    (h : r.add path text = .ok (b, r')) : r'.dialect = r.dialect := by
  rcases add_ok_cases h with ⟨-, rfl⟩ | ⟨-, t, -, rfl⟩ <;> rfl

@[simp] theorem addMany_nil (r : Registry H) : r.addMany [] = (.ok (), r) := rfl

theorem addMany_cons_ok {path text : String} {b : Bool} {r' : Registry H}
    (h : r.add path text = .ok (b, r')) (rest : List (String × String)) :
    r.addMany ((path, text) :: rest) = r'.addMany rest := by
  rw [addMany, h]

theorem addMany_cons_error {path text : String} {e : Error} (h : r.add path text = .error e)
    (rest : List (String × String)) : r.addMany ((path, text) :: rest) = (.error e, r) := by
  rw [addMany, h]

theorem exists_templates_addMany (r : Registry H) (entries : List (String × String)) :
    ∃ templates, (r.addMany entries).2 = { r with templates } := by
  induction entries generalizing r with
  | nil => exact ⟨r.templates, rfl⟩
  | cons entry rest ih =>
    obtain ⟨path, text⟩ := entry
    cases hadd : r.add path text with
    | error e =>
      rw [addMany_cons_error hadd]
      exact ⟨r.templates, rfl⟩
    | ok result =>
      obtain ⟨b, r'⟩ := result
      rw [addMany_cons_ok hadd]
      rcases add_ok_cases hadd with ⟨-, rfl⟩ | ⟨-, t, -, rfl⟩
      · exact ih r'
      · exact ih (r.put path t)

theorem addMany_dialect (r : Registry H) (entries : List (String × String)) :
    (r.addMany entries).2.dialect = r.dialect := by
  obtain ⟨templates, h⟩ := exists_templates_addMany r entries
  rw [h]

end Registry

namespace Renderer

open Json (Value)

variable {H : Type} [Registrable H]

theorem new_templates (site theme : Table Value) (d : Dialect) (depth : Nat) :
    (new site theme d depth : Renderer H).registry.templates = [] :=
  rfl

theorem new_dialect (site theme : Table Value) (d : Dialect) (depth : Nat) :
    (new site theme d depth : Renderer H).registry.dialect = d :=
  rfl

/-! ### Renderings -/

/-- The answer of a rendering whose template has run. -/
def outcome (r : Renderer H) (path : String) :
    Except (Halt EngineError) String → Except (Halt Error) String
  | .ok text => (r.decorators.apply text).mapError .failed
  | .error e => .error (e.map fun e => .render (some path) e.message)

theorem render_loaded {r : Renderer H} {path : String} (h : r.registry.isLoaded path)
    (context : Table Value) :
    r.render path context =
      let x := r.registry.execute r.bind path (r.augment (some path) context) r.store
      (r.outcome path x.1, { r with store := x.2 }) := by
  rw [render, if_pos h]
  dsimp only
  generalize r.registry.execute r.bind path _ r.store = x
  obtain ⟨result, store⟩ := x
  cases result <;> rfl

theorem render_unloaded {r : Renderer H} {path : String} (h : r.registry.isLoaded path = false)
    (context : Table Value) : r.render path context = (.error (.failed (.notFound path)), r) := by
  rw [render, h]
  rfl

theorem renderString_compiled {r : Renderer H} {source : String} {t : Template}
    (h : r.registry.dialect.compile source = .ok t) (context : Table Value) :
    r.renderString source context =
      let x := r.registry.executeSource r.bind source (r.augment none context) r.store
      (x.1.mapError (·.map fun e => .render none e.message), { r with store := x.2 }) := by
  rw [renderString, h]

theorem renderString_refused {r : Renderer H} {source : String} {e : EngineError}
    (h : r.registry.dialect.compile source = .error e) (context : Table Value) :
    r.renderString source context = (.error (.failed (.compile none e.message)), r) := by
  rw [renderString, h]

theorem exists_store_render (r : Renderer H) (path : String) (context : Table Value) :
    ∃ store, (r.render path context).2 = { r with store } := by
  unfold render
  split
  · dsimp only
    split <;> exact ⟨_, rfl⟩
  · exact ⟨r.store, rfl⟩

theorem exists_store_renderString (r : Renderer H) (source : String) (context : Table Value) :
    ∃ store, (r.renderString source context).2 = { r with store } := by
  unfold renderString
  split
  · exact ⟨r.store, rfl⟩
  · exact ⟨_, rfl⟩

theorem render_store (r : Renderer H) (path : String) (context : Table Value) :
    (r.render path context).2.store =
      (r.registry.execute r.bind path (r.augment (some path) context) r.store).2 := by
  cases hl : r.registry.isLoaded path with
  | true => rw [render_loaded hl]
  | false => rw [render_unloaded hl, Registry.execute, Registry.isLoaded_eq_false_iff.1 hl]

theorem renderString_store (r : Renderer H) (source : String) (context : Table Value) :
    (r.renderString source context).2.store =
      (r.registry.executeSource r.bind source (r.augment none context) r.store).2 := by
  cases hc : r.registry.dialect.compile source with
  | ok template => rw [renderString_compiled hc]
  | error e => rw [renderString_refused hc, Registry.executeSource_refused hc]

/-! ### Steps -/

/-- Only adding entries touches the templates. -/
theorem step_templates (r : Renderer H) (s : Step H) :
    (r.step s).2.registry.templates = match s with
      | .add entries => (r.registry.addMany entries).2.templates
      | _ => r.registry.templates := by
  cases s with
  | render path context =>
    obtain ⟨store, h⟩ := exists_store_render r path context
    exact congrArg (·.registry.templates) h
  | renderString source context =>
    obtain ⟨store, h⟩ := exists_store_renderString r source context
    exact congrArg (·.registry.templates) h
  | _ => rfl

theorem step_dialect (r : Renderer H) (s : Step H) :
    (r.step s).2.registry.dialect = r.registry.dialect := by
  cases s with
  | add entries => exact Registry.addMany_dialect r.registry entries
  | render path context =>
    obtain ⟨store, h⟩ := exists_store_render r path context
    exact congrArg (·.registry.dialect) h
  | renderString source context =>
    obtain ⟨store, h⟩ := exists_store_renderString r source context
    exact congrArg (·.registry.dialect) h
  | _ => rfl

theorem step_decorators (r : Renderer H) (s : Step H) :
    (r.step s).2.decorators = match s with
      | .addDecorator d => r.decorators ++ [d]
      | .resetDecorators => []
      | _ => r.decorators := by
  cases s with
  | render path context =>
    obtain ⟨store, h⟩ := exists_store_render r path context
    exact congrArg (·.decorators) h
  | renderString source context =>
    obtain ⟨store, h⟩ := exists_store_renderString r source context
    exact congrArg (·.decorators) h
  | _ => rfl

theorem session_cons (r : Renderer H) (s : Step H) (rest : List (Step H)) :
    r.session (s :: rest) =
      ((r.step s).1 :: ((r.step s).2.session rest).1, ((r.step s).2.session rest).2) :=
  rfl

theorem session_dialect (r : Renderer H) (steps : List (Step H)) :
    (r.session steps).2.registry.dialect = r.registry.dialect := by
  induction steps generalizing r with
  | nil => rfl
  | cons s rest ih => rw [session_cons, ih, step_dialect]

theorem session_append (r : Renderer H) (first second : List (Step H)) :
    r.session (first ++ second) =
      ((r.session first).1 ++ ((r.session first).2.session second).1,
        ((r.session first).2.session second).2) := by
  induction first generalizing r with
  | nil => rfl
  | cons s rest ih => rw [List.cons_append, session_cons, ih, session_cons, List.cons_append]

theorem session_add_render {r : Renderer H} {entries : List (String × String)} {path s : String}
    {context : Table Value} (hadd : (r.registry.addMany entries).1 = .ok ())
    (hrender : ((r.step (.add entries)).2.render path context).1 = .ok s) :
    (r.session [.add entries, .render path context]).1 = [.done, .text s] := by
  have hdone : (r.step (.add entries)).1 = .done := by simp only [step, hadd]
  have htext : ((r.step (.add entries)).2.step (.render path context)).1 = .text s :=
    congrArg Answer.ofText hrender
  rw [session_cons, session_cons, hdone, htext]
  rfl

theorem session_length (r : Renderer H) (steps : List (Step H)) :
    (r.session steps).1.length = steps.length := by
  induction steps generalizing r with
  | nil => rfl
  | cons s rest ih => rw [session_cons, List.length_cons, List.length_cons, ih]

theorem session_getElem? (r : Renderer H) (before : List (Step H)) (s : Step H)
    (after : List (Step H)) :
    (r.session (before ++ s :: after)).1[before.length]? =
      some ((r.session before).2.step s).1 := by
  have hlength := session_length r before
  rw [session_append, session_cons, List.getElem?_append_right (Nat.le_of_eq hlength), hlength,
    Nat.sub_self]
  rfl

end Renderer

end Storefront
