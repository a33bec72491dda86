import Storefront.Proofs.Render.Simulation
import Storefront.Proofs.Template.Compile

/-!
# One registry with two kinds of helpers

What a run does to its store, it does by the helpers that it is given. So if a registry is run
twice, with helpers that do the same on related stores, then the two runs have the same answer and
leave related stores.
-/

namespace Storefront

open Json (Value)
open Render

variable {σ τ : Type} {Q : σ → τ → Prop}

namespace Render

theorem HelperRel.pure (Q : σ → τ → Prop) (run : Invocation → Except Reason Outcome) :
    HelperRel Q (.pure run) (.pure run) := by
  intro i s t hst
  unfold callHelper Helper.pure
  cases run i with
  | error e => exact .error e hst
  | ok o => exact .ok rfl hst

/-- No helper of the language has a store of its own. -/
theorem Language.helperRel (Q : σ → τ → Prop) (name : String) :
    Option.Rel (HelperRel Q) (Language.helper? name) (Language.helper? name) := by
  unfold Language.helper?
  split
  all_goals first
    | exact .some (.pure Q _)
    | exact .none

end Render

namespace Registry

variable {H : Type} {bind : String → H → Helper σ} {bind' : String → H → Helper τ}
variable {s : σ} {t : τ}

/-- Two runs with the same answer, and with related stores after them. -/
structure EndsAlike (Q : σ → τ → Prop) (x : Except (Halt EngineError) String × σ)
    (y : Except (Halt EngineError) String × τ) : Prop where
  answer : x.1 = y.1
  store : Q x.2 y.2

theorem environment_alike (r : Registry H)
    (hbind : ∀ name h, HelperRel Q (bind name h) (bind' name h)) (data : Value) :
    EnvRel Q Eq (r.environment bind data) (r.environment bind' data) where
  escape _ := rfl
  helper name := by
    unfold environment
    dsimp only
    cases r.helpers.get? name with
    | some h => exact .some (hbind name h)
    | none => exact Language.helperRel Q name
  templates _ := rfl
  root := rfl

theorem run_alike (r : Registry H) (hbind : ∀ name h, HelperRel Q (bind name h) (bind' name h))
    (template : Template) (data : Value) (hst : Q s t) :
    EndsAlike Q (r.run bind template data s) (r.run bind' template data t) := by
  have hrender := (r.environment_alike hbind data).render .eq rfl template hst
  exact ⟨congrArg (Except.mapError (Halt.map EngineError.render)) hrender.1.eq, hrender.2⟩

theorem execute_alike (r : Registry H) (hbind : ∀ name h, HelperRel Q (bind name h) (bind' name h))
    (path : String) (data : Value) (hst : Q s t) :
    EndsAlike Q (r.execute bind path data s) (r.execute bind' path data t) := by
  unfold execute
  cases r.templates.get? path with
  | some template => exact r.run_alike hbind template data hst
  | none => exact ⟨rfl, hst⟩

theorem executeSource_alike (r : Registry H)
    (hbind : ∀ name h, HelperRel Q (bind name h) (bind' name h)) (source : String) (data : Value)
    (hst : Q s t) :
    EndsAlike Q (r.executeSource bind source data s) (r.executeSource bind' source data t) := by
  cases hc : r.dialect.compile source with
  | ok template =>
    rw [executeSource_compiled hc, executeSource_compiled hc]
    exact r.run_alike hbind template data hst
  | error e =>
    rw [executeSource_refused hc, executeSource_refused hc]
    exact ⟨rfl, hst⟩

end Registry

end Storefront
