import Storefront.Proofs.Registry.Bindings
import Storefront.Proofs.Render.Unending
import Storefront.Proofs.Session.Run

/-!
# The outcomes of rendering a source

A source is compiled before anything is run, compiled again by the dialect on the way to its run,
and parsed once more where it is run, without the dialect. Neither repetition can fail where the
first compilation did not (`executeSource_compiled`, `runSource_compiled`), so that a refusal is
never taken for a failing run. `SourceOutcome` lists what is left: a refusal that changes nothing, a
text, a failure of the run, or a run that needs more of the stack than there is. All of them touch
the store only, and the decorators have no part in them (`rendering_source`). The size of the stack
does not decide about texts and failures, but no stack is large enough for parts that call each
other without end (`unending_parts`).
-/

namespace Storefront

open Json (Value)
open Render (Failure firstPart?)

namespace Registry

variable {H σ : Type} {depth : Nat}

theorem run_depth (r : Registry H) (hdepth : r.depth ≤ depth) (bind : String → H → Render.Helper σ)
    (t : Template) (data : Value) (store : σ) (h : (r.run bind t data store).1 ≠ .error .overflow) :
    { r with depth }.run bind t data store = r.run bind t data store := by
  have hrender : ((r.environment bind data).render t store).1 ≠ .error .overflow := by
    intro heq
    exact h (congrArg (Except.mapError (Halt.map EngineError.render)) heq)
  have hrun := (r.environment bind data).render_depth hdepth t store hrender
  rw [run, run, ← hrun]
  rfl

end Registry

namespace Renderer

variable {H : Type} [Registrable H] {r : Renderer H} {source : String} {data : Value}
variable {x : Except (Halt Error) String × Renderer H}

/-- What rendering a source with the given data can come to: an answer, and the renderer after
it. -/
inductive SourceOutcome (r : Renderer H) (source : String) (data : Value) :
    Except (Halt Error) String × Renderer H → Prop where
  /-- The source does not compile. Nothing is run, and the renderer stays as it is. -/
  | refused {e : EngineError} (compile : r.registry.dialect.compile source = .error e) :
    SourceOutcome r source data (.error (.failed (.compile none e.message)), r)
  /-- The source compiles, and its run gives a text. -/
  | text {t : Template} {s : String} {store : Store}
    (compile : r.registry.dialect.compile source = .ok t)
    (run : r.registry.run r.bind t data r.store = (.ok s, store)) :
    SourceOutcome r source data (.ok s, { r with store })
  /-- The source compiles, and its run fails. What the run did to the store stays done. -/
  | failure {t : Template} {f : Failure} {store : Store}
    (compile : r.registry.dialect.compile source = .ok t)
    (run : r.registry.run r.bind t data r.store = (.error (.failed (.render f)), store)) :
    SourceOutcome r source data (.error (.failed (.render none f.message)), { r with store })
  /-- The source compiles, and its run uses up the stack. -/
  | overflow {t : Template} {store : Store}
    (compile : r.registry.dialect.compile source = .ok t)
    (run : r.registry.run r.bind t data r.store = (.error .overflow, store)) :
    SourceOutcome r source data (.error .overflow, { r with store })

theorem sourceOutcome (r : Renderer H) (source : String) (context : Table Value) :
    SourceOutcome r source (r.augment none context) (r.renderString source context) := by
  cases hc : r.registry.dialect.compile source with
  | error e =>
    rw [renderString_refused hc]
    exact .refused hc
  | ok t =>
    rw [renderString_compiled hc, Registry.executeSource_compiled hc]
    cases hrender : (r.registry.environment r.bind (r.augment none context)).render t r.store with
    | mk result store =>
      have hrun : r.registry.run r.bind t (r.augment none context) r.store =
          (result.mapError (·.map .render), store) := by
        rw [Registry.run, hrender]
      rw [hrun]
      cases result with
      | ok s => exact .text hc hrun
      | error e =>
        cases e with
        | failed f => exact .failure hc hrun
        | overflow => exact .overflow hc hrun

namespace SourceOutcome

theorem refused_iff (h : SourceOutcome r source data x) :
    (∃ e, x.1 = .error (.failed e) ∧ e.kind = .compile) ↔
      ∃ e, r.registry.dialect.compile source = .error e := by
  cases h with
  | refused hc => exact ⟨fun _ => ⟨_, hc⟩, fun _ => ⟨_, rfl, rfl⟩⟩
  | text hc hrun => simp [hc]
  | failure hc hrun => simp [hc, Error.kind]
  | overflow hc hrun => simp [hc]

theorem error_cases (h : SourceOutcome r source data x) {e : Error}
    (he : x.1 = .error (.failed e)) : e.path = none ∧ (e.kind = .compile ∨ e.kind = .render) := by
  cases h with
  | refused _ =>
    cases he
    exact ⟨rfl, .inl rfl⟩
  | text _ _ => cases he
  | failure _ _ =>
    cases he
    exact ⟨rfl, .inr rfl⟩
  | overflow _ _ => cases he

end SourceOutcome

theorem renderString_decorators (r : Renderer H) (decorators : DecoratorChain) (source : String)
    (context : Table Value) :
    { r with decorators }.renderString source context =
      let x := r.renderString source context
      (x.1, { x.2 with decorators }) := by
  cases hc : r.registry.dialect.compile source with
  | error e =>
    rw [renderString_refused hc, renderString_refused (r := { r with decorators }) hc]
  | ok t =>
    rw [renderString_compiled hc, renderString_compiled (r := { r with decorators }) hc]
    rfl

/-- The same renderer on a stack of another size. -/
def onStack (r : Renderer H) (depth : Nat) : Renderer H :=
  { r with registry := { r.registry with depth } }

/-- A larger stack makes no difference to a rendering that does not overflow. -/
theorem renderString_onStack (r : Renderer H) {depth : Nat} (hdepth : r.registry.depth ≤ depth)
    (source : String) (context : Table Value)
    (h : (r.renderString source context).1 ≠ .error .overflow) :
    (r.onStack depth).renderString source context =
      ((r.renderString source context).1, (r.renderString source context).2.onStack depth) := by
  cases hc : r.registry.dialect.compile source with
  | error e => rw [renderString_refused hc, renderString_refused (r := r.onStack depth) hc]
  | ok t =>
    rw [renderString_compiled hc, Registry.executeSource_compiled hc] at h
    have hrun : (r.onStack depth).registry.run (r.onStack depth).bind t
        ((r.onStack depth).augment none context) (r.onStack depth).store =
          r.registry.run r.bind t (r.augment none context) r.store :=
      r.registry.run_depth hdepth r.bind t _ r.store fun heq => h (congrArg (Except.mapError _) heq)
    have hc' : (r.onStack depth).registry.dialect.compile source = .ok t := hc
    rw [renderString_compiled hc, renderString_compiled hc', Registry.executeSource_compiled hc,
      Registry.executeSource_compiled hc', hrun]
    rfl

/-- A source that starts with parts that call each other without end has no answer. -/
theorem renderString_unending {P : Template → Prop} {t : Template} {context : Table Value}
    (hc : r.registry.dialect.compile source = .ok t) (ht : P t)
    (h : (r.registry.environment r.bind (r.augment none context)).Unending P) :
    (r.renderString source context).1 = .error .overflow := by
  have hrun : (r.registry.run r.bind t (r.augment none context) r.store).1 = .error .overflow :=
    congrArg (Except.mapError _) (Render.Environment.render_unending h ht r.store)
  rw [renderString_compiled hc, Registry.executeSource_compiled hc]
  exact congrArg (Except.mapError _) hrun

end Renderer

end Storefront
