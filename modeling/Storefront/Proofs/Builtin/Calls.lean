import Storefront.Proofs.Builtin.Variables

/-!
# Calls in order

Whatever a page does to the store, it does by the calls of helpers that it makes. `Runs act` follows
such calls in their order, where `act` tells what a call does: to the store (`Call.Does`), or to
what one looks at of it (`Runs.map`). What is not the slot of any helper that is called stays as it
is (`Runs.eq_of_spares`).
-/

namespace Storefront.Builtin

open Render

/-- A call of a helper by a renderer with the given settings, and its outcome. -/
structure Call where
  builtin : Builtin
  settings : Settings
  invocation : Invocation
  outcome : Outcome

/-- On the store `s` the call has its outcome, and it leaves the store `s'`. -/
def Call.Does (c : Call) (s s' : Store) : Prop :=
  c.builtin.helper c.settings c.invocation s = .ok (c.outcome, s')

/-- What the call makes of the value `v` under a key, if all that is known of it is the slot of its
helper: it leaves every other key as it is. -/
def Call.Spares (key : String) (c : Call) (v v' : Option Json.Value) : Prop :=
  c.builtin.slot? ≠ some key → v' = v

theorem Call.Does.spares {c : Call} {s s' : Store} (h : c.Does s s') (key : String) :
    c.Spares key (s.get? key) (s'.get? key) :=
  get?_of_slot?_ne h

/-- Calls in order lead from one state to another. -/
inductive Runs {σ : Type} (act : Call → σ → σ → Prop) : σ → List Call → σ → Prop where
  | nil (s : σ) : Runs act s [] s
  | cons {s s' s'' : σ} {c : Call} {rest : List Call} (h : act c s s')
      (hrest : Runs act s' rest s'') : Runs act s (c :: rest) s''

namespace Runs

variable {σ τ : Type} {act : Call → σ → σ → Prop} {s s' s'' : σ}
variable {c : Call} {first second : List Call}

theorem single (h : act c s s') : Runs act s [c] s' :=
  .cons h (.nil s')

theorem append (h : Runs act s first s') (h' : Runs act s' second s'') :
    Runs act s (first ++ second) s'' := by
  induction h with
  | nil => exact h'
  | cons hcall _ ih => exact .cons hcall (ih h')

theorem append_iff :
    Runs act s (first ++ second) s'' ↔ ∃ s', Runs act s first s' ∧ Runs act s' second s'' := by
  constructor
  · intro h
    induction first generalizing s with
    | nil => exact ⟨s, .nil s, h⟩
    | cons c rest ih =>
      cases h with
      | cons hcall h =>
        obtain ⟨s', hfirst, hsecond⟩ := ih h
        exact ⟨s', .cons hcall hfirst, hsecond⟩
  · rintro ⟨s', hfirst, hsecond⟩
    exact hfirst.append hsecond

/-- What the calls do is told by a part of the state, if what each of them does is. -/
theorem map {act' : Call → τ → τ → Prop} (f : σ → τ)
    (hact : ∀ {c s s'}, act c s s' → act' c (f s) (f s')) (h : Runs act s first s') :
    Runs act' (f s) first (f s') := by
  induction h with
  | nil s => exact .nil (f s)
  | cons hcall _ ih => exact .cons (hact hcall) ih

theorem eq_of_spares {key : String} {v v' : Option Json.Value}
    (h : Runs (Call.Spares key) v first v') (hkey : ∀ c ∈ first, c.builtin.slot? ≠ some key) :
    v' = v := by
  induction h with
  | nil => rfl
  | @cons _ _ _ c rest hcall _ ih =>
    rw [ih fun c' hc' => hkey c' (List.mem_cons_of_mem c hc'), hcall (hkey c List.mem_cons_self)]

end Runs

end Storefront.Builtin
