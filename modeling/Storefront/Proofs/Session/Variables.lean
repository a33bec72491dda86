import Storefront.Proofs.Session.Calls

/-!
# Template variables across renderings

Of the calls that a session makes in all its renderings, those of helpers for variables
(`Renderer.calls`) are, in their order, look-ups and updates on one map, which starts as the
variables of the first store and ends as those of the last (`variables_refine_map`). All other calls
leave the map as it is.
-/

namespace Storefront

open Json (Value)
open Render

/-- The call and its outcome, if it is one of a helper for variables. -/
def Builtin.Call.variableCall? (c : Builtin.Call) : Option (Variable.Call × Outcome) :=
  c.builtin.operation?.map fun operation => (⟨operation, c.settings, c.invocation⟩, c.outcome)

namespace Variable

/-- On a map that starts as `start`, the calls have these outcomes and make `m` of it. -/
def Explains (start : String → Option Value) (calls : List (Call × Outcome))
    (m : String → Option Value) : Prop :=
  runAll Call.onMap (calls.map Prod.fst) start = (calls.map fun e => .ok e.2, m)

namespace Explains

variable {start mid final : String → Option Value} {first second : List (Call × Outcome)}

theorem nil (start : String → Option Value) : Explains start [] start :=
  rfl

theorem append (h : Explains start first mid) (h' : Explains mid second final) :
    Explains start (first ++ second) final := by
  unfold Explains at h h' ⊢
  rw [List.map_append, runAll_append, h, h', List.map_append]

theorem single {c : Call} {o : Outcome} (h : c.onMap start = (.ok o, mid)) :
    Explains start [(c, o)] mid := by
  unfold Explains
  rw [List.map_singleton, runAll_cons, h]
  rfl

theorem of_runs {calls : List Builtin.Call}
    (h : Builtin.Runs (fun c m m' => Explains m c.variableCall?.toList m') start calls final) :
    Explains start (calls.filterMap Builtin.Call.variableCall?) final := by
  induction h with
  | nil => exact .nil _
  | @cons m m' _ c rest hcall _ ih =>
    have hexplains := hcall.append ih
    cases hv : c.variableCall? with
    | none =>
      rw [List.filterMap_cons_none hv]
      rwa [hv] at hexplains
    | some e =>
      rw [List.filterMap_cons_some hv]
      rwa [hv] at hexplains

end Explains

/-- What a call does to the variables of a store is explained by the call itself. -/
theorem explains_of_does {c : Builtin.Call} {s s' : Store} (h : c.Does s s') :
    Explains (lookup s) c.variableCall?.toList (lookup s') := by
  obtain ⟨b, settings, i, o⟩ := c
  cases hb : b.operation? with
  | none =>
    rw [Builtin.Call.variableCall?, hb, Builtin.lookup_of_operation?_eq_none hb h]
    exact .nil _
  | some operation =>
    obtain rfl := Builtin.eq_builtin_of_operation? hb
    have hmap := (Call.run_eq ⟨operation, settings, i⟩ s).1
    rw [Call.run_of_helper h] at hmap
    rw [Builtin.Call.variableCall?, hb]
    exact .single hmap.symm

end Variable

namespace Renderer

open Variable (Call Explains lookup runAll)

/-- The calls of helpers for variables that a session makes. -/
def calls (r : Renderer Builtin) (steps : List (Step Builtin)) : List (Call × Outcome) :=
  (r.transcript steps).filterMap Builtin.Call.variableCall?

theorem explains_session (r : Renderer Builtin) (steps : List (Step Builtin))
    (h : ∀ s ∈ steps, s.writesTo Variable.slot = false) :
    Explains (lookup r.store) (r.calls steps) (lookup (r.session steps).2.store) :=
  .of_runs (runs_session Variable.explains_of_does Variable.lookup_congr r steps h)

/-- Template variables are a map. Whatever a store holds, calls of their helpers have the outcomes
that look-ups and updates on its map have, in any order and number: they make the same map of it,
and leave everything else in the store as it is. A call without a key that is a string fails and
leaves all of the store as it is. And it makes no difference over how many renderings the calls are
spread: those of a session, in which nothing else writes to the slot, have the outcomes of one
sequence of calls on the map of the first store, and the last store has the map that they make. -/
theorem variables_refine_map :
    (∀ (s : Store) (cs : List Call),
      let x := runAll Call.run cs s
      (x.1, lookup x.2) = runAll Call.onMap cs (lookup s) ∧
        ∀ key, key ≠ Variable.slot → x.2.get? key = s.get? key) ∧
    (∀ (s : Store) (c : Call), c.key? = none →
      c.run s = (.error (.missingParam c.operation.builtin.name 0), s)) ∧
    ∀ (r : Renderer Builtin) (steps : List (Step Builtin)),
      (∀ s ∈ steps, s.writesTo Variable.slot = false) →
      Explains (lookup r.store) (r.calls steps) (lookup (r.session steps).2.store) :=
  ⟨fun s cs => Variable.runAll_run cs s, fun s _ h => Call.run_of_key?_eq_none h s,
    explains_session⟩

/-- A slot that holds a text, a page that counts and is then given up for a key that is no string,
and a source that counts on. -/
theorem variables_refine_map_pages :
    let source := "\x7b\x7bincrementVar \"n\"\x7d\x7d"
    let page := source ++ "\x7b\x7bgetVar 1\x7d\x7d" ++ source
    let r : Renderer Builtin := { new [] [] .v4 with store := [("variables", .string "none")] }
    let steps : List (Step Builtin) := [.add [("page", page)], .render "page" [], .put "mine" .null,
      .renderString source []]
    let keyless : Call := ⟨.get, {}, { params := [.ofInt 1], hash := [] }⟩
    keyless.run r.store = (.error (.missingParam "getVar" 0), r.store) ∧
      (r.calls steps).length = 2 ∧
        Explains (lookup r.store) (r.calls steps) (lookup (r.session steps).2.store) := by
  intro source page r steps keyless
  have hsteps : ∀ s ∈ steps, s.writesTo Variable.slot = false := by decide
  obtain ⟨-, hkeyless, hsession⟩ := variables_refine_map
  exact ⟨hkeyless r.store keyless rfl, by decide +kernel, hsession r steps hsteps⟩

end Renderer

end Storefront
