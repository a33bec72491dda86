import Storefront.Proofs.Builtin.Slots
import Mathlib.Algebra.Order.Ring.Int

/-!
# Template variables are a map

What the three helpers for variables do is told by the variables alone. A call looks up or updates
one key of a map from names to values, and everything else in the store stays as it is
(`Call.run_eq`); a call whose key is no string fails. So a sequence of calls on a store is a
sequence of look-ups and updates on its map, whatever was in the slot before (`runAll_run`).
-/

namespace Storefront

open Json (Value Integer)
open Render

/-! ### The map -/

namespace Variable

/-- The variables of a store as a map. -/
def lookup (s : Store) : String → Option Value :=
  (view s).get?

/-- The number that a counter shows after it showed `v`. -/
def count (v : Option Value) : Int :=
  match v with
  | some (.number (.whole m)) => if m.val ≤ 2 ^ 63 - 1 then min (m.val + 1) (2 ^ 63 - 1) else 0
  | _ => 0

theorem successor_val (n : Integer) : (successor n).val = min (n.val + 1) (2 ^ 63 - 1) := by
  unfold successor
  split
  · dsimp only
    omega
  · dsimp only
    omega

theorem next_val (v : Option Value) : (next v).val = count v := by
  unfold count
  split
  · next n =>
    have hlimit : n.val < 0x8000000000000000 ↔ n.val ≤ 2 ^ 63 - 1 := by omega
    simp only [next, hlimit]
    split
    · exact successor_val n
    · rfl
  · next hother =>
    rw [next]
    · rfl
    · exact hother

/-- A number that is too large for a counter starts it over. -/
example : (next (some (.ofInt (2 ^ 63)))).val = 0 := rfl

theorem ofInt_count (v : Option Value) : Value.ofInt (count v) = .number (.whole (next v)) := by
  rw [← next_val, Value.ofInt, Integer.ofInt?_val]

variable {s t : Store} {key : String}

theorem view_setView (s : Store) (vars : Table Value) : view (setView s vars) = vars := by
  rw [view, setView, Table.get?_insert, if_pos rfl]
  rfl

theorem get?_setView (s : Store) (vars : Table Value) (h : key ≠ slot) :
    (setView s vars).get? key = s.get? key := by
  rw [setView, Table.get?_insert, if_neg h.symm]

theorem lookup_setView (s : Store) (vars : Table Value) : lookup (setView s vars) = vars.get? := by
  rw [lookup, view_setView]

theorem lookup_congr (h : t.get? slot = s.get? slot) : lookup t = lookup s := by
  rw [lookup, lookup, view, view, h]

end Variable

theorem Table.get?_insert_eq_update {α : Type} (table : Table α) (key : String) (v : α) :
    (table.insert key v).get? = Function.update table.get? key (some v) := by
  funext other
  rw [get?_insert, Function.update_apply]
  simp only [eq_comm]

/-! ### Calls -/

namespace Variable

/-- What a call does with a variable. -/
inductive Operation where
  | assign
  | get
  | increment

def Operation.builtin : Operation → Builtin
  | assign => .assignVar
  | get => .getVar
  | increment => .incrementVar

/-- A call of one of the helpers for variables, by a renderer with the given settings. -/
structure Call where
  operation : Operation
  settings : Settings
  invocation : Invocation

namespace Call

/-- The name of the variable, if the first parameter is a string. -/
def key? (c : Call) : Option String :=
  c.invocation.params[0]?.bind Value.string?

/-- Calls the helper: its outcome, and the store after it. -/
def run (c : Call) (s : Store) : Except Reason Outcome × Store :=
  match callHelper (c.operation.builtin.helper c.settings) c.invocation s with
  | .ok o s => (.ok o, s)
  | .error e s => (.error e, s)

/-- What the call amounts to on a map: its outcome, and the map after it. -/
def onMap (c : Call) (m : String → Option Value) :
    Except Reason Outcome × (String → Option Value) :=
  match c.key? with
  | none => (.error (.missingParam c.operation.builtin.name 0), m)
  | some key =>
    match c.operation with
    | .assign =>
      (.ok .nothing, Function.update m key (some (Builtin.optionalParam c.invocation 1)))
    | .get => (.ok (.value ((m key).getD .null)), m)
    | .increment =>
      let n := Value.ofInt (count (m key))
      (.ok (.value n), Function.update m key (some n))

/-- What a call with a key does on a store. -/
def onStore (c : Call) (key : String) (s : Store) : Outcome × Store :=
  match c.operation with
  | .assign => (.nothing, assign s key (Builtin.optionalParam c.invocation 1))
  | .get => (.value (get s key).1, (get s key).2)
  | .increment => (.value (.number (.whole (increment s key).1)), (increment s key).2)

variable {c : Call} {key : String}

theorem helper_eq (c : Call) (s : Store) :
    c.operation.builtin.helper c.settings c.invocation s =
      (c.invocation.text c.operation.builtin.name 0).map fun key => c.onStore key s := by
  obtain ⟨operation, settings, i⟩ := c
  cases operation with
  | assign => exact Builtin.helper_assignVar settings i s
  | get => exact Builtin.helper_getVar settings i s
  | increment => exact Builtin.helper_incrementVar settings i s

theorem run_of_helper {operation : Operation} {settings : Settings} {i : Invocation}
    {s s' : Store} {o : Outcome} (h : operation.builtin.helper settings i s = .ok (o, s')) :
    run ⟨operation, settings, i⟩ s = (.ok o, s') := by
  unfold run callHelper
  rw [h]

theorem run_of_key?_eq_none (h : c.key? = none) (s : Store) :
    c.run s = (.error (.missingParam c.operation.builtin.name 0), s) := by
  unfold key? at h
  unfold run callHelper
  rw [helper_eq, Invocation.text, h]
  rfl

theorem run_of_key?_eq_some (h : c.key? = some key) (s : Store) :
    c.run s = (.ok (c.onStore key s).1, (c.onStore key s).2) := by
  unfold key? at h
  unfold run callHelper
  rw [helper_eq, Invocation.text, h]
  rfl

theorem exists_onStore_eq (h : c.key? = some key) (s : Store) :
    ∃ o vars, c.onStore key s = (o, setView s vars) ∧ c.onMap (lookup s) = (.ok o, vars.get?) := by
  unfold onMap onStore
  rw [h]
  cases c.operation with
  | assign =>
    refine ⟨_, _, rfl, ?_⟩
    rw [Table.get?_insert_eq_update]
    rfl
  | get => exact ⟨_, _, rfl, rfl⟩
  | increment =>
    -- the number that a counter shows is in range, so it is the value of that number
    refine ⟨_, _, rfl, ?_⟩
    rw [Table.get?_insert_eq_update]
    simp only [ofInt_count]
    rfl

/-- A call on a store is the call on its map, and it leaves everything else as it is. -/
theorem run_eq (c : Call) (s : Store) :
    ((c.run s).1, lookup (c.run s).2) = c.onMap (lookup s) ∧
      ∀ other, other ≠ slot → (c.run s).2.get? other = s.get? other := by
  cases h : c.key? with
  | none =>
    rw [run_of_key?_eq_none h, onMap, h]
    exact ⟨rfl, fun _ _ => rfl⟩
  | some key =>
    obtain ⟨o, vars, hstore, hmap⟩ := exists_onStore_eq h s
    rw [run_of_key?_eq_some h, hstore, hmap]
    refine ⟨?_, fun other hother => get?_setView s vars hother⟩
    rw [lookup_setView]

end Call

/-! ### Sequences of calls -/

/-- Makes calls in order: their outcomes, and the state after them. -/
def runAll {σ : Type} (run : Call → σ → Except Reason Outcome × σ) :
    List Call → σ → List (Except Reason Outcome) × σ
  | [], s => ([], s)
  | c :: rest, s =>
    let (o, s) := run c s
    let (os, s) := runAll run rest s
    (o :: os, s)

theorem runAll_cons {σ : Type} (run : Call → σ → Except Reason Outcome × σ) (c : Call)
    (rest : List Call) (s : σ) :
    runAll run (c :: rest) s =
      ((run c s).1 :: (runAll run rest (run c s).2).1, (runAll run rest (run c s).2).2) :=
  rfl

theorem runAll_append {σ : Type} (run : Call → σ → Except Reason Outcome × σ)
    (first second : List Call) (s : σ) :
    runAll run (first ++ second) s =
      ((runAll run first s).1 ++ (runAll run second (runAll run first s).2).1,
        (runAll run second (runAll run first s).2).2) := by
  induction first generalizing s with
  | nil => rfl
  | cons c rest ih => rw [List.cons_append, runAll_cons, ih, runAll_cons, List.cons_append]

theorem runAll_run (calls : List Call) (s : Store) :
    ((runAll Call.run calls s).1, lookup (runAll Call.run calls s).2) =
        runAll Call.onMap calls (lookup s) ∧
      ∀ other, other ≠ slot → (runAll Call.run calls s).2.get? other = s.get? other := by
  induction calls generalizing s with
  | nil => exact ⟨rfl, fun _ _ => rfl⟩
  | cons c rest ih =>
    obtain ⟨hcall, hframe⟩ := c.run_eq s
    obtain ⟨hrest, hframe'⟩ := ih (c.run s).2
    rw [runAll_cons, runAll_cons, ← hcall, ← hrest]
    exact ⟨rfl, fun other hother => (hframe' other hother).trans (hframe other hother)⟩

end Variable

/-! ### The other helpers -/

namespace Builtin

open Variable (Operation lookup)

/-- What a helper does with variables, if it is one of those for variables. -/
def operation? : Builtin → Option Operation
  | assignVar => some .assign
  | getVar => some .get
  | incrementVar => some .increment
  | _ => none

theorem eq_builtin_of_operation? {b : Builtin} {operation : Operation}
    (h : b.operation? = some operation) : b = operation.builtin := by
  cases b <;> cases h <;> rfl

theorem store_eq_of_pure {run : Invocation → Except Reason Outcome} {i : Invocation}
    {s s' : Store} {o : Outcome} (h : Helper.pure run i s = .ok (o, s')) : s' = s := by
  unfold Helper.pure at h
  cases hrun : run i with
  | error e =>
    rw [hrun] at h
    cases h
  | ok o' =>
    rw [hrun] at h
    cases h
    rfl

/-- The place of what a helper remembers, if it remembers anything. -/
def slot? : Builtin → Option String
  | assignVar | getVar | incrementVar => some Variable.slot
  | inject => some ClientData.slot
  | _ => none

/-- A call changes nothing of the store but the slot of its helper. -/
theorem get?_of_slot?_ne {b : Builtin} {settings : Settings} {i : Invocation} {s s' : Store}
    {o : Outcome} (h : b.helper settings i s = .ok (o, s')) {key : String}
    (hkey : b.slot? ≠ some key) : s'.get? key = s.get? key := by
  cases hb : b.operation? with
  | some operation =>
    obtain rfl := eq_builtin_of_operation? hb
    have hne : key ≠ Variable.slot := by
      rintro rfl
      cases operation <;> exact hkey rfl
    have hframe := (Variable.Call.run_eq ⟨operation, settings, i⟩ s).2 key hne
    rw [Variable.Call.run_of_helper h] at hframe
    exact hframe
  | none =>
    cases b with
    | lang => rw [store_eq_of_pure h]
    | region => rw [store_eq_of_pure h]
    | cdn => rw [store_eq_of_pure h]
    | assignVar => cases hb
    | getVar => cases hb
    | incrementVar => cases hb
    | inject =>
      have hne : ClientData.slot ≠ key := fun heq => hkey (congrArg some heq)
      rw [helper_inject] at h
      cases htext : i.text "inject" 0 with
      | error e =>
        rw [htext] at h
        cases h
      | ok k =>
        rw [htext] at h
        cases h
        rw [ClientData.inject, Table.get?_insert, if_neg hne]
    | jsContext =>
      cases h
      rfl

theorem lookup_of_operation?_eq_none {b : Builtin} (hb : b.operation? = none) {settings : Settings}
    {i : Invocation} {s s' : Store} {o : Outcome} (h : b.helper settings i s = .ok (o, s')) :
    lookup s' = lookup s := by
  have hslot : b.operation? = none → b.slot? ≠ some Variable.slot := by
    cases b <;> decide
  exact Variable.lookup_congr (get?_of_slot?_ne h (hslot hb))

end Builtin

end Storefront
