import Storefront.Proofs.Builtin.Variables
import Mathlib.Data.List.Chain

/-!
# Counters

A variable that holds a whole number is a counter. Calls that count it up one after another show one
number each (`counts`), and the variable holds what was shown last (`runAll_countsUp`). A counter
that is a signed number of 64 bits never goes down: it goes up by one until it reaches the largest
such number, and stays there (`val_of_getElem?_counts`). A variable can hold larger numbers as well.
Such a counter starts over at zero, which is the only way in which one can go down
(`counter_ascends_iff`).
-/

namespace Storefront.Variable

open Json (Value Integer)
open Render

/-- The call counts the variable `key` up. -/
structure Call.CountsUp (key : String) (c : Call) : Prop where
  operation : c.operation = .increment
  key : c.key? = some key

/-- A counter as the value of a variable. -/
def counter (n : Integer) : Value :=
  .number (.whole n)

/-- The numbers that so many calls in a row show, if the variable holds `v` before the first. -/
def counts (v : Option Value) : (calls : Nat) → List Integer
  | 0 => []
  | calls + 1 => next v :: counts (some (counter (next v))) calls

/-- The numbers never go down. -/
def Ascends (ns : List Integer) : Prop :=
  ns.IsChain fun m n => m.val ≤ n.val

/-! ### One call -/

variable {key : String} {n : Integer}

theorem next_val_of_lt (h : n.val < 2 ^ 63) :
    (next (some (counter n))).val = min (n.val + 1) (2 ^ 63 - 1) := by
  rw [next_val, counter, count, if_pos (Int.le_sub_one_of_lt h)]

theorem next_val_of_le (h : 2 ^ 63 ≤ n.val) : (next (some (counter n))).val = 0 := by
  rw [next_val, counter, count, if_neg (by omega)]

theorem next_val_lt (v : Option Value) : (next v).val < 2 ^ 63 := by
  rw [next_val]
  unfold count
  split
  · split <;> omega
  · decide

theorem le_next_iff : n.val ≤ (next (some (counter n))).val ↔ n.val < 2 ^ 63 := by
  constructor
  · intro h
    exact lt_of_le_of_lt h (next_val_lt _)
  · intro h
    rw [next_val_of_lt h]
    omega

theorem run_countsUp {c : Call} (h : c.CountsUp key) (s : Store) :
    c.run s = (.ok (.value (counter (next (lookup s key)))), (increment s key).2) := by
  rw [Call.run_of_key?_eq_some h.key, Call.onStore, h.operation]
  rfl

theorem lookup_increment (s : Store) (key : String) :
    lookup (increment s key).2 key = some (counter (next (lookup s key))) := by
  rw [increment, assign, lookup_setView, Table.get?_insert, if_pos rfl]
  rfl

/-! ### Calls in a row -/

theorem runAll_countsUp {cs : List Call} (h : ∀ c ∈ cs, c.CountsUp key) (s : Store) :
    (runAll Call.run cs s).1 =
        (counts (lookup s key) cs.length).map (fun m => .ok (.value (counter m))) ∧
      ∀ k m, (counts (lookup s key) cs.length)[k]? = some m →
        lookup (runAll Call.run (cs.take (k + 1)) s).2 key = some (counter m) := by
  induction cs generalizing s with
  | nil =>
    refine ⟨rfl, fun k m hm => ?_⟩
    rw [List.length_nil, counts, List.getElem?_nil] at hm
    cases hm
  | cons c rest ih =>
    have hrun := run_countsUp (h c List.mem_cons_self) s
    obtain ⟨houtcomes, hstored⟩ :=
      ih (fun c' hc' => h c' (List.mem_cons_of_mem c hc')) (increment s key).2
    rw [lookup_increment] at houtcomes hstored
    constructor
    · rw [runAll_cons, hrun, houtcomes]
      rfl
    · intro k m hm
      rw [List.take_succ_cons, runAll_cons, hrun]
      cases k with
      | zero =>
        cases hm
        exact lookup_increment s key
      | succ k => exact hstored k m hm

theorem ascends_cons_counts (h : n.val < 2 ^ 63) (calls : Nat) :
    Ascends (n :: counts (some (counter n)) calls) := by
  induction calls generalizing n with
  | zero => exact List.isChain_singleton n
  | succ calls ih => exact List.isChain_cons_cons.2 ⟨le_next_iff.2 h, ih (next_val_lt _)⟩

/-- What the calls show is a counter of 64 bits, whatever the variable held. -/
theorem ascends_counts (v : Option Value) (calls : Nat) : Ascends (counts v calls) := by
  cases calls with
  | zero => exact List.isChain_nil
  | succ calls => exact ascends_cons_counts (next_val_lt v) calls

theorem ascends_cons_counts_iff {calls : Nat} :
    Ascends (n :: counts (some (counter n)) calls) ↔ n.val < 2 ^ 63 ∨ calls = 0 := by
  cases calls with
  | zero => exact iff_of_true (List.isChain_singleton n) (.inr rfl)
  | succ calls =>
    constructor
    · intro h
      exact .inl (le_next_iff.1 (List.isChain_cons_cons.1 h).1)
    · rintro (h | h)
      · exact ascends_cons_counts h _
      · cases h

theorem val_of_getElem?_counts (h : n.val < 2 ^ 63) {calls k : Nat} {m : Integer}
    (hm : (n :: counts (some (counter n)) calls)[k]? = some m) :
    m.val = min (n.val + k) (2 ^ 63 - 1) := by
  induction k generalizing n calls with
  | zero =>
    cases hm
    omega
  | succ k ih =>
    cases calls with
    | zero => cases hm
    | succ calls =>
      rw [ih (next_val_lt _) hm, next_val_of_lt h]
      omega

theorem val_of_getElem?_counts_of_le (h : 2 ^ 63 ≤ n.val) {calls k : Nat} {m : Integer}
    (hm : (counts (some (counter n)) calls)[k]? = some m) :
    m.val = min (k : Int) (2 ^ 63 - 1) := by
  cases calls with
  | zero => cases hm
  | succ calls => rw [val_of_getElem?_counts (next_val_lt _) hm, next_val_of_le h, Int.zero_add]

/-- Calls that count a counter up show one number each, and each leaves the number that it shows in
the variable. From the first of these numbers on the counter never goes down. It does not go down at
the first call either exactly if it was a signed number of 64 bits, and then it goes up by one with
every call until it stays at the largest such number. A larger number starts over at zero. -/
theorem counter_ascends_iff {s : Store} {cs : List Call}
    (hcounter : lookup s key = some (counter n)) (hcalls : ∀ c ∈ cs, c.CountsUp key) :
    ∃ ms : List Integer,
      (runAll Call.run cs s).1 = ms.map (fun m => .ok (.value (counter m))) ∧
      (∀ k m, (n :: ms)[k]? = some m →
        lookup (runAll Call.run (cs.take k) s).2 key = some (counter m)) ∧
      Ascends ms ∧
      (Ascends (n :: ms) ↔ n.val < 2 ^ 63 ∨ cs = []) ∧
      (n.val < 2 ^ 63 → ∀ (k : Nat) m, (n :: ms)[k]? = some m →
        m.val = min (n.val + k) (2 ^ 63 - 1)) ∧
      (2 ^ 63 ≤ n.val → ∀ (k : Nat) m, ms[k]? = some m → m.val = min (k : Int) (2 ^ 63 - 1)) := by
  obtain ⟨houtcomes, hstored⟩ := runAll_countsUp hcalls s
  rw [hcounter] at houtcomes hstored
  refine ⟨counts (some (counter n)) cs.length, houtcomes, fun k m hm => ?_, ascends_counts _ _, ?_,
    fun h k m hm => val_of_getElem?_counts h hm,
    fun h k m hm => val_of_getElem?_counts_of_le h hm⟩
  · cases k with
    | zero =>
      cases hm
      exact hcounter
    | succ k => exact hstored k m hm
  · rw [ascends_cons_counts_iff, List.length_eq_zero_iff]

/-- Three calls on a counter that has one number left to go. -/
theorem counter_ascends_iff_limit :
    let n : Integer := ⟨2 ^ 63 - 2, by decide, by decide⟩
    let s : Store := [("variables", .object [("m", .null), ("n", counter n)])]
    let c : Call := ⟨.increment, {}, { params := [.string "n"], hash := [] }⟩
    (lookup s "n" = some (counter n) ∧ ∀ c' ∈ [c, c, c], c'.CountsUp "n") ∧
      ∃ ms : List Integer,
        (runAll Call.run [c, c, c] s).1 = ms.map (fun m => .ok (.value (counter m))) ∧
        Ascends (n :: ms) ∧ ∀ k m, (n :: ms)[k + 1]? = some m → m.val = 2 ^ 63 - 1 := by
  intro n s c
  have hcounter : lookup s "n" = some (counter n) := rfl
  have hcalls : ∀ c' ∈ [c, c, c], c'.CountsUp "n" := by
    have hc : c.CountsUp "n" := ⟨rfl, rfl⟩
    simp only [List.mem_cons, List.not_mem_nil, or_false]
    rintro c' (rfl | rfl | rfl) <;> exact hc
  obtain ⟨ms, houtcomes, -, -, hascends, hvalues, -⟩ := counter_ascends_iff hcounter hcalls
  have hlimit : n.val < 2 ^ 63 := by decide
  refine ⟨⟨hcounter, hcalls⟩, ms, houtcomes, hascends.2 (.inl hlimit), fun k m hm => ?_⟩
  have hn : n.val = 2 ^ 63 - 2 := rfl
  rw [hvalues hlimit (k + 1) m hm, hn]
  omega

/-- A counter one above the largest signed number of 64 bits goes down to zero. -/
theorem counter_descends :
    let n : Integer := ⟨2 ^ 63, by decide, by decide⟩
    let s : Store := [("variables", .object [("n", counter n)])]
    let c : Call := ⟨.increment, {}, { params := [.string "n"], hash := [] }⟩
    (lookup s "n" = some (counter n) ∧ c.CountsUp "n") ∧
      (c.run s).1 = .ok (.value (counter .zero)) ∧
      lookup (c.run s).2 "n" = some (counter .zero) ∧ Integer.zero.val < n.val :=
  ⟨⟨rfl, rfl, rfl⟩, rfl, rfl, by decide⟩

end Storefront.Variable
