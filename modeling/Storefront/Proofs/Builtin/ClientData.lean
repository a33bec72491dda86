import Storefront.Proofs.Builtin.Calls
import Storefront.Proofs.Json.Value

/-!
# What reaches the page's scripts

All that a call does to the collected values, and all that it tells of them, is settled by the slot
for them (`acts_of_does`). So after calls in order the slot holds each injected value that was not
replaced later, and everything else that it held (`gathers_foldl`); and what is then written is an
expression from which a script reads exactly this (`transmits_script`).
-/

namespace Storefront.ClientData

open Json (Value IsExact Denotes)
open Render
open Builtin (Call Runs)

/-! ### The slot -/

/-- The fields of the object in the slot; anything else has none. -/
def fieldsOf (v : Option Value) : Table Value :=
  (v.bind Value.object?).getD []

/-- The slot after a value is added under a key. -/
def put (v : Option Value) (e : String × Value) : Option Value :=
  some (.object ((fieldsOf v).insert e.1 e.2))

/-- What is added by a call with these parameters, if the first one is a string. -/
def injection? (i : Invocation) : Option (String × Value) :=
  (i.params[0]?.bind Value.string?).map fun key => (key, Builtin.optionalParam i 1)

/-- What a call adds, if it is one that adds. -/
def added? (c : Call) : Option (String × Value) :=
  if c.builtin = .inject then injection? c.invocation else none

/-- The expression that evaluates to a value. -/
def script (v : Value) : String :=
  String.ofList ("JSON.parse(".toList ++ Json.literal v.write ++ [')'])

/-- All that a call does to the slot and tells of it. -/
structure Acts (c : Call) (v v' : Option Value) : Prop where
  slot : v' = (added? c).elim v (put v)
  text : c.builtin = .jsContext → c.outcome = .text (script (v.getD .empty))

theorem does_inject_iff {settings : Settings} {i : Invocation} {o : Outcome} {s s' : Store} :
    Call.Does ⟨.inject, settings, i, o⟩ s s' ↔
      ∃ e, injection? i = some e ∧ o = .nothing ∧ s' = inject s e.1 e.2 := by
  unfold Call.Does injection?
  rw [Builtin.helper_inject, Invocation.text]
  cases i.params[0]?.bind Value.string? with
  | none => simp [Except.map]
  | some key => simp [Except.map, eq_comm]

theorem does_jsContext_iff {settings : Settings} {i : Invocation} {o : Outcome} {s s' : Store} :
    Call.Does ⟨.jsContext, settings, i, o⟩ s s' ↔ o = .text (script (collected s)) ∧ s' = s := by
  unfold Call.Does
  rw [Builtin.helper_jsContext, Except.ok.injEq, Prod.mk.injEq, eq_comm, @eq_comm _ s]
  rfl

theorem get?_inject (s : Store) (key : String) (v : Value) :
    (inject s key v).get? slot = put (s.get? slot) (key, v) := by
  rw [inject, Table.get?_insert, if_pos rfl]
  rfl

theorem slot?_ne_slot {b : Builtin} : b ≠ .inject → b.slot? ≠ some slot := by
  cases b <;> decide

theorem acts_of_does {c : Call} {s s' : Store} (h : c.Does s s') :
    Acts c (s.get? slot) (s'.get? slot) := by
  obtain ⟨b, settings, i, o⟩ := c
  by_cases hb : b = .inject
  · subst hb
    obtain ⟨e, he, rfl, rfl⟩ := does_inject_iff.1 h
    refine ⟨?_, nofun⟩
    rw [get?_inject, added?, if_pos rfl, he]
    rfl
  · have hspared : s'.get? slot = s.get? slot := h.spares slot (slot?_ne_slot hb)
    rw [hspared]
    refine ⟨?_, ?_⟩
    · rw [added?, if_neg hb]
      rfl
    · rintro rfl
      rw [(does_jsContext_iff.1 h).1]
      rfl

/-- The helpers that add values and write them. -/
def helpers : List Builtin := [.inject, .jsContext]

theorem slot?_ne_of_mem_helpers {b : Builtin} (h : b ∈ helpers) {key : String} (hkey : key ≠ slot) :
    b.slot? ≠ some key := by
  rcases List.mem_pair.1 h with rfl | rfl
  · exact fun heq => hkey (Option.some.inj heq).symm
  · exact nofun

/-! ### Calls in order -/

variable {start v : Option Value} {cs before after : List Call} {c : Call}

/-- After calls in order the slot is as if only the values had been added. -/
theorem slot_of_runs (h : Runs Acts start cs v) : v = (cs.filterMap added?).foldl put start := by
  induction h with
  | nil => rfl
  | @cons v v' v'' c rest hcall _ ih =>
    rw [ih, hcall.slot, List.filterMap_cons]
    cases added? c <;> rfl

/-- The value that was collected when `injections` were added to what was in the slot at the start:
an object in which every key that was injected has its last value and every other key has what it
had before. If there were no injections, it is what was in the slot, or the empty object if there
was nothing. -/
inductive Gathers (start : Option Value) : List (String × Value) → Value → Prop where
  | nothing : Gathers start [] (start.getD .empty)
  | fields {injections : List (String × Value)} {fields : Table Value} (hne : injections ≠ [])
      (hsorted : fields.Sorted)
      (hget : ∀ key, fields.get? key =
        (Table.get? injections.reverse key).or ((fieldsOf start).get? key)) :
      Gathers start injections (.object fields)

/-- What is in the slot loses nothing when it is written. -/
def ExactSlot (v : Option Value) : Prop :=
  ∀ w ∈ v, IsExact w

theorem ExactSlot.fields (h : ExactSlot v) :
    (fieldsOf v).Sorted ∧ ∀ e ∈ fieldsOf v, IsExact e.2 := by
  unfold fieldsOf
  cases hv : v.bind Value.object? with
  | none => exact ⟨.nil, nofun⟩
  | some fields =>
    cases h (.object fields) (Store.bind_object?_eq_some_iff.1 hv) with
    | object hsorted hfields => exact ⟨hsorted, hfields⟩

theorem ExactSlot.put (h : ExactSlot v) {e : String × Value} (he : IsExact e.2) :
    ExactSlot (put v e) := by
  obtain ⟨hsorted, hfields⟩ := h.fields
  rintro _ ⟨⟩
  refine .object (hsorted.insert e.1 e.2) ?_
  intro f hf
  rcases Table.mem_insert hf with rfl | hf
  · exact he
  · exact hfields f hf

theorem ExactSlot.foldl_put {es : List (String × Value)} (h : ExactSlot v)
    (hes : ∀ e ∈ es, IsExact e.2) : ExactSlot (es.foldl ClientData.put v) := by
  induction es generalizing v with
  | nil => exact h
  | cons e es ih =>
    exact ih (h.put (hes e List.mem_cons_self)) fun f hf => hes f (List.mem_cons_of_mem e hf)

theorem ExactSlot.getD (h : ExactSlot v) : IsExact (v.getD .empty) := by
  cases v with
  | none => exact .object .nil nofun
  | some w => exact h w rfl

theorem foldl_put_object (fields : Table Value) (es : List (String × Value)) :
    es.foldl put (some (.object fields)) = some (.object (fields.insertAll es)) := by
  induction es generalizing fields with
  | nil => rfl
  | cons e es ih => exact ih (fields.insert e.1 e.2)

theorem foldl_put_cons (v : Option Value) (e : String × Value) (es : List (String × Value)) :
    (e :: es).foldl put v = some (.object ((fieldsOf v).insertAll (e :: es))) :=
  foldl_put_object ((fieldsOf v).insert e.1 e.2) es

theorem gathers_foldl (h : ExactSlot v) (es : List (String × Value)) :
    Gathers v es ((es.foldl put v).getD .empty) := by
  cases es with
  | nil => exact .nothing
  | cons e es =>
    rw [foldl_put_cons]
    exact .fields (List.cons_ne_nil e es) (h.fields.1.insertAll _) (Table.get?_insertAll _ _)

/-! ### The expression -/

/-- The text calls `JSON.parse` with one string literal, which ends right before the closing
bracket, and the content of the literal is a JSON text of the value. -/
def Transmits (text : String) (v : Value) : Prop :=
  ∃ inside content, text.toList = "JSON.parse(".toList ++ '"' :: inside ++ [')'] ∧
    Json.stringBody inside = .ok (content, []) ∧ Denotes content.toList v

theorem transmits_script {v : Value} (h : IsExact v) : Transmits (script v) v := by
  have hcontent : (String.ofList v.write).toList = v.write := String.toList_ofList
  have hspells : Json.Spells (v.write.flatMap Json.escapeChar) (String.ofList v.write).toList := by
    rw [hcontent]
    exact Json.spells_escaped v.write
  refine ⟨_, String.ofList v.write, String.toList_ofList, Json.stringBody_spells hspells [], ?_⟩
  rw [hcontent]
  exact h.denotes

/-- A quote is escaped twice. -/
example : script (.object [("a", .string "\"")]) =
    "JSON.parse(\"\x7b\\\"a\\\":\\\"\\\\\\\"\\\"\x7d\")" := by
  decide

/-- The text transmits what was in the slot at the start, with the injections added to it. -/
def HandsOver (start : Option Value) (injections : List (String × Value)) (text : String) : Prop :=
  ∃ v, Gathers start injections v ∧ Transmits text v

theorem handsOver_of_runs (h : Runs Acts start (before ++ c :: after) v)
    (hc : c.builtin = .jsContext) (hstart : ExactSlot start)
    (hadded : ∀ e ∈ before.filterMap added?, IsExact e.2) :
    ∃ text, c.outcome = .text text ∧ HandsOver start (before.filterMap added?) text := by
  obtain ⟨mid, hbefore, hrest⟩ := Runs.append_iff.1 h
  obtain rfl := slot_of_runs hbefore
  cases hrest with
  | cons hcall _ =>
    have htransmits := transmits_script (hstart.foldl_put hadded).getD
    exact ⟨_, hcall.text hc, _, gathers_foldl hstart _, htransmits⟩

/-! ### Calls that add, and one that writes -/

/-- A call that adds a value. -/
def addingCall (settings : Settings) (i : Invocation) : Call :=
  ⟨.inject, settings, i, .nothing⟩

variable {settings : Settings} {is : List Invocation}

theorem exists_runs_addingCall (his : ∀ i ∈ is, ∃ e, injection? i = some e) (s : Store) :
    ∃ s', Runs Call.Does s (is.map (addingCall settings)) s' := by
  induction is generalizing s with
  | nil => exact ⟨s, .nil s⟩
  | cons i is ih =>
    obtain ⟨e, he⟩ := his i List.mem_cons_self
    obtain ⟨s', hrest⟩ := ih (fun j hj => his j (List.mem_cons_of_mem i hj)) (inject s e.1 e.2)
    exact ⟨s', .cons (does_inject_iff.2 ⟨e, he, rfl, rfl⟩) hrest⟩

theorem filterMap_addingCall (settings : Settings) (is : List Invocation) :
    (is.map (addingCall settings)).filterMap added? = is.filterMap injection? :=
  List.filterMap_map

theorem isExact_of_mem_injections (his : ∀ i ∈ is, ∃ e, injection? i = some e ∧ IsExact e.2) :
    ∀ e ∈ is.filterMap injection?, IsExact e.2 := by
  intro e he
  obtain ⟨i, hi, hie⟩ := List.mem_filterMap.1 he
  obtain ⟨e', he', hexact⟩ := his i hi
  cases hie.symm.trans he'
  exact hexact

theorem exists_runs_handsOver {s : Store} (hs : ExactSlot (s.get? slot))
    (his : ∀ i ∈ is, ∃ e, injection? i = some e ∧ IsExact e.2) (j : Invocation) :
    ∃ s' text, Runs Call.Does s (is.map (addingCall settings) ++
        [⟨.jsContext, settings, j, .text text⟩]) s' ∧
      HandsOver (s.get? slot) (is.filterMap injection?) text ∧
      ∀ key, key ≠ slot → s'.get? key = s.get? key := by
  have hkeys : ∀ i ∈ is, ∃ e, injection? i = some e := fun i hi => (his i hi).imp fun _ => And.left
  obtain ⟨s', hadding⟩ := exists_runs_addingCall hkeys s
  have hwriting : Call.Does ⟨.jsContext, settings, j, .text (script (collected s'))⟩ s' s' :=
    does_jsContext_iff.2 ⟨rfl, rfl⟩
  refine ⟨s', _, hadding.append (.single hwriting), ?_, ?_⟩
  · have hruns := (hadding.append (.single hwriting)).map (·.get? slot) acts_of_does
    have hover := handsOver_of_runs hruns rfl hs
    rw [filterMap_addingCall] at hover
    obtain ⟨text, htext, hover⟩ := hover (isExact_of_mem_injections his)
    cases htext
    exact hover
  · intro key hkey
    have hslot : ∀ c ∈ is.map (addingCall settings), c.builtin.slot? ≠ some key := by
      intro c hc
      obtain ⟨i, -, rfl⟩ := List.mem_map.1 hc
      exact fun heq => hkey (Option.some.inj heq).symm
    -- what writes the values leaves the whole store as it is
    exact (hadding.map (·.get? key) (Call.Does.spares · key)).eq_of_spares hslot

end Storefront.ClientData
