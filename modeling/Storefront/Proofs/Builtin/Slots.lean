import Storefront.Builtin.Basic
import Storefront.Render.Language
import Storefront.Proofs.Render.Simulation

/-!
# The slots of the store

Two slots of the store belong to the storefront's helpers: one holds the variables of the templates,
the other what is collected for the page's scripts. A call looks at nothing else of the store, and
it either leaves the store as it is or puts an object into one of the slots, with all keys of the
object that was there (`helper_cases`). Stores that agree on the slots are therefore kept in step by
every helper (`helperRel_helper`).
-/

namespace Storefront

open Json (Value)
open Render

namespace Store

/-- The keys that the helpers use. -/
def slots : List String := [Variable.slot, ClientData.slot]

/-- Stores with the same slots. -/
def Agree (s t : Store) : Prop :=
  ∀ key ∈ slots, s.get? key = t.get? key

/-- What may become of a slot: an object keeps its keys, and anything else stays or becomes an
object. -/
def KeepsKeys (old new : Option Value) : Prop :=
  match old.bind Value.object? with
  | some fields => ∃ fields', new = some (.object fields') ∧
      ∀ key, Table.contains fields key → Table.contains fields' key
  | none => new = old ∨ ∃ fields', new = some (.object fields')

theorem bind_object?_eq_some_iff {v : Option Value} {fields : Table Value} :
    v.bind Value.object? = some fields ↔ v = some (.object fields) := by
  constructor
  · intro h
    obtain ⟨v, rfl, hv⟩ := Option.bind_eq_some_iff.1 h
    cases v with
    | object fields' => rw [Option.some.inj hv]
    | _ => cases hv
  · rintro rfl
    rfl

namespace KeepsKeys

variable {old mid new : Option Value}

theorem refl (v : Option Value) : KeepsKeys v v := by
  unfold KeepsKeys
  split
  · next fields h => exact ⟨fields, bind_object?_eq_some_iff.1 h, fun _ => id⟩
  · exact .inl rfl

theorem object {fields : Table Value}
    (h : ∀ key, Table.contains ((old.bind Value.object?).getD []) key →
      Table.contains fields key) :
    KeepsKeys old (some (.object fields)) := by
  unfold KeepsKeys
  split
  · next fields' hold =>
    rw [hold] at h
    exact ⟨fields, rfl, h⟩
  · exact .inr ⟨fields, rfl⟩

theorem trans (h : KeepsKeys old mid) (h' : KeepsKeys mid new) : KeepsKeys old new := by
  unfold KeepsKeys at h
  split at h
  · next fields hold =>
    obtain ⟨fields', rfl, hkeys⟩ := h
    obtain ⟨fields'', rfl, hkeys'⟩ := h'
    refine object ?_
    rw [hold]
    exact fun key hkey => hkeys' key (hkeys key hkey)
  · next hold =>
    obtain rfl | ⟨fields, rfl⟩ := h
    · exact h'
    · obtain ⟨fields', rfl, -⟩ := h'
      refine object ?_
      rw [hold]
      exact nofun

end KeepsKeys

/-- What may become of a store: nothing changes but the slots, and they keep their keys. -/
structure Evolves (s s' : Store) : Prop where
  frame : ∀ key, key ∉ slots → s'.get? key = s.get? key
  slot : ∀ key ∈ slots, KeepsKeys (s.get? key) (s'.get? key)

variable {s s' s'' t : Store} {key : String} {fields : Table Value}

theorem Evolves.refl (s : Store) : Evolves s s :=
  ⟨fun _ _ => rfl, fun _ _ => .refl _⟩

theorem Evolves.trans (h : Evolves s s') (h' : Evolves s' s'') : Evolves s s'' :=
  ⟨fun key hkey => (h'.frame key hkey).trans (h.frame key hkey),
    fun key hkey => (h.slot key hkey).trans (h'.slot key hkey)⟩

theorem Evolves.insert (hkey : key ∈ slots)
    (hkeeps : KeepsKeys (s.get? key) (some (.object fields))) :
    Evolves s (Table.insert s key (.object fields)) := by
  constructor
  · intro other hother
    rw [Table.get?_insert, if_neg]
    rintro rfl
    exact hother hkey
  · intro other _
    rw [Table.get?_insert]
    split
    · next heq => exact heq ▸ hkeeps
    · exact .refl _

theorem Agree.insert (h : Agree s t) (key : String) (v : Value) :
    Agree (Table.insert s key v) (Table.insert t key v) := by
  intro other hother
  rw [Table.get?_insert, Table.get?_insert, h other hother]

/-- Two stores of two runs that stay in step: they agree, and the first has evolved from `start`. -/
structure InStep (start s t : Store) : Prop where
  agree : Agree s t
  evolves : Evolves start s

end Store

/-! ### Calls -/

namespace Builtin

open Store

variable {s t : Store} (settings : Settings) (i : Invocation)

theorem helper_assignVar (s : Store) :
    assignVar.helper settings i s = (i.text "assignVar" 0).map fun key =>
      (.nothing, Variable.assign s key (optionalParam i 1)) :=
  bind_pure_comp _ _

theorem helper_getVar (s : Store) :
    getVar.helper settings i s = (i.text "getVar" 0).map fun key =>
      (.value (Variable.get s key).1, (Variable.get s key).2) :=
  bind_pure_comp _ _

theorem helper_incrementVar (s : Store) :
    incrementVar.helper settings i s = (i.text "incrementVar" 0).map fun key =>
      (.value (.number (.whole (Variable.increment s key).1)), (Variable.increment s key).2) :=
  bind_pure_comp _ _

theorem helper_inject (s : Store) :
    inject.helper settings i s = (i.text "inject" 0).map fun key =>
      (.nothing, ClientData.inject s key (optionalParam i 1)) :=
  bind_pure_comp _ _

theorem helper_jsContext (s : Store) :
    jsContext.helper settings i s = .ok (.text (ClientData.expression s), s) :=
  rfl

/-- A call that puts an object into a slot: which slot and which object depends on the slots alone,
and the object keeps the keys of the one that was there. -/
def PutsObject (f : Store → Except Reason (Outcome × Store)) (s t : Store) : Prop :=
  ∃ o key fields, key ∈ slots ∧ KeepsKeys (s.get? key) (some (.object fields)) ∧
    f s = .ok (o, Table.insert s key (.object fields)) ∧
    f t = .ok (o, Table.insert t key (.object fields))

/-- A call that does not touch the store. -/
def LeavesStore (f : Store → Except Reason (Outcome × Store)) (s t : Store) : Prop :=
  ∃ result : Except Reason Outcome, f s = result.map (·, s) ∧ f t = result.map (·, t)

theorem contains_insert {α : Type} (table : Table α) (key : String) (v : α) {k : String}
    (h : table.contains k) : (table.insert key v).contains k := by
  rw [Table.contains, Table.get?_insert]
  split
  · rfl
  · exact h

theorem keepsKeys_view (s : Store) :
    KeepsKeys (s.get? Variable.slot) (some (.object (Variable.view s))) :=
  .object fun _ hkey => hkey

theorem keepsKeys_assign (s : Store) (key : String) (v : Value) :
    KeepsKeys (s.get? Variable.slot) (some (.object ((Variable.view s).insert key v))) :=
  .object fun _ hkey => contains_insert _ key v hkey

theorem view_eq_of_agree (h : Agree s t) : Variable.view t = Variable.view s := by
  rw [Variable.view, Variable.view, h Variable.slot (by decide)]

theorem expression_eq_of_agree (h : Agree s t) :
    ClientData.expression t = ClientData.expression s := by
  have hcollected : ClientData.collected t = ClientData.collected s := by
    rw [ClientData.collected, ClientData.collected, h ClientData.slot (by decide)]
  unfold ClientData.expression
  rw [hcollected]

/-- All that a call can do to two stores that agree on the slots. -/
theorem helper_cases (b : Builtin) (h : Agree s t) :
    LeavesStore (b.helper settings i) s t ∨ PutsObject (b.helper settings i) s t := by
  have hview := view_eq_of_agree h
  cases b with
  | lang => exact .inl ⟨translation settings i, rfl, rfl⟩
  | region => exact .inl ⟨regionElement settings i, rfl, rfl⟩
  | cdn => exact .inl ⟨assetAddress settings i, rfl, rfl⟩
  | assignVar =>
    unfold LeavesStore PutsObject
    rw [helper_assignVar, helper_assignVar]
    cases i.text "assignVar" 0 with
    | error e => exact .inl ⟨.error e, rfl, rfl⟩
    | ok key =>
      refine .inr ⟨_, Variable.slot, _, by decide, keepsKeys_assign s key _, rfl, ?_⟩
      unfold Variable.assign
      rw [hview]
      rfl
  | getVar =>
    unfold LeavesStore PutsObject
    rw [helper_getVar, helper_getVar]
    cases i.text "getVar" 0 with
    | error e => exact .inl ⟨.error e, rfl, rfl⟩
    | ok key =>
      refine .inr ⟨_, Variable.slot, _, by decide, keepsKeys_view s, rfl, ?_⟩
      unfold Variable.get
      rw [hview]
      rfl
  | incrementVar =>
    unfold LeavesStore PutsObject
    rw [helper_incrementVar, helper_incrementVar]
    cases i.text "incrementVar" 0 with
    | error e => exact .inl ⟨.error e, rfl, rfl⟩
    | ok key =>
      refine .inr ⟨_, Variable.slot, _, by decide, keepsKeys_assign s key _, rfl, ?_⟩
      unfold Variable.increment Variable.assign
      rw [hview]
      rfl
  | inject =>
    unfold LeavesStore PutsObject
    rw [helper_inject, helper_inject]
    cases i.text "inject" 0 with
    | error e => exact .inl ⟨.error e, rfl, rfl⟩
    | ok key =>
      refine .inr ⟨_, ClientData.slot, _, by decide,
        .object fun _ hkey => contains_insert _ key (optionalParam i 1) hkey, rfl, ?_⟩
      unfold ClientData.inject
      rw [h ClientData.slot (by decide)]
      rfl
  | jsContext =>
    refine .inl ⟨.ok (.text (ClientData.expression s)), rfl, ?_⟩
    rw [helper_jsContext, expression_eq_of_agree h]
    rfl

theorem helperRel_helper (start : Store) (b : Builtin) :
    HelperRel (InStep start) (b.helper settings) (b.helper settings) := by
  intro i s t hst
  unfold callHelper
  rcases helper_cases settings i b hst.agree with
    ⟨result, hs, ht⟩ | ⟨o, key, fields, hkey, hkeeps, hs, ht⟩
  · rw [hs, ht]
    cases result with
    | error e => exact .error e hst
    | ok o => exact .ok rfl hst
  · rw [hs, ht]
    exact .ok rfl ⟨hst.agree.insert key _, hst.evolves.trans (.insert hkey hkeeps)⟩

end Builtin

end Storefront
