import Storefront.Proofs.Builtin.ClientData
import Storefront.Proofs.Json.ScriptEnd

/-!
# Client data inside a script

The expression for the page's scripts may itself stand in a script of the page, which ends at the
first `</script`. Writing the collected value twice neither adds that to a text nor takes it away
(`closesScript_script`), and the strings of the collected value all come from the slot or from an
injection (`mem_strings_foldl_put`). So the page is as safe as the strings that are injected.
-/

namespace Storefront.ClientData

open Json (Value SomeCloses closesScript_literal_append closesScript_write_append)
open Text (ClosesScript)
open Builtin (Call Runs)
open Render

theorem closesScript_script (v : Value) :
    ClosesScript (script v).toList ↔ SomeCloses v.strings := by
  have hclosing : ¬ClosesScript [')'] := by decide
  have hnil : ¬ClosesScript [] := by decide
  have hopening : '<' ∉ "JSON.parse(".toList := by decide
  have htext : (script v).toList = "JSON.parse(".toList ++ Json.literal v.write ++ [')'] :=
    String.toList_ofList
  have hwrite := closesScript_write_append v []
  rw [List.append_nil, or_iff_left hnil] at hwrite
  rw [htext, List.append_assoc,
    Text.closesScript_append_of_not_mem hopening, closesScript_literal_append,
    or_iff_left hclosing, hwrite]

/-! ### Where the strings come from -/

variable {v : Option Value} {e : String × Value} {es : List (String × Value)} {t : String}

theorem mem_strings_of_mem_fieldsOf (h : t ∈ Value.stringsFields (fieldsOf v)) :
    t ∈ (v.getD .empty).strings := by
  unfold fieldsOf at h
  cases hv : v.bind Value.object? with
  | none =>
    rw [hv] at h
    cases h
  | some fields =>
    rw [hv] at h
    rw [Store.bind_object?_eq_some_iff.1 hv]
    exact h

theorem mem_strings_put (h : t ∈ ((put v e).getD .empty).strings) :
    t ∈ (v.getD .empty).strings ∨ t = e.1 ∨ t ∈ e.2.strings := by
  obtain ⟨f, hf, ht⟩ := Value.mem_stringsFields.1 h
  rcases Table.mem_insert hf with rfl | hf
  · exact .inr ht
  · exact .inl (mem_strings_of_mem_fieldsOf (Value.mem_stringsFields.2 ⟨f, hf, ht⟩))

theorem mem_strings_foldl_put (h : t ∈ ((es.foldl put v).getD .empty).strings) :
    t ∈ (v.getD .empty).strings ∨ ∃ e ∈ es, t = e.1 ∨ t ∈ e.2.strings := by
  induction es generalizing v with
  | nil => exact .inl h
  | cons e es ih =>
    rcases ih h with hput | ⟨f, hf, ht⟩
    · rcases mem_strings_put hput with hbefore | hinjected
      · exact .inl hbefore
      · exact .inr ⟨e, List.mem_cons_self, hinjected⟩
    · exact .inr ⟨f, List.mem_cons_of_mem e hf, ht⟩

theorem mem_strings_of_last {key : String} {w : Value}
    (hlast : Table.get? es.reverse key = some w) (ht : t = key ∨ t ∈ w.strings) :
    t ∈ ((es.foldl put v).getD .empty).strings := by
  cases es with
  | nil => cases hlast
  | cons e es =>
    have hget : ((fieldsOf v).insertAll (e :: es)).get? key = some w := by
      rw [Table.get?_insertAll, hlast]
      rfl
    rw [foldl_put_cons]
    exact Value.mem_stringsFields.2 ⟨(key, w), Table.mem_of_get? hget, ht⟩

/-! ### Calls in order -/

/-- Whatever a store holds, injections of any values under any keys never fail, and the expression
that is written then closes the script that it stands in if and only if one of the strings that were
collected does, be it a key or a text at any depth. Each of these strings was in the slot at the
start, or it is the key of an injection or in its value; and the key that was injected and the
strings of the last value for it are always among them. -/
theorem expression_closes_iff (settings : Settings) (s : Store) (is : List Invocation)
    (j : Invocation) (his : ∀ i ∈ is, ∃ e, injection? i = some e) :
    ∃ s' text, Runs Call.Does s (is.map (addingCall settings) ++
        [⟨.jsContext, settings, j, .text text⟩]) s' ∧
      (ClosesScript text.toList ↔ ∃ t ∈ (collected s').strings, ClosesScript t.toList) ∧
      (∀ t ∈ (collected s').strings, t ∈ (collected s).strings ∨
        ∃ e ∈ is.filterMap injection?, t = e.1 ∨ t ∈ e.2.strings) ∧
      ∀ key v, Table.get? (is.filterMap injection?).reverse key = some v →
        ∀ t, t = key ∨ t ∈ v.strings → t ∈ (collected s').strings := by
  obtain ⟨s', hadding⟩ : ∃ s', Runs Call.Does s (is.map (addingCall settings)) s' :=
    exists_runs_addingCall his s
  have hwriting : Call.Does ⟨.jsContext, settings, j, .text (script (collected s'))⟩ s' s' :=
    does_jsContext_iff.2 ⟨rfl, rfl⟩
  have hslot := slot_of_runs (hadding.map (·.get? slot) acts_of_does)
  rw [filterMap_addingCall] at hslot
  have hcollected : collected s' =
      ((is.filterMap injection?).foldl put (s.get? slot)).getD .empty := by
    rw [collected, hslot]
  refine ⟨s', _, hadding.append (.single hwriting), closesScript_script _, ?_, ?_⟩
  · intro t ht
    rw [hcollected] at ht
    exact mem_strings_foldl_put ht
  · intro key v hlast t ht
    rw [hcollected]
    exact mem_strings_of_last hlast ht

/-- A name that ends no script, and one that does in capital letters, under a key that already had
a name. -/
theorem expression_closes_iff_names :
    let kept : Store := [("inject", .object [("name", .string "Mug")])]
    let named (name : String) : Invocation :=
      { params := [.string "name", .string name], hash := [] }
    let written (name text : String) : List Call :=
      [addingCall {} (named name), ⟨.jsContext, {}, named name, .text text⟩]
    (∃ s' text, Runs Call.Does kept (written "Cup" text) s' ∧ ¬ClosesScript text.toList) ∧
    ∃ s' text, Runs Call.Does kept (written "</SCRIPT>" text) s' ∧ ClosesScript text.toList := by
  intro kept named written
  have hnamed : ∀ name, ∀ i ∈ [named name], ∃ e, injection? i = some e :=
    fun name => List.forall_mem_singleton.2 ⟨_, rfl⟩
  refine ⟨?_, ?_⟩
  · obtain ⟨s', text, hruns, hcloses, horigin, -⟩ :=
      expression_closes_iff {} kept [named "Cup"] (named "Cup") (hnamed "Cup")
    refine ⟨s', text, hruns, fun hclosed => ?_⟩
    obtain ⟨t, ht, htcloses⟩ := hcloses.1 hclosed
    have hharmless : ∀ t ∈ ["name", "Mug", "Cup"], ¬ClosesScript t.toList := by decide
    rcases horigin t ht with hbefore | ⟨e, he, hinjected⟩
    · exact hharmless t (List.mem_append_left ["Cup"] hbefore) htcloses
    · obtain rfl : e = ("name", .string "Cup") := List.mem_singleton.1 he
      rcases hinjected with rfl | ht
      · exact hharmless "name" (by decide) htcloses
      · obtain rfl : t = "Cup" := List.mem_singleton.1 ht
        exact hharmless "Cup" (by decide) htcloses
  · obtain ⟨s', text, hruns, hcloses, -, hlast⟩ :=
      expression_closes_iff {} kept [named "</SCRIPT>"] (named "</SCRIPT>") (hnamed "</SCRIPT>")
    have hmem := hlast "name" (.string "</SCRIPT>") rfl "</SCRIPT>" (.inr List.mem_cons_self)
    exact ⟨s', text, hruns, hcloses.2 ⟨_, hmem, by decide⟩⟩

/-- Without anything in the store, a single injection is enough to close the script. -/
theorem expression_closes_injected :
    let i : Invocation := { params := [.string "k", .string "</script>"], hash := [] }
    let text := "JSON.parse(\"\x7b\\\"k\\\":\\\"</script>\\\"\x7d\")"
    (∃ s', Runs Call.Does [] [addingCall {} i, ⟨.jsContext, {}, i, .text text⟩] s') ∧
      ClosesScript text.toList := by
  intro i text
  refine ⟨?_, by decide⟩
  have hadding : Call.Does (addingCall {} i) [] (inject [] "k" (.string "</script>")) :=
    does_inject_iff.2 ⟨_, rfl, rfl, rfl⟩
  have htext : text = script (.object [("k", .string "</script>")]) := by decide
  have hwriting : Call.Does ⟨.jsContext, {}, i, .text text⟩
      (inject [] "k" (.string "</script>")) (inject [] "k" (.string "</script>")) :=
    does_jsContext_iff.2 ⟨congrArg Outcome.text htext, rfl⟩
  exact ⟨_, .cons hadding (.single hwriting)⟩

end Storefront.ClientData
