import Storefront.Proofs.Registry.Failure
import Storefront.Proofs.Session.Precedence

/-!
# Additions in another order

Of the entries for one path only the first counts, and whether a template can be made of it depends
on nothing that is registered. So an addition succeeds exactly if one can be made of the first entry
for every new path (`addMany_eq_ok_iff`), and moving entries past those for other paths changes
neither that nor what is registered under any path (`Reordered.addMany_get?`).
-/

namespace Storefront.Registry

/-- The same entries in another order, but those for one path in the same order. -/
structure Reordered (entries entries' : List (String × String)) : Prop where
  perm : entries.Perm entries'
  order : ∀ path, entries.filter (·.1 = path) = entries'.filter (·.1 = path)

variable {H : Type} {r r' : Registry H} {q text : String} {b : Bool}
variable {entries entries' : List (String × String)}

theorem isLoaded_of_add (h : r.add q text = .ok (b, r')) (path : String) :
    r'.isLoaded path = false ↔ q ≠ path ∧ r.isLoaded path = false := by
  rcases add_ok_cases h with ⟨hl, rfl⟩ | ⟨-, t, -, rfl⟩
  · constructor
    · intro hnew
      refine ⟨?_, hnew⟩
      rintro rfl
      rw [hl] at hnew
      cases hnew
    · exact And.right
  · rw [isLoaded_eq_false_iff, isLoaded_eq_false_iff, put, Table.get?_insert]
    split
    · next heq => exact ⟨nofun, fun hnew => absurd heq hnew.1⟩
    · next hne => exact ⟨fun hnew => ⟨hne, hnew⟩, And.right⟩

theorem isLoaded_addMany (hnew : r.isLoaded q = false) (hother : ∀ e ∈ entries, e.1 ≠ q) :
    (r.addMany entries).2.isLoaded q = false := by
  induction entries generalizing r with
  | nil => exact hnew
  | cons entry rest ih =>
    obtain ⟨path, text⟩ := entry
    cases hadd : r.add path text with
    | error e =>
      rw [addMany_cons_error hadd]
      exact hnew
    | ok result =>
      obtain ⟨b, r'⟩ := result
      rw [addMany_cons_ok hadd]
      refine ih ?_ fun e he => hother e (List.mem_cons_of_mem _ he)
      exact (isLoaded_of_add hadd q).2 ⟨hother _ List.mem_cons_self, hnew⟩

/-- An addition succeeds exactly if a template can be made of the first entry for every new path,
whatever else is added. -/
theorem addMany_eq_ok_iff :
    (r.addMany entries).1 = .ok () ↔
      ∀ path text, Table.get? entries path = some text → r.isLoaded path = false →
        ∃ t, build r.dialect path text = .ok t := by
  induction entries generalizing r with
  | nil => exact ⟨fun _ _ _ h => (nomatch h), fun _ => rfl⟩
  | cons entry rest ih =>
    obtain ⟨q, text⟩ := entry
    cases hadd : r.add q text with
    | error e =>
      obtain ⟨hnew, hrejects⟩ := add_eq_error_iff.1 hadd
      rw [addMany_cons_error hadd]
      refine ⟨nofun, fun h => ?_⟩
      obtain ⟨t, ht⟩ := h q text (if_pos rfl) hnew
      rw [build_eq_error_iff.2 hrejects] at ht
      cases ht
    | ok result =>
      obtain ⟨b, r'⟩ := result
      rw [addMany_cons_ok hadd, ih, add_dialect hadd]
      -- the head speaks for its own path, the rest for all other paths that are new
      constructor
      · intro h path other hget hnew
        rw [Table.get?_cons] at hget
        by_cases hq : q = path
        · subst hq
          rw [if_pos rfl] at hget
          cases hget
          rcases add_ok_cases hadd with ⟨hl, -⟩ | ⟨-, t, ht, -⟩
          · rw [hl] at hnew
            cases hnew
          · exact ⟨t, ht⟩
        · rw [if_neg hq] at hget
          exact h path other hget ((isLoaded_of_add hadd path).2 ⟨hq, hnew⟩)
      · intro h path other hget hnew
        obtain ⟨hq, hnew⟩ := (isLoaded_of_add hadd path).1 hnew
        exact h path other ((if_neg hq).trans hget) hnew

theorem reached_of_ok (h : (r.addMany entries).1 = .ok ()) : r.reached entries = entries := by
  induction entries generalizing r with
  | nil => rfl
  | cons entry rest ih =>
    obtain ⟨q, text⟩ := entry
    cases hadd : r.add q text with
    | error e =>
      rw [addMany_cons_error hadd] at h
      cases h
    | ok result =>
      obtain ⟨b, r'⟩ := result
      rw [addMany_cons_ok hadd] at h
      rw [reached_cons_ok hadd, ih h]

/-! ### What the order of the entries decides -/

theorem get?_filter (entries : List (String × String)) (path : String) :
    Table.get? (entries.filter (·.1 = path)) path = Table.get? entries path := by
  induction entries with
  | nil => rfl
  | cons entry rest ih =>
    obtain ⟨q, text⟩ := entry
    by_cases hq : q = path
    · simp [hq, Table.get?_cons]
    · simpa [hq, Table.get?_cons] using ih

theorem firstMade?_filter (d : Dialect) (path : String) (entries : List (String × String)) :
    firstMade? d path (entries.filter (·.1 = path)) = firstMade? d path entries := by
  induction entries with
  | nil => rfl
  | cons entry rest ih =>
    obtain ⟨q, text⟩ := entry
    by_cases hq : q = path
    · simpa [hq, firstMade?_cons] using congrArg _ ih
    · simpa [hq, firstMade?_cons, madeFor?] using ih

namespace Reordered

theorem get?_eq (h : Reordered entries entries') (path : String) :
    Table.get? entries path = Table.get? entries' path := by
  rw [← get?_filter entries, h.order, get?_filter]

theorem firstMade?_eq (h : Reordered entries entries') (d : Dialect) (path : String) :
    firstMade? d path entries = firstMade? d path entries' := by
  rw [← firstMade?_filter, h.order, firstMade?_filter]

theorem addMany_ok_iff (h : Reordered entries entries') (r : Registry H) :
    (r.addMany entries).1 = .ok () ↔ (r.addMany entries').1 = .ok () := by
  simp only [addMany_eq_ok_iff, h.get?_eq]

theorem addMany_get? (h : Reordered entries entries') (hok : (r.addMany entries).1 = .ok ())
    (path : String) :
    (r.addMany entries').2.templates.get? path = (r.addMany entries).2.templates.get? path := by
  have hok' := (h.addMany_ok_iff r).1 hok
  rw [Registry.addMany_get?, Registry.addMany_get?, reached_of_ok hok, reached_of_ok hok',
    h.firstMade?_eq]

end Reordered

end Storefront.Registry
