import Storefront.Table
import Mathlib.Data.List.Induction
import Mathlib.Data.String.Basic

/-!
# Sorted tables

The keys of a sorted table ascend strictly. Inserting keeps a table sorted (`Sorted.insert`), and a
sorted list of entries is its own table (`ofList_eq`).
-/

namespace Storefront.Table

variable {α : Type} {t : Table α} {key : String}

def Sorted (t : Table α) : Prop :=
  t.Pairwise fun a b => a.1 < b.1

instance (t : Table α) : Decidable t.Sorted :=
  inferInstanceAs (Decidable (t.Pairwise fun a b => a.1 < b.1))

theorem sorted_iff_keys : t.Sorted ↔ t.keys.Pairwise (· < ·) :=
  List.pairwise_map.symm

theorem Sorted.nodup_keys (h : t.Sorted) : t.keys.Nodup :=
  (sorted_iff_keys.1 h).imp fun hlt => hlt.ne

theorem Sorted.nil : Sorted ([] : Table α) :=
  List.Pairwise.nil

theorem mem_insert {value : α} {e : String × α} (h : e ∈ t.insert key value) :
    e = (key, value) ∨ e ∈ t := by
  induction t with
  | nil => exact .inl (List.mem_singleton.1 h)
  | cons f t ih =>
    obtain ⟨k, v⟩ := f
    unfold Table.insert at h
    split at h
    · rcases List.mem_cons.1 h with h | h
      · exact .inl h
      · exact .inr (List.mem_cons_of_mem _ h)
    · split at h
      · exact List.mem_cons.1 h
      · rcases List.mem_cons.1 h with h | h
        · exact .inr (h ▸ List.mem_cons_self)
        · exact (ih h).imp_right (List.mem_cons_of_mem _)

theorem Sorted.insert (h : t.Sorted) (key : String) (value : α) : (t.insert key value).Sorted := by
  induction t with
  | nil => exact List.pairwise_singleton _ _
  | cons e t ih =>
    obtain ⟨k, v⟩ := e
    obtain ⟨hfirst, hrest⟩ := List.pairwise_cons.1 h
    unfold Table.insert
    split
    · next hk =>
      subst hk
      exact List.pairwise_cons.2 ⟨hfirst, hrest⟩
    · next hne =>
      split
      · next hlt =>
        refine List.pairwise_cons.2 ⟨?_, h⟩
        intro f hf
        rcases List.mem_cons.1 hf with rfl | hf
        · exact hlt
        · exact hlt.trans (hfirst f hf)
      · next hnlt =>
        refine List.pairwise_cons.2 ⟨?_, ih hrest⟩
        intro f hf
        rcases mem_insert hf with rfl | hf
        · exact lt_of_le_of_ne (not_lt.1 hnlt) hne
        · exact hfirst f hf

/-! ### Look-up and entries -/

theorem mem_of_get? {value : α} (h : t.get? key = some value) : (key, value) ∈ t := by
  induction t with
  | nil => cases h
  | cons e t ih =>
    obtain ⟨k, v⟩ := e
    rw [get?_cons] at h
    split at h
    · next hk =>
      cases h
      subst hk
      exact List.mem_cons_self
    · exact List.mem_cons_of_mem _ (ih h)

theorem exists_get?_of_mem {value : α} (h : (key, value) ∈ t) :
    ∃ first, t.get? key = some first := by
  induction t with
  | nil => cases h
  | cons e t ih =>
    obtain ⟨k, v⟩ := e
    rw [get?_cons]
    split
    · exact ⟨v, rfl⟩
    · next hk =>
      rcases List.mem_cons.1 h with h | h
      · cases h
        exact absurd rfl hk
      · exact ih h

theorem get?_of_mem {value : α} (hkeys : t.keys.Nodup) (h : (key, value) ∈ t) :
    t.get? key = some value := by
  induction t with
  | nil => cases h
  | cons e t ih =>
    obtain ⟨k, v⟩ := e
    obtain ⟨hk, hkeys⟩ := List.nodup_cons.1 hkeys
    rw [get?_cons]
    rcases List.mem_cons.1 h with h | h
    · cases h
      exact if_pos rfl
    · have hne : k ≠ key := by
        rintro rfl
        exact hk (List.mem_map.2 ⟨_, h, rfl⟩)
      rw [if_neg hne, ih hkeys h]

/-! ### Tables put together -/

theorem Sorted.filter_lt {t rest : Table α} {e : String × α} (h : Sorted (t ++ e :: rest)) :
    (t ++ e :: rest).filter (·.1 < e.1) = t := by
  obtain ⟨-, hrest, hbefore⟩ := List.pairwise_append.1 h
  rw [List.filter_append,
    List.filter_eq_self.2 fun x hx => decide_eq_true (hbefore x hx e List.mem_cons_self),
    List.filter_eq_nil_iff.2 ?_, List.append_nil]
  intro x hx hlt
  rcases List.mem_cons.1 hx with rfl | hx
  · exact lt_irrefl _ (of_decide_eq_true hlt)
  · exact lt_asymm (List.rel_of_pairwise_cons hrest hx) (of_decide_eq_true hlt)

theorem get?_append (t t' : Table α) (key : String) :
    get? (t ++ t') key = (t.get? key).or (get? t' key) := by
  induction t with
  | nil => rfl
  | cons e t ih =>
    obtain ⟨k, v⟩ := e
    rw [List.cons_append, get?_cons, get?_cons, ih]
    split <;> rfl

/-- Of the entries that are stored, the last one for a key counts. -/
theorem get?_insertAll (t new : Table α) (key : String) :
    (t.insertAll new).get? key = (get? new.reverse key).or (t.get? key) := by
  induction new generalizing t with
  | nil => rfl
  | cons e new ih =>
    obtain ⟨k, v⟩ := e
    have hstore : t.insertAll ((k, v) :: new) = (t.insert k v).insertAll new := rfl
    rw [hstore, ih, get?_insert, List.reverse_cons, get?_append, Option.or_assoc, get?_cons]
    split <;> rfl

theorem Sorted.insertAll (h : t.Sorted) (new : Table α) : (t.insertAll new).Sorted := by
  induction new generalizing t with
  | nil => exact h
  | cons e new ih => exact ih (h.insert e.1 e.2)

theorem get?_ofList_concat (t : List (String × α)) (e : String × α) (key : String) :
    (ofList (t ++ [e])).get? key = if e.1 = key then some e.2 else (ofList t).get? key := by
  rw [ofList, List.foldl_append]
  exact get?_insert _ e.1 e.2 key

section
variable {ι : Type} {g : ι → Option (String × α)} {xs : List ι} {a : ι} {value : α}

theorem get?_ofList_filterMap_of_eq (ha : g a = some (key, value)) :
    (ofList ((xs ++ [a]).filterMap g)).get? key = some value := by
  rw [List.filterMap_append, List.filterMap_cons_some ha, List.filterMap_nil, get?_ofList_concat,
    if_pos rfl]

theorem get?_ofList_filterMap_of_ne (ha : ∀ other, g a ≠ some (key, other)) :
    (ofList ((xs ++ [a]).filterMap g)).get? key = (ofList (xs.filterMap g)).get? key := by
  cases hga : g a with
  | none => simp [hga]
  | some e =>
    have hne : e.1 ≠ key := by
      rintro rfl
      exact ha e.2 hga
    rw [List.filterMap_append, List.filterMap_cons_some hga, List.filterMap_nil,
      get?_ofList_concat, if_neg hne]

theorem get?_ofList_filterMap_iff {r : ι → ι → Prop} (hr : ∀ x y, r x y → ¬r y x)
    (hxs : xs.Pairwise r) :
    (ofList (xs.filterMap g)).get? key = some value ↔
      ∃ x ∈ xs, g x = some (key, value) ∧
        ∀ y ∈ xs, ∀ other, g y = some (key, other) → y = x ∨ r y x := by
  induction xs using List.reverseRecOn with
  | nil => simp [ofList]
  | append_singleton xs a ih =>
    obtain ⟨hxs, -, hlast⟩ := List.pairwise_append.1 hxs
    have hlast (x : ι) (hx : x ∈ xs) : r x a := hlast x hx a List.mem_cons_self
    by_cases ha : ∃ other, g a = some (key, other)
    · obtain ⟨other, ha⟩ := ha
      rw [get?_ofList_filterMap_of_eq ha, Option.some_inj]
      constructor
      · rintro rfl
        refine ⟨a, by simp, ha, fun y hy _ _ => ?_⟩
        rcases List.mem_append.1 hy with hy | hy
        · exact .inr (hlast y hy)
        · exact .inl (List.mem_singleton.1 hy)
      · rintro ⟨x, hx, hgx, hlater⟩
        -- nothing comes behind the element at the end
        have hxa : x = a := by
          rcases List.mem_append.1 hx with hx | hx
          · rcases hlater a (by simp) other ha with rfl | hax
            · rfl
            · exact absurd hax (hr x a (hlast x hx))
          · exact List.mem_singleton.1 hx
        rw [hxa, ha] at hgx
        cases hgx
        rfl
    · have hmem {p : ι → Prop} (hp : ¬p a) : (∃ x ∈ xs ++ [a], p x) ↔ ∃ x ∈ xs, p x := by
        simp [or_and_right, exists_or, hp]
      rw [get?_ofList_filterMap_of_ne (not_exists.1 ha), ih hxs, hmem fun h => ha ⟨value, h.1⟩]
      refine exists_congr fun x => and_congr_right fun _ => and_congr_right fun _ => ?_
      rw [List.forall_mem_append, List.forall_mem_singleton]
      exact (and_iff_left fun other h => absurd ⟨other, h⟩ ha).symm

end

/-! ### Tables with the same look-ups -/

theorem Sorted.nodup (h : t.Sorted) : t.Nodup :=
  h.imp fun hlt heq => hlt.ne (congrArg Prod.fst heq)

theorem Sorted.mem_iff (h : t.Sorted) {e : String × α} : e ∈ t ↔ t.get? e.1 = some e.2 :=
  ⟨fun he => get?_of_mem h.nodup_keys he, fun he => mem_of_get? he⟩

theorem Sorted.ext {t' : Table α} (h : t.Sorted) (h' : t'.Sorted)
    (hget : ∀ key, t.get? key = t'.get? key) : t = t' := by
  have hperm : t.Perm t' := by
    refine (List.perm_ext_iff_of_nodup h.nodup h'.nodup).2 ?_
    intro e
    rw [h.mem_iff, h'.mem_iff, hget]
  refine hperm.eq_of_pairwise ?_ h h'
  intro a b _ _ hab hba
  exact absurd hba hab.asymm

/-! ### Insertion at the end -/

theorem insert_last (h : ∀ e ∈ t, e.1 < key) (value : α) :
    t.insert key value = t ++ [(key, value)] := by
  induction t with
  | nil => rfl
  | cons e t ih =>
    obtain ⟨k, v⟩ := e
    have hlt : k < key := h (k, v) List.mem_cons_self
    rw [Table.insert, if_neg hlt.ne, if_neg hlt.asymm,
      ih fun f hf => h f (List.mem_cons_of_mem _ hf)]
    rfl

theorem insertAll_eq_append {new : Table α} (h : Sorted (t ++ new)) :
    t.insertAll new = t ++ new := by
  induction new generalizing t with
  | nil => exact (List.append_nil t).symm
  | cons e new ih =>
    obtain ⟨k, v⟩ := e
    have hlast : ∀ f ∈ t, f.1 < k := fun f hf =>
      (List.pairwise_append.1 h).2.2 f hf (k, v) List.mem_cons_self
    have hsplit : t ++ (k, v) :: new = (t ++ [(k, v)]) ++ new := by
      rw [List.append_assoc, List.singleton_append]
    rw [hsplit] at h ⊢
    rw [← ih h, ← insert_last hlast v]
    rfl

theorem ofList_eq (h : t.Sorted) : ofList t = t := by
  have h : Sorted ([] ++ t) := h
  exact insertAll_eq_append h

end Storefront.Table
