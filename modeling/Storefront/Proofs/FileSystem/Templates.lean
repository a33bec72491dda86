import Storefront.FileSystem.Templates
import Storefront.Proofs.Table

/-!
# The templates of a directory in order

Reading the templates of a directory fails exactly if one of their files holds no text. Otherwise
what is read is the table of the names and texts of all template files (`templates_eq_ok_iff`), and
so it is sorted, whatever the order of the files.
-/

namespace Storefront.FileTree

variable {t : FileTree} {templates : Table String}

/-- The name and the text of a file that is a template. -/
def entryOf? (f : List String × FileContent) : Option (String × String) :=
  match templateName? f.1, f.2 with
  | some name, .text s => some (name, s)
  | _, _ => none

/-- A template file that holds no text. -/
def IsUnreadable (f : List String × FileContent) : Prop :=
  ∃ name bytes, templateName? f.1 = some name ∧ f.2 = .binary bytes

theorem foldlM_eq_ok_iff {α β ε : Type} {f : β → α → Except ε β} {g : β → α → β} {bad : α → Prop}
    (hbad : ∀ b a, bad a → ∃ e, f b a = .error e) (hgood : ∀ b a, ¬bad a → f b a = .ok (g b a))
    {as : List α} {b b' : β} :
    as.foldlM f b = .ok b' ↔ (∀ a ∈ as, ¬bad a) ∧ b' = as.foldl g b := by
  induction as generalizing b with
  | nil =>
    rw [List.foldlM_nil, List.foldl_nil]
    simp [pure, Except.pure, eq_comm]
  | cons a as ih =>
    rw [List.foldlM_cons, List.foldl_cons, List.forall_mem_cons]
    by_cases ha : bad a
    · obtain ⟨e, he⟩ := hbad b a ha
      rw [he]
      exact ⟨nofun, fun h => absurd ha h.1.1⟩
    · rw [hgood b a ha]
      refine ih.trans (and_congr_left fun _ => ?_)
      exact (and_iff_right ha).symm

theorem templates_eq_ok_iff : t.templates = .ok templates ↔
    (∀ f ∈ t.files, ¬IsUnreadable f) ∧ templates = Table.ofList (t.files.filterMap entryOf?) := by
  unfold FileTree.templates Table.ofList
  rw [List.foldl_filterMap]
  refine foldlM_eq_ok_iff ?_ ?_
  · rintro found ⟨path, content⟩ ⟨name, bytes, hname, rfl⟩
    exact ⟨path, by simp only [hname]⟩
  · rintro found ⟨path, content⟩ hreadable
    unfold entryOf?
    dsimp only
    cases hname : templateName? path with
    | none => rfl
    | some name =>
      cases content with
      | text s => rfl
      | binary bytes => exact absurd ⟨name, bytes, hname, rfl⟩ hreadable

theorem templates_sorted (h : t.templates = .ok templates) : templates.Sorted := by
  rw [(templates_eq_ok_iff.1 h).2]
  exact Table.Sorted.nil.insertAll _

end Storefront.FileTree
