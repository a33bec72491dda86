import Storefront.FileSystem.Tree
import Storefront.Proofs.Table

/-!
# The files of a tree

In a file system no directory has two entries of one name, and no name holds a slash
(`WellFormed`). Then the files that `files` lists are the ones that are found by their names
(`mem_files_iff`), and they are listed in the order of their paths, compared name by name
(`files_ordered`).
-/

namespace Storefront.FileTree

/-- A tree as it can stand in a file system. -/
inductive WellFormed : FileTree → Prop where
  | file (content : FileContent) : WellFormed (file content)
  | directory {entries : Table FileTree} (hsorted : entries.Sorted)
      (hnames : ∀ e ∈ entries, '/' ∉ e.1.toList) (hentries : ∀ e ∈ entries, WellFormed e.2) :
      WellFormed (directory entries)

variable {t u : FileTree} {entries : Table FileTree} {path : List String} {content : FileContent}

theorem mem_entryFiles : (path, content) ∈ entryFiles entries ↔
    ∃ e ∈ entries, ∃ rest, path = e.1 :: rest ∧ (rest, content) ∈ e.2.files := by
  induction entries with
  | nil =>
    rw [entryFiles]
    simp
  | cons e entries ih =>
    obtain ⟨name, t⟩ := e
    rw [entryFiles, List.mem_append, ih, List.mem_map, List.exists_mem_cons_iff]
    refine or_congr ?_ Iff.rfl
    constructor
    · rintro ⟨⟨rest, content'⟩, hmem, heq⟩
      cases heq
      exact ⟨rest, rfl, hmem⟩
    · rintro ⟨rest, rfl, hmem⟩
      exact ⟨(rest, content), hmem, rfl⟩

theorem mem_files_iff (h : t.WellFormed) :
    (path, content) ∈ t.files ↔ t.get? path = some (file content) := by
  induction h generalizing path with
  | file content' =>
    cases path with
    | nil =>
      rw [files, get?]
      simp [eq_comm]
    | cons name rest =>
      rw [files, get?]
      simp
  | @directory entries hsorted _ _ ih =>
    rw [files, mem_entryFiles]
    cases path with
    | nil =>
      rw [get?]
      simp
    | cons name rest =>
      rw [get?, Option.bind_eq_some_iff]
      constructor
      · rintro ⟨⟨name', u⟩, hmem, rest', heq, hfile⟩
        cases heq
        exact ⟨u, hsorted.mem_iff.1 hmem, (ih _ hmem).1 hfile⟩
      · rintro ⟨u, hu, hfile⟩
        have hmem := hsorted.mem_iff (e := (name, u)).2 hu
        exact ⟨(name, u), hmem, rest, rfl, (ih _ hmem).2 hfile⟩

theorem not_mem_slash (h : t.WellFormed) (hget : t.get? path = some u) :
    ∀ name ∈ path, '/' ∉ name.toList := by
  induction h generalizing path with
  | file content =>
    cases path with
    | nil => simp
    | cons name rest =>
      rw [get?] at hget
      cases hget
  | directory _ hnames _ ih =>
    cases path with
    | nil => simp
    | cons name rest =>
      rw [get?, Option.bind_eq_some_iff] at hget
      obtain ⟨u', hu', hrest⟩ := hget
      have hmem := Table.mem_of_get? hu'
      rw [List.forall_mem_cons]
      exact ⟨hnames _ hmem, ih _ hmem hrest⟩

theorem entryFiles_ordered (hsorted : entries.Sorted)
    (hfiles : ∀ e ∈ entries, e.2.files.Pairwise fun f g => f.1 < g.1) :
    (entryFiles entries).Pairwise fun f g => f.1 < g.1 := by
  induction entries with
  | nil =>
    rw [entryFiles]
    exact .nil
  | cons e entries ih =>
    obtain ⟨name, t⟩ := e
    obtain ⟨hfirst, hrest⟩ := List.pairwise_cons.1 hsorted
    rw [List.forall_mem_cons] at hfiles
    rw [entryFiles, List.pairwise_append, List.pairwise_map]
    refine ⟨?_, ih hrest hfiles.2, ?_⟩
    · exact hfiles.1.imp fun hlt => List.cons_lt_cons_iff.2 (.inr ⟨rfl, hlt⟩)
    · rintro f hf ⟨path, content⟩ hg
      obtain ⟨f', -, rfl⟩ := List.mem_map.1 hf
      obtain ⟨e, he, rest, rfl, -⟩ := mem_entryFiles.1 hg
      exact List.cons_lt_cons_iff.2 (.inl (hfirst e he))

theorem files_ordered (h : t.WellFormed) : t.files.Pairwise fun f g => f.1 < g.1 := by
  induction h with
  | file content =>
    rw [files]
    exact List.pairwise_singleton _ _
  | directory hsorted _ _ ih =>
    rw [files]
    exact entryFiles_ordered hsorted ih

end Storefront.FileTree
