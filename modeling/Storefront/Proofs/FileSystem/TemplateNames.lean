import Storefront.Proofs.FileSystem.Files
import Storefront.Proofs.FileSystem.Templates

/-!
# The names of template files

A template file is given by the directories that lead to it and its name without the extension, its
stem. Its template is named by the directories and the stem, unless the stem is a single dot: then
two dots take its place (`templateName?_eq_some_iff`). So two files of one tree have templates of
one name only if they stand in one directory and their stems are one dot and two dots
(`loadedName_eq_iff`).
-/

namespace Storefront

/-- A template file: the directories that lead to it, and its name without the extension. -/
structure TemplateFile where
  directories : List String
  stem : String

namespace TemplateFile

/-- The names that lead to the file. -/
def path (f : TemplateFile) : List String :=
  f.directories ++ [f.stem ++ ".html"]

/-- The path of the file with slashes between its names, and without the extension. -/
def name (f : TemplateFile) : String :=
  "/".intercalate (f.directories ++ [f.stem])

/-- What stands for a stem in the name of a template. -/
def keptStem (stem : String) : String :=
  if stem = "." then ".." else stem

/-- The name of the file's template. -/
def loadedName (f : TemplateFile) : String :=
  "/".intercalate (f.directories ++ [keptStem f.stem])

end TemplateFile

namespace FileTree

open TemplateFile (keptStem)

variable {t : FileTree} {path : List String} {name key stem text : String}
variable {f g : TemplateFile} {content content' : FileContent}

/-- The tree has a template file with this content. Something has to stand in front of the
extension. -/
def Holds (t : FileTree) (f : TemplateFile) (content : FileContent) : Prop :=
  f.stem ≠ "" ∧ t.get? f.path = some (.file content)

/-! ### Stems and names -/

theorem stem?_eq_some_iff :
    stem? name = some key ↔ ∃ stem, name = stem ++ ".html" ∧ stem ≠ "" ∧ key = keptStem stem := by
  have hextension : ".html".toList = templateExtension := by decide
  have hdot (cs : List Char) : String.ofList cs = "." ↔ cs = ['.'] := by
    rw [← String.toList_inj, String.toList_ofList]
    exact Iff.rfl
  unfold stem? keptStem
  dsimp only
  constructor
  · intro h
    split at h
    · next hname =>
      obtain ⟨hsuffix, hne⟩ := hname
      obtain ⟨cs, hcs⟩ := List.isSuffixOf_iff_suffix.1 hsuffix
      have htake : name.toList.take (name.toList.length - templateExtension.length) = cs := by
        rw [← hcs, List.length_append, Nat.add_sub_cancel, List.take_left]
      rw [htake] at h hne
      refine ⟨String.ofList cs, ?_, ?_, ?_⟩
      · rw [← String.toList_inj, String.toList_append, String.toList_ofList, hextension, hcs]
      · rwa [Ne, String.ofList_eq_empty_iff]
      · simp only [hdot]
        exact (Option.some.inj h).symm
    · cases h
  · rintro ⟨stem, rfl, hne, rfl⟩
    have htake : (stem ++ ".html").toList.take
        ((stem ++ ".html").toList.length - templateExtension.length) = stem.toList := by
      rw [String.toList_append, hextension, List.length_append, Nat.add_sub_cancel, List.take_left]
    have hsuffix : templateExtension.isSuffixOf (stem ++ ".html").toList := by
      rw [List.isSuffixOf_iff_suffix, String.toList_append, hextension]
      exact List.suffix_append _ _
    have hchars : stem.toList ≠ [] := by rwa [Ne, String.toList_eq_nil_iff]
    rw [htake, if_pos ⟨hsuffix, hchars⟩, String.ofList_toList]
    simp only [← hdot, String.ofList_toList]

theorem templateName?_eq_some_iff :
    templateName? path = some key ↔ ∃ f : TemplateFile, path = f.path ∧ f.stem ≠ "" ∧
      key = f.loadedName := by
  unfold templateName?
  rw [Option.map_eq_some_iff]
  constructor
  · rintro ⟨kept, hkept, rfl⟩
    obtain ⟨last, hlast, hstem⟩ := Option.bind_eq_some_iff.1 hkept
    obtain ⟨directories, rfl⟩ := List.getLast?_eq_some_iff.1 hlast
    obtain ⟨stem, rfl, hne, rfl⟩ := stem?_eq_some_iff.1 hstem
    rw [List.dropLast_concat]
    exact ⟨⟨directories, stem⟩, rfl, hne, rfl⟩
  · rintro ⟨⟨directories, stem⟩, rfl, hne, rfl⟩
    refine ⟨keptStem stem, ?_, ?_⟩
    · rw [TemplateFile.path, List.getLast?_concat, Option.bind_some, stem?_eq_some_iff]
      exact ⟨stem, rfl, hne, rfl⟩
    · rw [TemplateFile.path, List.dropLast_concat, TemplateFile.loadedName]

/-! ### Files of one name -/

theorem path_inj (h : f.path = g.path) : f = g := by
  obtain ⟨hdirectories, hlast⟩ := List.append_inj' h rfl
  obtain ⟨directories, stem⟩ := f
  obtain ⟨directories', stem'⟩ := g
  have hstem : stem ++ ".html" = stem' ++ ".html" := List.singleton_inj.1 hlast
  rw [String.append_left_inj] at hstem
  subst hstem
  subst hdirectories
  rfl

theorem intercalate_slash_inj {names names' : List String} (hne : names ≠ []) (hne' : names' ≠ [])
    (hnames : ∀ name ∈ names, '/' ∉ name.toList) (hnames' : ∀ name ∈ names', '/' ∉ name.toList)
    (h : "/".intercalate names = "/".intercalate names') : names = names' := by
  have hsplit {xs : List String} (hxs : xs ≠ []) (hslash : ∀ x ∈ xs, '/' ∉ x.toList) :
      ("/".intercalate xs).toList.splitOn '/' = xs.map String.toList := by
    have hsep : "/".toList = ['/'] := by decide
    rw [String.toList_intercalate, hsep]
    exact List.splitOn_intercalate '/' (by simpa using hslash) (by simpa using hxs)
  have hchars : names.map String.toList = names'.map String.toList := by
    rw [← hsplit hne hnames, ← hsplit hne' hnames', h]
  exact List.map_injective_iff.2 (fun _ _ => String.toList_inj.1) hchars

theorem keptStem_eq_iff {stem stem' : String} :
    keptStem stem = keptStem stem' ↔
      stem = stem' ∨ stem = "." ∧ stem' = ".." ∨ stem = ".." ∧ stem' = "." := by
  unfold keptStem
  have hdots : ".." ≠ "." := by decide
  by_cases h : stem = "."
  · by_cases h' : stem' = "."
    · simp [h, h']
    · simp [h, h', eq_comm]
  · by_cases h' : stem' = "."
    · simp [h, h']
    · simp [h, h']

theorem Holds.not_mem_slash (hwf : t.WellFormed) (h : t.Holds f content) :
    ∀ name ∈ f.directories ++ [keptStem f.stem], '/' ∉ name.toList := by
  have hpath := FileTree.not_mem_slash hwf h.2
  rw [TemplateFile.path, List.forall_mem_append, List.forall_mem_singleton, String.toList_append,
    List.mem_append, not_or] at hpath
  rw [List.forall_mem_append, List.forall_mem_singleton]
  refine ⟨hpath.1, ?_⟩
  unfold keptStem
  split
  · decide
  · exact hpath.2.1

/-- Two template files have templates of one name only if they are the two files of one directory
whose stems are one dot and two dots. -/
theorem loadedName_eq_iff (hwf : t.WellFormed) (hf : t.Holds f content) (hg : t.Holds g content') :
    f.loadedName = g.loadedName ↔ f = g ∨ f.directories = g.directories ∧
      (f.stem = "." ∧ g.stem = ".." ∨ f.stem = ".." ∧ g.stem = ".") := by
  obtain ⟨directories, stem⟩ := f
  obtain ⟨directories', stem'⟩ := g
  constructor
  · intro h
    have hnames := intercalate_slash_inj (by simp) (by simp) (hf.not_mem_slash hwf)
      (hg.not_mem_slash hwf) h
    obtain ⟨rfl, hkept⟩ := List.append_inj' hnames rfl
    rcases keptStem_eq_iff.1 (List.singleton_inj.1 hkept) with rfl | hdots
    · exact .inl rfl
    · exact .inr ⟨rfl, hdots⟩
  · rintro (h | ⟨rfl, hdots⟩)
    · rw [h]
    · unfold TemplateFile.loadedName
      rw [keptStem_eq_iff.2 (.inr hdots)]

theorem loadedName_eq_name (h : f.stem ≠ ".") : f.loadedName = f.name := by
  rw [TemplateFile.loadedName, keptStem, if_neg h, TemplateFile.name]

end FileTree

end Storefront
