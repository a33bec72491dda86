import Storefront.Proofs.Command.Bundle
import Storefront.Proofs.FileSystem.TemplateNames

/-!
# What is loaded from a directory

Loading a directory reads every template file at any depth and nothing else. No file fails to be
read that is not a template file without text (`exists_templates_iff`), and each of them is found
under its name, except that the file whose stem is a single dot takes the name of the one whose stem
is two dots (`get?_templates_iff`).
-/

namespace Storefront

namespace FileTree

variable {t : FileTree} {templates : Table String} {key text : String}
variable {file : List String × FileContent}

/-- All template files of the tree hold texts. -/
def HasTexts (t : FileTree) : Prop :=
  ∀ f content, t.Holds f content → ∃ text, content = .text text

theorem entryOf?_eq_some_iff :
    entryOf? file = some (key, text) ↔
      ∃ f : TemplateFile, file = (f.path, .text text) ∧ f.stem ≠ "" ∧ f.loadedName = key := by
  obtain ⟨path, content⟩ := file
  unfold entryOf?
  dsimp only
  constructor
  · intro h
    split at h
    · next name s hname =>
      cases h
      obtain ⟨f, rfl, hstem, rfl⟩ := templateName?_eq_some_iff.1 hname
      exact ⟨f, rfl, hstem, rfl⟩
    · cases h
  · rintro ⟨f, heq, hstem, rfl⟩
    cases heq
    rw [templateName?_eq_some_iff.2 ⟨f, rfl, hstem, rfl⟩]

theorem hasTexts_iff (hwf : t.WellFormed) : t.HasTexts ↔ ∀ file ∈ t.files, ¬IsUnreadable file := by
  constructor
  · rintro htexts ⟨path, content⟩ hmem ⟨name, bytes, hname, rfl⟩
    obtain ⟨f, rfl, hstem, -⟩ := templateName?_eq_some_iff.1 hname
    obtain ⟨text, htext⟩ := htexts f _ ⟨hstem, (mem_files_iff hwf).1 hmem⟩
    cases htext
  · intro hreadable f content hf
    cases content with
    | text s => exact ⟨s, rfl⟩
    | binary bytes =>
      have hname := templateName?_eq_some_iff.2 ⟨f, rfl, hf.1, rfl⟩
      exact absurd ⟨_, bytes, hname, rfl⟩ (hreadable _ ((mem_files_iff hwf).2 hf.2))

theorem exists_templates_iff (hwf : t.WellFormed) :
    (∃ templates, t.templates = .ok templates) ↔ t.HasTexts := by
  rw [hasTexts_iff hwf]
  exact ⟨fun ⟨_, h⟩ => (templates_eq_ok_iff.1 h).1, fun h => ⟨_, templates_eq_ok_iff.2 ⟨h, rfl⟩⟩⟩

theorem get?_templates_iff (hwf : t.WellFormed) (h : t.templates = .ok templates) :
    templates.get? key = some text ↔ ∃ f, t.Holds f (.text text) ∧ f.loadedName = key ∧
      ∀ g other, t.Holds g (.text other) → g.loadedName = key → g = f ∨ g.path < f.path := by
  rw [(templates_eq_ok_iff.1 h).2,
    Table.get?_ofList_filterMap_iff (fun _ _ hlt => List.lt_asymm hlt) (files_ordered hwf)]
  constructor
  · rintro ⟨file, hmem, hentry, hlast⟩
    obtain ⟨f, rfl, hstem, rfl⟩ := entryOf?_eq_some_iff.1 hentry
    refine ⟨f, ⟨hstem, (mem_files_iff hwf).1 hmem⟩, rfl, ?_⟩
    intro g other hg hname
    have hentry : entryOf? (g.path, .text other) = some (f.loadedName, other) :=
      entryOf?_eq_some_iff.2 ⟨g, rfl, hg.1, hname⟩
    rcases hlast _ ((mem_files_iff hwf).2 hg.2) other hentry with heq | hlt
    · exact .inl (path_inj (congrArg Prod.fst heq))
    · exact .inr hlt
  · rintro ⟨f, hf, rfl, hlast⟩
    refine ⟨(f.path, .text text), (mem_files_iff hwf).2 hf.2,
      entryOf?_eq_some_iff.2 ⟨f, rfl, hf.1, rfl⟩, ?_⟩
    intro file hmem other hentry
    obtain ⟨g, rfl, hstem, hname⟩ := entryOf?_eq_some_iff.1 hentry
    have hg : t.Holds g (.text other) := ⟨hstem, (mem_files_iff hwf).1 hmem⟩
    rcases hlast g other hg hname with rfl | hlt
    · have hcontent := hf.2.symm.trans hg.2
      cases hcontent
      exact .inl rfl
    · exact .inr hlt

theorem eq_of_name_eq (hwf : t.WellFormed) {f g : TemplateFile} {a b : FileContent}
    (hf : t.Holds f a) (hg : t.Holds g b) (hfstem : f.stem ≠ ".") (hgstem : g.stem ≠ ".")
    (h : f.name = g.name) : f = g := by
  rw [← loadedName_eq_name hfstem, ← loadedName_eq_name hgstem, loadedName_eq_iff hwf hf hg] at h
  rcases h with rfl | ⟨-, ⟨hdot, -⟩ | ⟨-, hdot⟩⟩
  · rfl
  · exact absurd hdot hfstem
  · exact absurd hdot hgstem

theorem get?_templates_iff_name (hwf : t.WellFormed) (h : t.templates = .ok templates)
    (hstems : ∀ f content, t.Holds f content → f.stem ≠ ".") :
    templates.get? key = some text ↔ ∃ f, t.Holds f (.text text) ∧ f.name = key := by
  rw [get?_templates_iff hwf h]
  constructor
  · rintro ⟨f, hf, rfl, -⟩
    exact ⟨f, hf, (loadedName_eq_name (hstems f _ hf)).symm⟩
  · rintro ⟨f, hf, rfl⟩
    refine ⟨f, hf, loadedName_eq_name (hstems f _ hf), fun g other hg hname => .inl ?_⟩
    rw [loadedName_eq_name (hstems g _ hg)] at hname
    exact eq_of_name_eq hwf hg hf (hstems g _ hg) (hstems f _ hf) hname

end FileTree

namespace FileSystem

open FileTree (directory HasTexts Holds WellFormed)

variable {fs : FileSystem} {dir : String} {entries : Table FileTree}

/-- Loading a directory in which every template file holds a text never fails. It gives a table with
an entry for every template file at any depth and for nothing else. The name of an entry is the path
of its file without the extension, with two dots in place of a stem that is a single dot; so two
files have one name exactly if they stand in one directory with the stems `.` and `..`, and then the
one with the stem `.`, which comes later, is the one that counts. If no stem is a single dot, then
every file has an entry of its own, under its path without the extension. -/
theorem loadDirectory_files (hget : fs.get dir = .ok (directory entries))
    (hwf : WellFormed (directory entries)) (htexts : HasTexts (directory entries)) :
    let t := directory entries
    ∃ templates, fs.loadDirectory dir = .ok templates ∧ templates.Sorted ∧
      (∀ key text, templates.get? key = some text ↔ ∃ f, t.Holds f (.text text) ∧
        f.loadedName = key ∧
          ∀ g other, t.Holds g (.text other) → g.loadedName = key → g = f ∨ g.path < f.path) ∧
      (∀ f g a b, t.Holds f a → t.Holds g b → (f.loadedName = g.loadedName ↔
        f = g ∨ f.directories = g.directories ∧
          (f.stem = "." ∧ g.stem = ".." ∨ f.stem = ".." ∧ g.stem = "."))) ∧
      (∀ f : TemplateFile, f.stem ≠ "." → f.loadedName = f.name) ∧
      ((∀ f a, t.Holds f a → f.stem ≠ ".") →
        (∀ key text, templates.get? key = some text ↔
          ∃ f, t.Holds f (.text text) ∧ f.name = key) ∧
        ∀ f g a b, t.Holds f a → t.Holds g b → f.name = g.name → f = g) := by
  intro t
  obtain ⟨templates, htemplates⟩ := (FileTree.exists_templates_iff hwf).2 htexts
  refine ⟨templates, (Command.loadDirectory_eq_ok hget).2 htemplates,
    FileTree.templates_sorted htemplates, fun _ _ => FileTree.get?_templates_iff hwf htemplates,
    fun f g a b hf hg => FileTree.loadedName_eq_iff hwf hf hg,
    fun f hf => FileTree.loadedName_eq_name hf, fun hstems => ⟨?_, ?_⟩⟩
  · exact fun _ _ => FileTree.get?_templates_iff_name hwf htemplates hstems
  · intro f g a b hf hg hname
    exact FileTree.eq_of_name_eq hwf hf hg (hstems f a hf) (hstems g b hg) hname

/-- A template in a directory that is called like one, a stem with a dot in it, and a file without
text that is no template. -/
theorem loadDirectory_files_nested :
    let nested := directory [("x.y.html", .file (.text "X"))]
    let t := directory [("a.html", nested), ("b.html", .file (.text "B")),
      ("c.txt", .file (.binary ⟨#[255]⟩))]
    let fs : FileSystem := { root := directory [("t", t)] }
    fs.get "t" = .ok t ∧ WellFormed t ∧ HasTexts t ∧
      ∃ templates, fs.loadDirectory "t" = .ok templates ∧
        templates = [("a.html/x.y", "X"), ("b", "B")] ∧
        ∀ key text, templates.get? key = some text ↔
          ∃ f, t.Holds f (.text text) ∧ f.name = key := by
  intro nested t fs
  have hget : fs.get "t" = .ok t := rfl
  have hnested : WellFormed nested :=
    .directory (by decide) (by decide) (List.forall_mem_singleton.2 (.file _))
  have hwf : WellFormed t := by
    refine .directory (by decide) (by decide) ?_
    simp only [List.forall_mem_cons]
    exact ⟨hnested, .file _, .file _, nofun⟩
  have hfiles : t.files = [(["a.html", "x.y.html"], .text "X"), (["b.html"], .text "B"),
      (["c.txt"], .binary ⟨#[255]⟩)] := rfl
  have htexts : HasTexts t := by
    rw [FileTree.hasTexts_iff hwf, hfiles]
    simp only [List.forall_mem_cons]
    refine ⟨nofun, nofun, ?_, nofun⟩
    rintro ⟨name, bytes, hname, -⟩
    have hnone : FileTree.templateName? ["c.txt"] = none := by decide
    rw [hnone] at hname
    cases hname
  have hstems : ∀ f a, t.Holds f a → f.stem ≠ "." := by
    intro f a hf hdot
    have hmem := (FileTree.mem_files_iff hwf).2 hf.2
    have hlast : f.path.getLast? = some "..html" := by
      rw [TemplateFile.path, List.getLast?_concat, hdot]
      rfl
    rw [hfiles] at hmem
    have hnone : ∀ path ∈ [["a.html", "x.y.html"], ["b.html"], ["c.txt"]],
        path.getLast? ≠ some "..html" := by decide
    exact hnone f.path (List.mem_map_of_mem (f := Prod.fst) hmem) hlast
  obtain ⟨templates, hload, -, -, -, -, hnames⟩ := loadDirectory_files hget hwf htexts
  have hloaded : fs.loadDirectory "t" = .ok [("a.html/x.y", "X"), ("b", "B")] := by
    decide +kernel
  have heq := Except.ok.inj (hload.symm.trans hloaded)
  exact ⟨hget, hwf, htexts, templates, hload, heq, (hnames hstems).1⟩

/-- Of two files only one is loaded, and not under its path without the extension. -/
theorem loadDirectory_merges :
    let t := directory [("...html", .file (.text "one")), ("..html", .file (.text "two"))]
    let fs : FileSystem := { root := directory [("t", t)] }
    let f : TemplateFile := ⟨[], ".."⟩
    let g : TemplateFile := ⟨[], "."⟩
    fs.get "t" = .ok t ∧ WellFormed t ∧ t.Holds f (.text "one") ∧ t.Holds g (.text "two") ∧ f ≠ g ∧
      g.name = "." ∧ fs.loadDirectory "t" = .ok [("..", "two")] := by
  intro t fs f g
  have hwf : WellFormed t := by
    refine .directory (by decide) (by decide) ?_
    simp only [List.forall_mem_cons]
    exact ⟨.file _, .file _, nofun⟩
  refine ⟨rfl, hwf, ⟨by decide, rfl⟩, ⟨by decide, rfl⟩, ?_, by decide, by decide +kernel⟩
  intro h
  exact absurd (congrArg TemplateFile.stem h) (by decide)

end FileSystem

end Storefront
