import Storefront.Command.Basic
import Storefront.Proofs.Bundle
import Storefront.Proofs.FileSystem.Templates
import Storefront.Proofs.FileSystem.Write
import Storefront.Proofs.Registry.Preprocess
import Storefront.Proofs.Registry.Preprocessed

/-!
# A bundle stands for its directory

The bundle of a directory holds the templates of the directory under their names, each as it is or
as its artifact (`loadTemplates_stored`). So rendering a template of the bundle comes to the same as
rendering it from the directory, failures included (`render_stored`).
-/

namespace Storefront
open FileTree (directory)

/-- The same failure, with the templates named in another way. -/
def CommandError.withTemplates (templates : String) : CommandError → CommandError
  | registration _ e => registration templates e
  | e => e

namespace Command
open Json (Blanks)

variable {fs fs' : FileSystem} {dir bundle tag text : String} {engine : Option String}

/-- After `fs`, the file at `bundle` holds the bundle of the directory at `dir`: the command has
written it, or what the command prints has been written, with any white space behind it. -/
inductive Stored (fs : FileSystem) (dir bundle tag : String) : FileSystem → Prop where
  | written {fs' : FileSystem}
      (h : run fs (.precompile dir (some bundle) (some tag)) = (.ok none, fs')) :
      Stored fs dir bundle tag fs'
  | printed {fs' : FileSystem} {text : String} {w : List Char} (hw : Blanks w)
      (h : run fs (.precompile dir none (some tag)) = (.ok (some text), fs))
      (hfile : fs.writeText bundle (text ++ String.ofList w) = .ok fs') :
      Stored fs dir bundle tag fs'

theorem run_precompile_error {e : CommandError} (h : buildBundle fs dir engine = .error e)
    (output : Option String) :
    run fs (.precompile dir output engine) = (.error (.failed e), fs) := by
  simp only [run, h]

theorem run_precompile_print (h : buildBundle fs dir engine = .ok text) :
    run fs (.precompile dir none engine) = (.ok (some text), fs) := by
  simp only [run, h]

theorem run_precompile_write (h : buildBundle fs dir engine = .ok text) (path : String) :
    run fs (.precompile dir (some path) engine) = match fs.writeText path text with
      | .ok fs' => (.ok none, fs')
      | .error e => (.error (.failed (.unwritableBundle path e)), fs) := by
  cases hfile : fs.writeText path text <;> simp only [run, h, hfile]

theorem Stored.exists_text (h : Stored fs dir bundle tag fs') :
    ∃ text w, buildBundle fs dir (some tag) = .ok text ∧ Blanks w ∧
      fs.writeText bundle (text ++ String.ofList w) = .ok fs' := by
  cases hbuild : buildBundle fs dir (some tag) with
  | error e =>
    cases h with
    | written h =>
      rw [run_precompile_error hbuild] at h
      cases h
    | printed hw h hfile =>
      rw [run_precompile_error hbuild] at h
      cases h
  | ok text =>
    cases h with
    | written h =>
      rw [run_precompile_write hbuild] at h
      cases hfile : fs.writeText bundle text with
      | error e =>
        rw [hfile] at h
        cases h
      | ok fs'' =>
        rw [hfile] at h
        cases h
        exact ⟨text, [], rfl, .nil, by rw [String.ofList_nil, String.append_empty, hfile]⟩
    | printed hw h hfile =>
      rw [run_precompile_print hbuild] at h
      cases h
      exact ⟨text, _, rfl, hw, hfile⟩

/-! ### What is loaded -/

theorem isDirectory_iff : fs.isDirectory dir ↔ ∃ entries, fs.get dir = .ok (directory entries) := by
  unfold FileSystem.isDirectory
  constructor
  · intro h
    split at h
    · next entries hget => exact ⟨entries, hget⟩
    · cases h
  · rintro ⟨entries, hget⟩
    rw [hget]

theorem loadDirectory_eq_ok {templates : Table String} {t : FileTree} (hget : fs.get dir = .ok t) :
    fs.loadDirectory dir = .ok templates ↔ t.templates = .ok templates := by
  unfold FileSystem.loadDirectory
  rw [hget]
  dsimp only
  cases t.templates with
  | error e => exact ⟨nofun, nofun⟩
  | ok templates' =>
    exact ⟨fun h => congrArg _ (Except.ok.inj h), fun h => congrArg _ (Except.ok.inj h)⟩

/-- Once its templates are loaded, the bundle of a directory depends on them alone. -/
theorem buildBundle_eq {entries : List (String × FileTree)} {templates : Table String}
    (hget : fs.get dir = .ok (directory entries))
    (htemplates : (directory entries).templates = .ok templates) :
    let p := (Registry.empty Builtin (.ofTag? engine)).preprocessAll templates
    buildBundle fs dir engine = if p.isOk then .ok (Bundle.write (Table.ofList p.artifacts))
      else .error (.precompilation p.errors) := by
  unfold buildBundle
  rw [isDirectory_iff.2 ⟨entries, hget⟩, (loadDirectory_eq_ok hget).2 htemplates]
  rfl

/-- A bundle is made of the templates of a directory, each in its place, if none of them is
refused. -/
theorem buildBundle_cases (h : buildBundle fs dir engine = .ok text) :
    ∃ entries templates artifacts, fs.get dir = .ok (directory entries) ∧
      (directory entries).templates = .ok templates ∧
      (∀ entry ∈ templates, Registry.refusal? (.ofTag? engine) entry = none) ∧
      List.Forall₂ (EntryAsArtifact (.ofTag? engine)) templates artifacts ∧
      Table.Sorted artifacts ∧ text = Bundle.write artifacts := by
  have hbuild := h
  unfold buildBundle at h
  cases hdir : fs.isDirectory dir with
  | false =>
    rw [hdir] at h
    cases h
  | true =>
    obtain ⟨entries, hget⟩ := isDirectory_iff.1 hdir
    cases hload : fs.loadDirectory dir with
    | error e =>
      rw [hdir, hload] at h
      cases h
    | ok templates =>
      have htemplates := (loadDirectory_eq_ok hget).1 hload
      have hsorted := FileTree.templates_sorted htemplates
      rw [buildBundle_eq hget htemplates] at hbuild
      split at hbuild
      · next hok =>
        have hkept := Registry.isOk_preprocessAll_iff.1 hok
        have hartifacts := Registry.preprocessAll_artifacts hsorted.nodup_keys hok
        have hsorted' := Registry.sorted_artifacts hartifacts hsorted
        rw [Table.ofList_eq hsorted'] at hbuild
        cases hbuild
        exact ⟨entries, templates, _, hget, htemplates, hkept, hartifacts, hsorted', rfl⟩
      · cases hbuild

/-- What comes from the file of a bundle: the templates of the directory, each as it is or as its
artifact. -/
theorem loadTemplates_bundle (h : Stored fs dir bundle tag fs') :
    ∃ entries templates artifacts, fs.get dir = .ok (directory entries) ∧
      (directory entries).templates = .ok templates ∧
      (∀ entry ∈ templates, Registry.refusal? (.ofTag tag) entry = none) ∧
      List.Forall₂ (EntryAsArtifact (.ofTag tag)) templates artifacts ∧
      fs'.loadTemplates bundle = .ok artifacts := by
  obtain ⟨text, w, hbuild, hw, hfile⟩ := h.exists_text
  obtain ⟨entries, templates, artifacts, hget, htemplates, hkept, hartifacts, hsorted, rfl⟩ :=
    buildBundle_cases hbuild
  have hread := Bundle.read_write hsorted hw
  refine ⟨entries, templates, artifacts, hget, htemplates, hkept, hartifacts, ?_⟩
  rw [FileSystem.loadTemplates, FileSystem.isDirectory_writeText hfile, FileSystem.loadBundle,
    FileSystem.readText_writeText hfile]
  dsimp only [Except.mapError, bind, Except.bind]
  rw [hread]
  rfl

theorem loadTemplates_directory {entries : List (String × FileTree)} {templates : Table String}
    (hget : fs.get dir = .ok (directory entries))
    (htemplates : (directory entries).templates = .ok templates) :
    fs.loadTemplates dir = .ok templates := by
  rw [FileSystem.loadTemplates, if_pos (isDirectory_iff.2 ⟨entries, hget⟩)]
  exact (loadDirectory_eq_ok hget).2 htemplates

theorem loadTemplates_stored (h : Stored fs dir bundle tag fs') (hout : ¬fs'.IsUnder dir bundle) :
    ∃ templates artifacts, fs'.loadTemplates dir = .ok templates ∧
      fs'.loadTemplates bundle = .ok artifacts ∧
      List.Forall₂ (EntryAsArtifact (.ofTag tag)) templates artifacts := by
  obtain ⟨text, w, -, -, hfile⟩ := h.exists_text
  obtain ⟨entries, templates, artifacts, hget, htemplates, -, hartifacts, hbundle⟩ :=
    loadTemplates_bundle h
  have hget' := FileSystem.get_writeText hfile hout hget
  exact ⟨templates, artifacts, loadTemplates_directory hget' htemplates, hbundle, hartifacts⟩

/-! ### What is rendered -/

theorem renderer_dialect {o : RenderOptions} {r : Renderer Builtin} (hengine : o.engine = some tag)
    (h : o.renderer fs = .ok r) : r.registry.dialect = .ofTag tag := by
  unfold RenderOptions.renderer at h
  cases hpath : o.configuration with
  | none =>
    rw [hengine, hpath] at h
    cases h
    rfl
  | some path =>
    rw [hengine, hpath] at h
    dsimp only at h
    cases hload : fs.loadConfiguration path with
    | error e =>
      rw [hload] at h
      cases h
    | ok c =>
      rw [hload] at h
      cases h
      rfl

theorem addAll_artifacts {H : Type} {r : Renderer H} {templates artifacts : Table String}
    (h : List.Forall₂ (EntryAsArtifact r.registry.dialect) templates artifacts) :
    r.addAll artifacts = r.addAll templates := by
  rw [Renderer.addAll, Renderer.addAll, Registry.addMany_artifacts rfl h]

theorem withTemplates_loadConfiguration {path : String} {e : CommandError}
    (h : fs.loadConfiguration path = .error e) (templates : String) :
    e.withTemplates templates = e := by
  unfold FileSystem.loadConfiguration at h
  cases htext : fs.readText path with
  | error e' =>
    rw [htext] at h
    cases h
    rfl
  | ok text =>
    rw [htext] at h
    dsimp only [Except.mapError, bind, Except.bind] at h
    cases hread : Configuration.read text with
    | error e' =>
      rw [hread] at h
      cases h
      rfl
    | ok c =>
      rw [hread] at h
      cases h

theorem withTemplates_renderer {o : RenderOptions} {e : CommandError}
    (h : o.renderer fs = .error e) (templates : String) : e.withTemplates templates = e := by
  unfold RenderOptions.renderer at h
  cases hpath : o.configuration with
  | none =>
    rw [hpath] at h
    -- a renderer is made of every configuration, with or without a tag
    cases hengine : o.engine <;> rw [hengine] at h <;> cases h
  | some path =>
    rw [hpath] at h
    dsimp only at h
    cases hload : fs.loadConfiguration path with
    | error e' =>
      rw [hload] at h
      cases h
      exact withTemplates_loadConfiguration hload templates
    | ok c =>
      rw [hload] at h
      cases hengine : o.engine <;> rw [hengine] at h <;> cases h

theorem withTemplates_readContext {o : RenderOptions} {e : CommandError}
    (h : o.readContext fs = .error e) (templates : String) : e.withTemplates templates = e := by
  unfold RenderOptions.readContext at h
  cases hpath : o.context with
  | none =>
    rw [hpath] at h
    cases h
  | some path =>
    rw [hpath] at h
    dsimp only [FileSystem.loadContext] at h
    cases htext : fs.readText path with
    | error e' =>
      rw [htext] at h
      cases h
      rfl
    | ok text =>
      rw [htext] at h
      dsimp only [Except.mapError, bind, Except.bind] at h
      cases hread : Json.Value.read text with
      | error e' =>
        rw [hread] at h
        cases h
        rfl
      | ok v =>
        rw [hread] at h
        cases v <;> cases h <;> rfl

theorem renderPath_stored (h : Stored fs dir bundle tag fs') (hout : ¬fs'.IsUnder dir bundle)
    (path : String) {o : RenderOptions} (hengine : o.engine = some tag) :
    renderPath fs' path bundle o =
      (renderPath fs' path dir o).mapError (.map (.withTemplates bundle)) := by
  obtain ⟨templates, artifacts, hdir, hbundle, hartifacts⟩ := loadTemplates_stored h hout
  unfold renderPath
  cases hr : o.renderer fs' with
  | error e => exact congrArg (Except.error ∘ Halt.failed) (withTemplates_renderer hr bundle).symm
  | ok r =>
    cases hc : o.readContext fs' with
    | error e =>
      exact congrArg (Except.error ∘ Halt.failed) (withTemplates_readContext hc bundle).symm
    | ok context =>
      -- from here on the two commands do the same
      have hadd : r.addAll artifacts = r.addAll templates :=
        addAll_artifacts ((renderer_dialect hengine hr).symm ▸ hartifacts)
      rw [hdir, hbundle]
      simp only [Halt.liftM_ok, bind, Except.bind, hadd]
      cases r.addAll templates with
      | error e => rfl
      | ok r' =>
        show Except.mapError _ _ = Except.mapError _ (Except.mapError _ _)
        cases (r'.render path context).1 with
        | ok text => rfl
        | error e => cases e <;> rfl

/-- Rendering a template of a bundle outside of its directory gives the text that rendering it from
the directory gives, or fails as that fails; only the templates may be named in another way. -/
theorem render_stored (h : Stored fs dir bundle tag fs') (hout : ¬fs'.IsUnder dir bundle)
    (path : String) (o : RenderOptions) :
    run fs' (.render path bundle { o with engine := some tag }) =
      ((run fs' (.render path dir { o with engine := some tag })).1.mapError
        (.map (.withTemplates bundle)), fs') := by
  rw [run, run, renderPath_stored h hout path rfl]
  cases renderPath fs' path dir { o with engine := some tag } <;> rfl

/-- A page that calls a part, and a file that is an artifact already; the bundle is written beside
their directory. From either the page gives the text of the part. -/
theorem render_stored_page :
    let artifact := (Artifact.ofSource ⟨8, 7⟩ "!").toJson
    let files := directory [("page.html", .file (.text "\x7b\x7bx\x7d\x7d\x7b\x7b> part\x7d\x7d")),
      ("part.html", .file (.text artifact))]
    let fs : FileSystem := { root := directory [("theme", files)] }
    let fs' := (run fs (.precompile "theme" (some "bundle.json") (some "v4"))).2
    let rendered (templates : String) := run fs' (.render "page" templates { engine := some "v4" })
    ((rendered "theme").1 = .ok (some "!") ∧ (rendered "bundle.json").1 = .ok (some "!")) ∧
    rendered "bundle.json" =
      ((rendered "theme").1.mapError (.map (.withTemplates "bundle.json")), fs') := by
  intro artifact files fs fs' rendered
  have hrun : (run fs (.precompile "theme" (some "bundle.json") (some "v4"))).1 = .ok none := by
    decide +kernel
  have hstored : Stored fs "theme" "bundle.json" "v4" fs' := .written (Prod.ext hrun rfl)
  have hdir : fs'.place "theme" = .ok ["theme"] := by decide +kernel
  have hbundle : fs'.place "bundle.json" = .ok ["bundle.json"] := by decide +kernel
  have hout : ¬fs'.IsUnder "theme" "bundle.json" := by
    rintro ⟨p, q, hp, hq, hpre⟩
    rw [hdir] at hp
    rw [hbundle] at hq
    cases hp
    cases hq
    exact absurd hpre (by decide)
  have htheme : (rendered "theme").1 = .ok (some "!") := by decide +kernel
  have hrendered : rendered "bundle.json" =
      ((rendered "theme").1.mapError (.map (.withTemplates "bundle.json")), fs') :=
    render_stored hstored hout "page" {}
  refine ⟨⟨htheme, ?_⟩, hrendered⟩
  rw [hrendered, htheme]
  rfl

end Command

end Storefront
