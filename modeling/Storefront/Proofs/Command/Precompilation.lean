import Storefront.Proofs.Command.Loading
import Storefront.Proofs.Registry.Artifacts

/-!
# A bundle of all templates or none

Precompiling a directory fails if one of its sources cannot be compiled. It then reports the errors
of all such sources, in the order of their names, and leaves every file as it was. Otherwise the
bundle has the names of the templates, each with an artifact (`precompile_all_or_nothing`).
-/

namespace Storefront

open Artifact (isPrecompiled)

namespace Registry

variable {d : Dialect} {templates : Table String} {name key text : String} {e : EngineError}

/-- The name and the error of a source that cannot be compiled. -/
def failure? (d : Dialect) : String × String → Option (String × EngineError)
  | (name, text) =>
    match isPrecompiled text.toList, d.compile text with
    | false, .error e => some (name, e)
    | _, _ => none

/-- The sources that cannot be compiled, by name, each with its error. -/
def failures (d : Dialect) (templates : Table String) : Table EngineError :=
  templates.filterMap (failure? d)

/-- What is reported for a source that cannot be compiled. -/
def reported (f : String × EngineError) : Error :=
  .compile (some f.1) f.2.message

theorem failure?_eq_some_iff :
    failure? d (name, text) = some (key, e) ↔
      key = name ∧ isPrecompiled text.toList = false ∧ d.compile text = .error e := by
  rw [failure?]
  cases isPrecompiled text.toList with
  | true => simp
  | false =>
    cases d.compile text with
    | ok t => simp
    | error e' => simp [eq_comm]

theorem refusal?_eq (d : Dialect) (entry : String × String) :
    refusal? d entry = (failure? d entry).map reported := by
  obtain ⟨name, text⟩ := entry
  ext error
  rw [refusal?_eq_some_iff, Option.map_eq_some_iff]
  constructor
  · rintro ⟨hraw, e, he, rfl⟩
    exact ⟨(name, e), failure?_eq_some_iff.2 ⟨rfl, hraw, he⟩, rfl⟩
  · rintro ⟨⟨key, e⟩, hfailure, rfl⟩
    obtain ⟨rfl, hraw, he⟩ := failure?_eq_some_iff.1 hfailure
    exact ⟨hraw, e, he, rfl⟩

theorem failures_sorted (h : templates.Sorted) : (failures d templates).Sorted := by
  refine List.Pairwise.filterMap _ ?_ h
  rintro ⟨name, text⟩ ⟨name', text'⟩ hlt ⟨key, e⟩ hf ⟨key', e'⟩ hf'
  obtain ⟨rfl, -⟩ := failure?_eq_some_iff.1 hf
  obtain ⟨rfl, -⟩ := failure?_eq_some_iff.1 hf'
  exact hlt

theorem get?_failures_iff (h : templates.Sorted) :
    (failures d templates).get? name = some e ↔ ∃ source, templates.get? name = some source ∧
      isPrecompiled source.toList = false ∧ d.compile source = .error e := by
  rw [← (failures_sorted h).mem_iff (e := (name, e)), failures, List.mem_filterMap]
  constructor
  · rintro ⟨⟨key, source⟩, hmem, hfailure⟩
    obtain ⟨rfl, hsource⟩ := failure?_eq_some_iff.1 hfailure
    exact ⟨source, h.mem_iff.1 hmem, hsource⟩
  · rintro ⟨source, hget, hsource⟩
    exact ⟨(name, source), h.mem_iff.2 hget, failure?_eq_some_iff.2 ⟨rfl, hsource⟩⟩

theorem errors_preprocessAll_table (r : Registry H) (templates : Table String) :
    (r.preprocessAll templates).errors = (failures r.dialect templates).map reported := by
  have hrefusal : refusal? r.dialect = fun entry => (failure? r.dialect entry).map reported :=
    funext (refusal?_eq r.dialect)
  rw [errors_preprocessAll, hrefusal, failures, List.map_filterMap]

theorem isOk_preprocessAll_table (r : Registry H) (templates : Table String) :
    (r.preprocessAll templates).isOk = (failures r.dialect templates).isEmpty := by
  rw [Preprocessed.isOk, errors_preprocessAll_table, List.isEmpty_map]

end Registry

namespace Command

open FileTree (directory HasTexts WellFormed)
open Registry (failures reported)

variable {fs : FileSystem} {dir : String} {entries : Table FileTree} {templates : Table String}

/-- The message for sources that cannot be compiled: how many they are, and a line for each. -/
def report (failures : Table EngineError) : String :=
  "Failed to precompile " ++ toString failures.length ++ " template(s):\n  " ++
    "\n  ".intercalate (failures.map fun f => "Compile error in '" ++ f.1 ++ "': " ++ f.2.message)

theorem chain_precompilation (failures : Table EngineError) :
    (CommandError.precompilation (failures.map reported)).chain = [report failures] := by
  rw [CommandError.chain, List.length_map, List.map_map]
  rfl

section
variable (hget : fs.get dir = .ok (directory entries))
variable (htemplates : (directory entries).templates = .ok templates) (engine : Option String)
include hget htemplates

theorem buildBundle_error (hne : failures (.ofTag? engine) templates ≠ []) :
    buildBundle fs dir engine =
      .error (.precompilation ((failures (.ofTag? engine) templates).map reported)) := by
  have hok := Registry.isOk_preprocessAll_table (.empty Builtin (.ofTag? engine)) templates
  rw [Registry.empty, List.isEmpty_eq_false_iff.2 hne] at hok
  rw [buildBundle_eq hget htemplates, Registry.empty, hok, if_neg Bool.false_ne_true,
    Registry.errors_preprocessAll_table]

theorem buildBundle_ok (hnil : failures (.ofTag? engine) templates = []) :
    ∃ artifacts, buildBundle fs dir engine = .ok (Bundle.write artifacts) ∧
      Table.Sorted artifacts ∧ Table.keys artifacts = templates.keys ∧
      ∀ a ∈ artifacts, isPrecompiled a.2.toList := by
  have hsorted := FileTree.templates_sorted htemplates
  let r := Registry.empty Builtin (.ofTag? engine)
  have hok : (r.preprocessAll templates).isOk := by
    rw [Registry.isOk_preprocessAll_table]
    exact List.isEmpty_iff.2 hnil
  have hartifacts := Registry.preprocessAll_artifacts hsorted.nodup_keys hok
  have hsorted' := Registry.sorted_artifacts hartifacts hsorted
  refine ⟨_, ?_, hsorted', Registry.keys_artifacts hartifacts, r.isPrecompiled_artifacts templates⟩
  rw [buildBundle_eq hget htemplates, if_pos hok, Table.ofList_eq hsorted']

end

/-- Precompiling a directory of readable templates is all or nothing. The failures are the sources
that cannot be compiled, by name. If there are any, the command fails with a message that states how
many they are and has the error of each one, in the order of their names, and all files stay as they
are, the output included. If there are none, the bundle is a text that reads back as a table with
the names of the templates, in which every text carries the markers of an artifact: it is printed or
written to the output, and if it cannot be written then all files stay as they are. -/
theorem precompile_all_or_nothing (hget : fs.get dir = .ok (directory entries))
    (hwf : WellFormed (directory entries)) (htexts : HasTexts (directory entries))
    (engine : Option String) :
    ∃ templates failures, fs.loadDirectory dir = .ok templates ∧ Table.Sorted failures ∧
      (∀ name e, Table.get? failures name = some e ↔ ∃ source, templates.get? name = some source ∧
        isPrecompiled source.toList = false ∧ (Dialect.ofTag? engine).compile source = .error e) ∧
      (failures ≠ [] → ∀ output, ∃ e, e.chain = [report failures] ∧
        run fs (.precompile dir output engine) = (.error (.failed e), fs)) ∧
      (failures = [] → ∃ bundle artifacts, Bundle.read bundle = .ok artifacts ∧
        artifacts.keys = templates.keys ∧ (∀ a ∈ artifacts, isPrecompiled a.2.toList) ∧
        run fs (.precompile dir none engine) = (.ok (some bundle), fs) ∧
        ∀ output,
          (∀ fs', fs.writeText output bundle = .ok fs' → fs'.readText output = .ok bundle ∧
            run fs (.precompile dir (some output) engine) = (.ok none, fs')) ∧
          ∀ e, fs.writeText output bundle = .error e →
            run fs (.precompile dir (some output) engine) =
              (.error (.failed (.unwritableBundle output e)), fs)) := by
  obtain ⟨templates, htemplates⟩ := (FileTree.exists_templates_iff hwf).2 htexts
  have hsorted := FileTree.templates_sorted htemplates
  refine ⟨templates, failures (.ofTag? engine) templates, (loadDirectory_eq_ok hget).2 htemplates,
    Registry.failures_sorted hsorted, fun _ _ => Registry.get?_failures_iff hsorted, ?_, ?_⟩
  · intro hne output
    have hbuild := buildBundle_error hget htemplates engine hne
    exact ⟨_, chain_precompilation _, run_precompile_error hbuild output⟩
  · intro hnil
    obtain ⟨artifacts, hbuild, hsorted', hkeys, hmarked⟩ :=
      buildBundle_ok hget htemplates engine hnil
    have hread : Bundle.read (Bundle.write artifacts) = .ok artifacts := by
      have hread := Bundle.read_write hsorted' (w := []) .nil
      rwa [String.ofList_nil, String.append_empty] at hread
    refine ⟨_, artifacts, hread, hkeys, hmarked, run_precompile_print hbuild,
      fun output => ⟨?_, ?_⟩⟩
    · intro fs' hfile
      refine ⟨FileSystem.readText_writeText hfile, ?_⟩
      rw [run_precompile_write hbuild, hfile]
    · intro e hfile
      rw [run_precompile_write hbuild, hfile]

/-- A page that can be compiled between two that cannot. -/
theorem precompile_all_or_nothing_broken :
    let page := "\x7b\x7bx\x7d\x7d"
    let broken := "\x7b\x7b"
    let t := directory [("a.html", .file (.text broken)), ("b.html", .file (.text page)),
      ("c.html", .file (.text broken))]
    let fs : FileSystem := { root := directory [("t", t)] }
    fs.get "t" = .ok t ∧ WellFormed t ∧ HasTexts t ∧ ∃ failures : Table EngineError,
      failures.contains "a" ∧ failures.contains "b" = false ∧ failures.contains "c" ∧
        ∃ e, e.chain = [report failures] ∧
          run fs (.precompile "t" (some "out.json") (some "v4")) = (.error (.failed e), fs) := by
  intro page broken t fs
  have hget : fs.get "t" = .ok t := rfl
  have hwf : WellFormed t := by
    refine .directory (by decide) (by decide) ?_
    simp only [List.forall_mem_cons]
    exact ⟨.file _, .file _, .file _, nofun⟩
  have htexts : HasTexts t := by
    rw [FileTree.hasTexts_iff hwf]
    have hfiles : t.files = [(["a.html"], .text broken), (["b.html"], .text page),
        (["c.html"], .text broken)] := rfl
    rw [hfiles]
    simp only [List.forall_mem_cons]
    exact ⟨nofun, nofun, nofun, nofun⟩
  obtain ⟨templates, failures, hload, hsorted, hfailures, hfails, -⟩ :=
    precompile_all_or_nothing hget hwf htexts (some "v4")
  have hloaded : fs.loadDirectory "t" = .ok [("a", broken), ("b", page), ("c", broken)] := by
    decide +kernel
  obtain rfl := Except.ok.inj (hload.symm.trans hloaded)
  have herror : Dialect.v4.compile "\x7b\x7b" = .error (.compile .malformed) := rfl
  obtain ⟨template, hpage⟩ : ∃ t, Dialect.v4.compile page = .ok t :=
    Dialect.exists_of_isOk (by decide +kernel)
  have ha := (hfailures "a" _).2 ⟨broken, rfl, by decide, herror⟩
  have hc := (hfailures "c" _).2 ⟨broken, rfl, by decide, herror⟩
  have hb : Table.get? failures "b" = none := by
    rw [Option.eq_none_iff_forall_not_mem]
    intro e he
    obtain ⟨source, hsource, -, hcompile⟩ := (hfailures "b" e).1 he
    cases hsource
    rw [show Dialect.ofTag? (some "v4") = .v4 from rfl, hpage] at hcompile
    cases hcompile
  have hne : failures ≠ [] := by
    rintro rfl
    cases ha
  exact ⟨hget, hwf, htexts, failures, by rw [Table.contains, ha]; rfl,
    by rw [Table.contains, hb]; rfl, by rw [Table.contains, hc]; rfl, hfails hne (some "out.json")⟩

end Command

end Storefront
