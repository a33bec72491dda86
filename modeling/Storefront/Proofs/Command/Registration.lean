import Storefront.Proofs.Command.Bundle
import Storefront.Proofs.Registry.Agreement

/-!
# Which bundles can be registered

Sources that go into a bundle have been compiled, but a template with the markers of an artifact
goes into it as it is. So registering a bundle succeeds exactly if every template of its directory
that carries the markers restores, and otherwise fails at the first one that does not
(`registration_iff`).
-/

namespace Storefront

open Artifact (isPrecompiled)
open FileTree (directory)

/-- A text with the markers of an artifact restores to a template. -/
def Dialect.Restores (d : Dialect) (text : String) : Prop :=
  ∃ t, d.restore text = .ok (some t)

namespace Registry

variable {H : Type} {d : Dialect} {r : Registry H} {path text : String} {e : Error}
variable {entries : List (String × String)}

theorem exists_build_marked_iff (hmarked : isPrecompiled text.toList) :
    (∃ t, build d path text = .ok t) ↔ d.Restores text := by
  constructor
  · rintro ⟨t, ht⟩
    rcases (build_eq_ok_iff path).1 ht with hrestore | ⟨hrestore, -⟩
    · exact ⟨t, hrestore⟩
    · rw [Dialect.restore, if_pos hmarked] at hrestore
      split at hrestore <;> cases hrestore
  · rintro ⟨t, ht⟩
    exact ⟨t, build_of_restore path ht⟩

/-- A template that preprocessing does not refuse is built, unless it carries the markers of an
artifact and does not restore. -/
theorem exists_build_iff_of_kept (hkept : refusal? d (path, text) = none) :
    (∃ t, build d path text = .ok t) ↔ (isPrecompiled text.toList → d.Restores text) := by
  by_cases hmarked : isPrecompiled text.toList
  · rw [exists_build_marked_iff hmarked]
    exact ⟨fun h _ => h, fun h => h hmarked⟩
  · have hraw : isPrecompiled text.toList = false := Bool.not_eq_true _ ▸ hmarked
    obtain ⟨t, ht⟩ := (refusal?_raw_eq_none_iff hraw).1 hkept
    exact ⟨fun _ h => absurd h hmarked, fun _ => ⟨t, build_of_compile path hraw ht⟩⟩

section
variable (hempty : r.templates = []) (hkeys : (Table.keys entries).Nodup)
variable (hkept : ∀ entry ∈ entries, refusal? r.dialect entry = none)
include hempty hkeys hkept

theorem addMany_ok_iff_of_kept :
    (r.addMany entries).1 = .ok () ↔
      ∀ entry ∈ entries, isPrecompiled entry.2.toList → r.dialect.Restores entry.2 := by
  rw [addMany_eq_ok_iff]
  constructor
  · rintro h ⟨path, text⟩ hmem
    have hnew : r.isLoaded path = false := isLoaded_eq_false_iff.2 (by rw [hempty]; rfl)
    have hget := Table.get?_of_mem hkeys hmem
    exact (exists_build_iff_of_kept (hkept _ hmem)).1 (h path text hget hnew)
  · intro h path text hget _
    have hmem := Table.mem_of_get? hget
    exact (exists_build_iff_of_kept (hkept _ hmem)).2 (h _ hmem)

theorem addMany_error_iff_of_kept :
    (r.addMany entries).1 = .error e ↔ ∃ before path text after,
      entries = before ++ (path, text) :: after ∧ isPrecompiled text.toList ∧
        r.dialect.Rejects path text e ∧
        ∀ entry ∈ before, isPrecompiled entry.2.toList → r.dialect.Restores entry.2 := by
  -- what stands in front of an entry is registered if it restores
  have hbefore : ∀ before path text after, entries = before ++ (path, text) :: after →
      ((r.addMany before).1 = .ok () ↔
        ∀ entry ∈ before, isPrecompiled entry.2.toList → r.dialect.Restores entry.2) := by
    rintro before path text after rfl
    refine addMany_ok_iff_of_kept hempty ?_ fun entry hmem => hkept entry (by simp [hmem])
    rw [Table.keys, List.map_append] at hkeys
    exact (List.nodup_append.1 hkeys).1
  constructor
  · intro h
    obtain ⟨before, path, text, after, hsplit, hstops⟩ := exists_stopsAt h
    refine ⟨before, path, text, after, hsplit, ?_, hstops.rejects,
      (hbefore _ _ _ _ hsplit).1 hstops.reached⟩
    by_contra hmarked
    have hraw : isPrecompiled text.toList = false := Bool.not_eq_true _ ▸ hmarked
    obtain ⟨c, hc, -⟩ := (rejects_raw_iff hraw).1 hstops.rejects
    obtain ⟨t, ht⟩ := (refusal?_raw_eq_none_iff hraw).1 (hkept (path, text) (by simp [hsplit]))
    rw [ht] at hc
    cases hc
  · rintro ⟨before, path, text, after, hsplit, -, hrejects, hrestore⟩
    have hreached := (hbefore _ _ _ _ hsplit).2 hrestore
    have hunloaded : (r.addMany before).2.isLoaded path = false := by
      refine isLoaded_addMany (isLoaded_eq_false_iff.2 (by rw [hempty]; rfl)) ?_
      rintro ⟨q, other⟩ hmem rfl
      rw [hsplit, Table.keys, List.map_append, List.map_cons] at hkeys
      exact (List.nodup_append.1 hkeys).2.2 q (List.mem_map.2 ⟨_, hmem, rfl⟩) q
        List.mem_cons_self rfl
    have hstops : r.StopsAt before path text e := ⟨hreached, hunloaded, hrejects⟩
    rw [hsplit, hstops.addMany_eq after]

end

end Registry

namespace Renderer

variable {H : Type} {r : Renderer H} {templates : Table String}

theorem exists_addAll_iff :
    (∃ r', r.addAll templates = .ok r') ↔ (r.registry.addMany templates).1 = .ok () := by
  unfold addAll
  generalize r.registry.addMany templates = x
  obtain ⟨result, registry⟩ := x
  cases result with
  | ok => exact ⟨fun _ => rfl, fun _ => ⟨_, rfl⟩⟩
  | error e => exact ⟨nofun, nofun⟩

theorem addAll_eq_error_iff {e : Error} :
    r.addAll templates = .error e ↔ (r.registry.addMany templates).1 = .error e := by
  unfold addAll
  generalize r.registry.addMany templates = x
  obtain ⟨result, registry⟩ := x
  cases result with
  | ok => exact ⟨nofun, nofun⟩
  | error e' => simp

end Renderer

namespace Command

variable {fs fs' : FileSystem} {dir bundle tag : String}

/-- A bundle can be registered by a renderer without templates exactly if all templates of its
directory that carry the markers of an artifact restore. Otherwise the first one that does not
restore, in the order of the names, is where the registration fails and what its error is about. -/
theorem registration_iff {H : Type} (h : Stored fs dir bundle tag fs') :
    ∃ templates artifacts, fs.loadTemplates dir = .ok templates ∧
      fs'.loadTemplates bundle = .ok artifacts ∧
      ∀ r : Renderer H, r.registry.dialect = .ofTag tag → r.registry.templates = [] →
        ((∃ r', r.addAll artifacts = .ok r') ↔
          ∀ entry ∈ templates, isPrecompiled entry.2.toList →
            (Dialect.ofTag tag).Restores entry.2) ∧
        ∀ e, r.addAll artifacts = .error e ↔ ∃ before name text after,
          templates = before ++ (name, text) :: after ∧ isPrecompiled text.toList ∧
            (Dialect.ofTag tag).Rejects name text e ∧
            ∀ entry ∈ before, isPrecompiled entry.2.toList →
              (Dialect.ofTag tag).Restores entry.2 := by
  obtain ⟨entries, templates, artifacts, hget, htemplates, hkept, hartifacts, hbundle⟩ :=
    loadTemplates_bundle h
  have hkeys := (FileTree.templates_sorted htemplates).nodup_keys
  refine ⟨templates, artifacts, loadTemplates_directory hget htemplates, hbundle, ?_⟩
  intro r hdialect hempty
  rw [← hdialect] at hkept hartifacts ⊢
  rw [addAll_artifacts hartifacts]
  constructor
  · rw [Renderer.exists_addAll_iff]
    exact Registry.addMany_ok_iff_of_kept hempty hkeys hkept
  · intro e
    rw [Renderer.addAll_eq_error_iff]
    exact Registry.addMany_error_iff_of_kept hempty hkeys hkept

/-- A page and a file that is an artifact of the bundle's own dialect. -/
theorem registration_iff_artifact :
    let artifact := (Artifact.ofSource ⟨8, 7⟩ "!").toJson
    let files := directory [("page.html", .file (.text "\x7b\x7b> part\x7d\x7d")),
      ("part.html", .file (.text artifact))]
    let fs : FileSystem := { root := directory [("theme", files)] }
    let fs' := (run fs (.precompile "theme" (some "bundle.json") (some "v4"))).2
    Stored fs "theme" "bundle.json" "v4" fs' ∧
      ∃ artifacts r', fs'.loadTemplates "bundle.json" = .ok artifacts ∧
        (Renderer.new [] [] .v4).addAll artifacts = .ok r' := by
  intro artifact files fs fs'
  have hrun : (run fs (.precompile "theme" (some "bundle.json") (some "v4"))).1 = .ok none := by
    decide +kernel
  have hstored : Stored fs "theme" "bundle.json" "v4" fs' := .written (Prod.ext hrun rfl)
  have hload : fs.loadTemplates "theme" =
      .ok [("page", "\x7b\x7b> part\x7d\x7d"), ("part", artifact)] := by
    decide +kernel
  obtain ⟨templates, artifacts, htemplates, hartifacts, hregistered⟩ := registration_iff hstored
  rw [hload] at htemplates
  cases htemplates
  have hrestore : ∀ entry ∈ [("page", "\x7b\x7b> part\x7d\x7d"), ("part", artifact)],
      isPrecompiled entry.2.toList → Dialect.v4.Restores entry.2 := by
    intro entry hmem hmarked
    rcases List.mem_cons.1 hmem with rfl | hmem
    · exact absurd hmarked (by decide)
    · rw [List.mem_singleton.1 hmem]
      obtain ⟨t, ht⟩ : ∃ t, Dialect.v4.compile "!" = .ok t := ⟨_, rfl⟩
      exact ⟨t, Dialect.restore_ofSource ht⟩
  obtain ⟨r', hr'⟩ := (hregistered (Renderer.new [] [] .v4) rfl rfl).1.2 hrestore
  exact ⟨hstored, artifacts, r', hartifacts, hr'⟩

/-- A page with data for its scripts that looks like an artifact goes into a bundle, and the bundle
cannot be registered. -/
theorem not_registered_marked :
    let page := "<script>var data = \x7b\"compiler\": [\"x\"], \"main\": \"y\"\x7d</script>"
    let files := directory [("page.html", .file (.text page))]
    let fs : FileSystem := { root := directory [("theme", files)] }
    let fs' := (run fs (.precompile "theme" (some "bundle.json") (some "v4"))).2
    Stored fs "theme" "bundle.json" "v4" fs' ∧
      ∃ artifacts, fs'.loadTemplates "bundle.json" = .ok artifacts ∧
        (Renderer.new [] [] .v4).addAll artifacts =
          .error (.format (some "page") "expected value") := by
  intro page files fs fs'
  have hrun : (run fs (.precompile "theme" (some "bundle.json") (some "v4"))).1 = .ok none := by
    decide +kernel
  have hstored : Stored fs "theme" "bundle.json" "v4" fs' := .written (Prod.ext hrun rfl)
  have hload : fs.loadTemplates "theme" = .ok [("page", page)] := by decide +kernel
  obtain ⟨entries, templates, artifacts, hget, htemplates, -, hartifacts, hbundle⟩ :=
    loadTemplates_bundle hstored
  rw [loadTemplates_directory hget htemplates] at hload
  cases hload
  have hread : Artifact.ofJson page = .error .expectedValue := by decide
  have hrejects : Dialect.v4.Rejects "page" page (.format (some "page") "expected value") :=
    .unreadable (by decide) hread
  have hstops : (Renderer.new [] [] .v4).registry.StopsAt [] "page" page
      (.format (some "page") "expected value") := ⟨rfl, rfl, hrejects⟩
  have hadd : (Renderer.new [] [] .v4).addAll artifacts =
      (Renderer.new [] [] .v4).addAll [("page", page)] := addAll_artifacts hartifacts
  refine ⟨hstored, artifacts, hbundle, ?_⟩
  rw [hadd, Renderer.addAll_eq_error_iff]
  exact congrArg Prod.fst (hstops.addMany_eq [])

end Command

end Storefront
