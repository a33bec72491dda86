import Storefront.Proofs.Session.Run
import Storefront.Proofs.Registry.Restore
import Mathlib.Data.List.Forall2

/-!
# Artifacts in place of sources

Registering the artifact of a source comes to the same as registering the source, so in a session
any of the sources that are added may be replaced by their artifacts: every answer, and the whole
renderer after the session, stay what they were (`session_artifacts`).
-/

namespace Storefront
open Artifact (isPrecompiled)

/-- An entry and the same entry, or the entry with the artifact that the dialect makes of its
source. Only sources that compile and are not taken for artifacts have one. -/
inductive EntryAsArtifact (d : Dialect) : String × String → String × String → Prop where
  | same (entry : String × String) : EntryAsArtifact d entry entry
  | artifact {path source text : String} {t : Template} (raw : isPrecompiled source.toList = false)
      (compiles : d.compile source = .ok t) (precompiles : d.precompile source = .ok text) :
      EntryAsArtifact d (path, source) (path, text)

/-- A step and the same step, or an addition with artifacts in place of some of its sources. -/
inductive StepWithArtifacts {H : Type} (d : Dialect) : Step H → Step H → Prop where
  | same (s : Step H) : StepWithArtifacts d s s
  | add {entries entries' : List (String × String)}
      (h : List.Forall₂ (EntryAsArtifact d) entries entries') :
      StepWithArtifacts d (.add entries) (.add entries')

variable {d : Dialect}

namespace Registry

theorem add_artifact {H : Type} {r : Registry H} {entry entry' : String × String}
    (h : EntryAsArtifact r.dialect entry entry') :
    r.add entry'.1 entry'.2 = r.add entry.1 entry.2 := by
  cases h with
  | same => rfl
  | artifact raw compiles precompiles =>
    rw [add, add, build_precompiled _ raw compiles precompiles]

theorem addMany_artifacts {H : Type} {r : Registry H} (hd : r.dialect = d)
    {entries entries' : List (String × String)}
    (h : List.Forall₂ (EntryAsArtifact d) entries entries') :
    r.addMany entries' = r.addMany entries := by
  induction h generalizing r with
  | nil => rfl
  | @cons entry entry' rest rest' hentry hrest ih =>
    have hadd := add_artifact (r := r) (hd ▸ hentry)
    cases hres : r.add entry.1 entry.2 with
    | error e =>
      rw [addMany_cons_error (hadd.trans hres), addMany_cons_error hres]
    | ok res =>
      obtain ⟨b, r'⟩ := res
      rw [addMany_cons_ok (hadd.trans hres), addMany_cons_ok hres]
      exact ih ((add_dialect hres).trans hd)

end Registry

namespace Renderer

variable {H : Type} [Registrable H]

theorem step_artifacts {r : Renderer H} {s s' : Step H} (hd : r.registry.dialect = d)
    (h : StepWithArtifacts d s s') : r.step s' = r.step s := by
  cases h with
  | same => rfl
  | add h => simp only [step, Registry.addMany_artifacts hd h]

/-- A session with artifacts in place of some of the sources it adds has the same answers and
leaves the same renderer, its store included. -/
theorem session_artifacts {r : Renderer H} (hd : r.registry.dialect = d)
    {steps steps' : List (Step H)} (h : List.Forall₂ (StepWithArtifacts d) steps steps') :
    r.session steps' = r.session steps := by
  induction h generalizing r with
  | nil => rfl
  | cons hs _ ih =>
    rw [session_cons, session_cons, step_artifacts hd hs, ih ((step_dialect r _).trans hd)]

/-- A page with quotes and a backslash is added as its artifact, and a second page as it is. In both
sessions the page gives the same address. -/
theorem session_artifacts_page :
    let page := "\x7b\x7bcdn \"a\\nb\"\x7d\x7d"
    let r : Renderer Builtin := new [] [] .v4
    let steps := [.add [("page", page), ("part", "plain")], .render "page" []]
    let steps' := [.add [("page", (Artifact.ofSource ⟨8, 7⟩ page).toJson), ("part", "plain")],
      .render "page" []]
    (r.session steps).1 = [.done, .text "/a\nb"] ∧ r.session steps' = r.session steps := by
  intro page r steps steps'
  constructor
  · exact session_add_render (by decide +kernel) (by decide +kernel)
  · have hcompile : ∃ t, Dialect.v4.compile page = .ok t :=
      Dialect.exists_of_isOk (by decide +kernel)
    obtain ⟨t, ht⟩ := hcompile
    refine session_artifacts (d := .v4) rfl
      (.cons (.add (.cons ?_ (.cons (.same _) .nil))) (.cons (.same _) .nil))
    exact .artifact (by decide) ht (Dialect.precompile_of_compile ht)

end Renderer

end Storefront
