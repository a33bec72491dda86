import Storefront.Proofs.Registry.Restore

/-!
# What becomes of one text

A text without the markers of an artifact is compiled. A text with them is read as an artifact, its
revision is checked, and the source that it holds is compiled (`build_raw`, `build_marked`). So a
template always comes from a source that compiles, and a text is refused for one of four reasons,
each of which makes its own error (`build_eq_error_iff`).
-/

namespace Storefront

open Artifact (isPrecompiled)
open Template (CompileError)

/-- The dialect makes no template of a text, and an addition under `path` says why with the given
error. -/
inductive Dialect.Rejects (d : Dialect) (path text : String) : Error → Prop where
  /-- A text with the markers of an artifact is none. -/
  | unreadable {e : Json.ReadError} (marked : isPrecompiled text.toList)
      (read : Artifact.ofJson text = .error e) : Rejects d path text (.format (some path) e.message)
  /-- The dialect does not accept the revision of an artifact. -/
  | incompatible {a : Artifact} {e : Compiler.Incompatible} (marked : isPrecompiled text.toList)
      (read : Artifact.ofJson text = .ok a)
      (check : d.compiler.check a.revision a.versions = .error e) :
      Rejects d path text (.format (some path) e.message)
  /-- The source in an artifact does not compile. -/
  | invalidBody {a : Artifact} {e : CompileError} (marked : isPrecompiled text.toList)
      (read : Artifact.ofJson text = .ok a)
      (check : d.compiler.check a.revision a.versions = .ok ())
      (compile : Template.compile d a.main = .error e) :
      Rejects d path text (.format (some path) ("invalid precompiled template body: " ++ e.message))
  /-- A source does not compile. -/
  | source {e : CompileError} (raw : isPrecompiled text.toList = false)
      (compile : Template.compile d text = .error e) :
      Rejects d path text (.compile (some path) e.message)

namespace Registry

variable {d : Dialect} {path text : String}

theorem build_raw (path : String) (hraw : isPrecompiled text.toList = false) :
    build d path text = (Template.compile d text).mapError fun e =>
      .compile (some path) e.message := by
  rw [build, d.restore_raw hraw, Dialect.compile]
  cases Template.compile d text <;> rfl

theorem build_marked (path : String) (hmarked : isPrecompiled text.toList) :
    build d path text = (match Artifact.ofJson text with
      | .error e => .error (.format (some path) e.message)
      | .ok a =>
        match d.compiler.check a.revision a.versions with
        | .error e => .error (.format (some path) e.message)
        | .ok () => (Template.compile d a.main).mapError fun e =>
          .format (some path) ("invalid precompiled template body: " ++ e.message)) := by
  rw [build, Dialect.restore, if_pos hmarked, Dialect.readArtifact]
  cases Artifact.ofJson text with
  | error e => rfl
  | ok a =>
    have hread : (Except.ok a).mapError EngineError.unreadable >>= d.template = d.template a := rfl
    rw [hread, Dialect.template]
    dsimp only
    cases d.compiler.check a.revision a.versions with
    | error e => rfl
    | ok => cases Template.compile d a.main <;> rfl

/-- Every template that is made is compiled from a source: the text or what an artifact holds. -/
theorem exists_compile_of_build {t : Template} (h : build d path text = .ok t) :
    ∃ source, Template.compile d source = .ok t := by
  by_cases hmarked : isPrecompiled text.toList
  · rw [build_marked path hmarked] at h
    split at h
    · cases h
    · split at h
      · cases h
      · exact ⟨_, mapError_eq_ok_iff.1 h⟩
  · rw [build_raw path (Bool.not_eq_true _ ▸ hmarked)] at h
    exact ⟨text, mapError_eq_ok_iff.1 h⟩

theorem build_eq_error_iff {e : Error} : build d path text = .error e ↔ d.Rejects path text e := by
  constructor
  · intro h
    by_cases hmarked : isPrecompiled text.toList
    · rw [build_marked path hmarked] at h
      split at h
      · next hread =>
        cases h
        exact .unreadable hmarked hread
      · next hread =>
        split at h
        · next hcheck =>
          cases h
          exact .incompatible hmarked hread hcheck
        · next hcheck =>
          obtain ⟨e', hc, rfl⟩ := mapError_eq_error_iff.1 h
          exact .invalidBody hmarked hread hcheck hc
    · have hraw := Bool.not_eq_true _ ▸ hmarked
      rw [build_raw path hraw] at h
      obtain ⟨e', hc, rfl⟩ := mapError_eq_error_iff.1 h
      exact .source hraw hc
  · rintro (⟨hmarked, hread⟩ | ⟨hmarked, hread, hcheck⟩ | ⟨hmarked, hread, hcheck, hc⟩ | ⟨hraw, hc⟩)
    · rw [build_marked path hmarked, hread]
    · simp only [build_marked path hmarked, hread, hcheck]
    · simp only [build_marked path hmarked, hread, hcheck, mapError_eq_error_iff]
      exact ⟨_, hc, rfl⟩
    · rw [build_raw path hraw, mapError_eq_error_iff]
      exact ⟨_, hc, rfl⟩

end Registry

end Storefront
