import Storefront.Registry
import Storefront.Proofs.Artifact.Gate

/-!
# Precompiled sources restore to their templates

A dialect accepts its own revision (`check_own`), so the artifact of a source that compiles
restores to the template of that source (`restore_ofSource`). `precompile_restores` joins this with
the reading of artifacts and their markers, for every source, and registering a source or its
artifact comes to the same (`build_precompiled`).
-/

namespace Storefront

/-! ### Mapped errors -/

section
variable {ε ε' α : Type} {x : Except ε α} {f : ε → ε'}

theorem mapError_eq_ok_iff {a : α} : x.mapError f = .ok a ↔ x = .ok a := by
  cases x with
  | error e => exact ⟨nofun, nofun⟩
  | ok b =>
    constructor
    · intro h
      cases h
      rfl
    · intro h
      cases h
      rfl

theorem mapError_eq_error_iff {e' : ε'} :
    x.mapError f = .error e' ↔ ∃ e, x = .error e ∧ f e = e' := by
  cases x with
  | ok a =>
    constructor
    · intro h
      cases h
    · rintro ⟨e, h, -⟩
      cases h
  | error e =>
    constructor
    · intro h
      exact ⟨e, rfl, Except.error.inj h⟩
    · rintro ⟨_, h, rfl⟩
      cases h
      rfl

end

/-! ### Compiling -/

namespace Dialect
open Template (CompileError)
open Artifact (isPrecompiled isPrecompiled_toJson)

variable {d : Dialect} {source : String} {t : Template}

theorem precompile_of_compile (h : d.compile source = .ok t) :
    d.precompile source = .ok (Artifact.ofSource d.compiler source).toJson := by
  rw [precompile, h]
  rfl

theorem precompile_of_error {e : EngineError} (h : d.compile source = .error e) :
    d.precompile source = .error e := by
  rw [precompile, h]
  rfl

theorem compile_eq_ok_iff : d.compile source = .ok t ↔ Template.compile d source = .ok t :=
  mapError_eq_ok_iff

/-- A compilation that succeeds, as evaluation shows it, has a template. -/
theorem exists_of_isOk (h : (d.compile source).isOk) : ∃ t, d.compile source = .ok t := by
  cases hc : d.compile source with
  | ok t => exact ⟨t, rfl⟩
  | error e =>
    rw [hc] at h
    cases h

theorem exists_of_compile_error {e : EngineError} (h : d.compile source = .error e) :
    ∃ c, e = .compile c := by
  obtain ⟨c, -, rfl⟩ := mapError_eq_error_iff.1 h
  exact ⟨c, rfl⟩

/-! ### Restoring -/

theorem readArtifact_toJson (a : Artifact) : readArtifact a.toJson = .ok a := by
  rw [readArtifact, Artifact.ofJson_toJson]
  rfl

theorem restore_toJson {a : Artifact} (h : d.template a = .ok t) :
    d.restore a.toJson = .ok (some t) := by
  have hread : (readArtifact a.toJson >>= d.template) = .ok t := by
    rw [readArtifact_toJson]
    exact h
  rw [restore, if_pos (isPrecompiled_toJson a), hread]

theorem restore_raw (d : Dialect) (hraw : isPrecompiled source.toList = false) :
    d.restore source = .ok none := by
  rw [restore, hraw]
  rfl

theorem check_own (d : Dialect) (versions : String) :
    d.compiler.check d.compiler.revision versions = .ok () := by
  cases d <;> rfl

theorem template_ofSource (h : d.compile source = .ok t) :
    d.template (Artifact.ofSource d.compiler source) = .ok t := by
  have hcheck : d.compiler.check (Artifact.ofSource d.compiler source).revision
      (Artifact.ofSource d.compiler source).versions = .ok () := check_own d _
  have hbody : Template.compile d (Artifact.ofSource d.compiler source).main = .ok t :=
    compile_eq_ok_iff.1 h
  rw [template, hcheck, hbody]
  rfl

theorem restore_ofSource (h : d.compile source = .ok t) :
    d.restore (Artifact.ofSource d.compiler source).toJson = .ok (some t) :=
  restore_toJson (template_ofSource h)

/-- A source that compiles has an artifact, which counts as one, reads back as the dialect's own
revision, its versions and the source, and restores to the template of the source. A source that
does not compile has none, for the same reason. -/
theorem precompile_restores (d : Dialect) (source : String) :
    match d.compile source with
    | .ok t => ∃ text, d.precompile source = .ok text ∧ isPrecompiled text.toList ∧
        readArtifact text = .ok ⟨d.compiler.revision, d.compiler.versions, source, true⟩ ∧
        d.restore text = .ok (some t)
    | .error e => (∃ c, e = .compile c) ∧ d.precompile source = .error e := by
  cases h : d.compile source with
  | ok t =>
    refine ⟨(Artifact.ofSource d.compiler source).toJson, precompile_of_compile h,
      isPrecompiled_toJson _, ?_, restore_ofSource h⟩
    rw [readArtifact_toJson]
    rfl
  | error e => exact ⟨exists_of_compile_error h, precompile_of_error h⟩

end Dialect

namespace Registry
open Artifact (isPrecompiled)

variable {d : Dialect} {source text : String} {t : Template}

/-! ### Registering either form -/

theorem build_of_restore (path : String) (h : d.restore text = .ok (some t)) :
    build d path text = .ok t := by
  rw [build, h]
  rfl

theorem build_of_compile (path : String) (hraw : isPrecompiled source.toList = false)
    (h : d.compile source = .ok t) : build d path source = .ok t := by
  rw [build, d.restore_raw hraw, h]
  rfl

theorem build_precompiled (path : String) (hraw : isPrecompiled source.toList = false)
    (h : d.compile source = .ok t) (htext : d.precompile source = .ok text) :
    build d path text = build d path source := by
  rw [Dialect.precompile_of_compile h] at htext
  obtain rfl := Except.ok.inj htext
  exact (build_of_restore path (Dialect.restore_ofSource h)).trans
    (build_of_compile path hraw h).symm

end Registry

end Storefront
