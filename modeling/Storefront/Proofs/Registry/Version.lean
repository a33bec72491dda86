import Storefront.Proofs.Registry.Failure

/-!
# Artifacts keep to their version

A compiler reads an interval of revisions. What it refuses lies below the interval, and then it is
older, or above it, and then it is newer (`check_eq_error_iff`). Neither dialect reads the revision
that the other one writes, so an artifact is never registered under the other dialect
(`foreign_artifacts`).
-/

namespace Storefront

namespace Compiler

variable {c : Compiler} {revision : UInt32} {versions : String}

theorem check_eq_ok_iff :
    c.check revision versions = .ok () ↔ c.lastCompatible ≤ revision ∧ revision ≤ c.revision := by
  unfold check
  split
  · next h => exact ⟨fun _ => h, fun _ => rfl⟩
  · next h =>
    constructor
    · intro hok
      split at hok <;> cases hok
    · exact fun hin => absurd hin h

theorem check_eq_error_iff (hc : c.lastCompatible ≤ c.revision) {e : Incompatible} :
    c.check revision versions = .error e ↔
      e = .older c.versions (versionsOf revision) ∧ revision < c.lastCompatible ∨
        e = .newer versions ∧ c.revision < revision := by
  unfold check
  split
  · next h =>
    have hlow : ¬revision < c.lastCompatible := UInt32.not_lt.2 h.1
    have hhigh : ¬c.revision < revision := UInt32.not_lt.2 h.2
    simp [hlow, hhigh]
  · next h =>
    split
    · next hlow =>
      have hhigh : ¬c.revision < revision :=
        UInt32.not_lt.2 (UInt32.le_trans (UInt32.le_of_lt hlow) hc)
      simp [hlow, hhigh, eq_comm]
    · next hlow =>
      have hhigh : c.revision < revision := by
        refine UInt32.not_le.1 fun hle => h ⟨UInt32.not_lt.1 hlow, hle⟩
      simp [hlow, hhigh, eq_comm]

end Compiler

theorem Dialect.exists_check_foreign {d d' : Dialect} (h : d' ≠ d) (versions : String) :
    ∃ e, d'.compiler.check d.compiler.revision versions = .error e := by
  cases d <;> cases d'
  · exact absurd rfl h
  · exact ⟨_, rfl⟩
  · exact ⟨_, rfl⟩
  · exact absurd rfl h

namespace Registry

variable {H : Type} {r : Registry H} {path : String} {a : Artifact} {e : Compiler.Incompatible}

theorem addMany_incompatible (hnew : r.isLoaded path = false)
    (hcheck : r.dialect.compiler.check a.revision a.versions = .error e) :
    r.addMany [(path, a.toJson)] = (.error (.format (some path) e.message), r) := by
  have hrejects : r.dialect.Rejects path a.toJson (.format (some path) e.message) :=
    .incompatible (Artifact.isPrecompiled_toJson a) (Artifact.ofJson_toJson a) hcheck
  exact addMany_cons_error (add_eq_error_iff.2 ⟨hnew, hrejects⟩) []

end Registry

namespace Renderer

/-- An artifact is read with the revision of the compiler that wrote it. Another compiler accepts
it exactly if that revision lies in its interval, and refuses it as older below the interval and as
newer above it. So the artifact that one dialect makes of a source is refused by every renderer of
the other dialect, with the path that it was to be added under, and the renderer stays as it was. -/
theorem foreign_artifacts {H : Type} [Registrable H] :
    (∀ a b : Compiler, b.lastCompatible ≤ b.revision → ∀ source,
      ∃ artifact, Dialect.readArtifact (Artifact.ofSource a source).toJson = .ok artifact ∧
        (b.check artifact.revision artifact.versions = .ok () ↔
          b.lastCompatible ≤ a.revision ∧ a.revision ≤ b.revision) ∧
        ∀ e, b.check artifact.revision artifact.versions = .error e ↔
          e = .older b.versions a.versions ∧ a.revision < b.lastCompatible ∨
            e = .newer a.versions ∧ b.revision < a.revision) ∧
    ∀ (d : Dialect) source t, d.compile source = .ok t →
      ∃ text, d.precompile source = .ok text ∧
        ∀ (r : Renderer H) path, r.registry.dialect ≠ d → r.registry.isLoaded path = false →
          ∃ e,
            r.registry.dialect.compiler.check d.compiler.revision d.compiler.versions = .error e ∧
            r.step (.add [(path, text)]) = (.failed (.format (some path) e.message), r) := by
  constructor
  · intro a b hb source
    exact ⟨_, Dialect.readArtifact_toJson _, Compiler.check_eq_ok_iff,
      fun e => Compiler.check_eq_error_iff hb⟩
  · intro d source t hcompile
    refine ⟨_, Dialect.precompile_of_compile hcompile, ?_⟩
    intro r path hother hnew
    obtain ⟨e, he⟩ := Dialect.exists_check_foreign hother d.compiler.versions
    refine ⟨e, he, ?_⟩
    have hadd := Registry.addMany_incompatible (a := Artifact.ofSource d.compiler source) hnew he
    rw [step, hadd]

/-- The artifact of v4 is newer than what v3 reads, for a renderer that has a template already. -/
theorem foreign_artifacts_newer :
    let r : Renderer Builtin := ((new [] [] .v3).session [.add [("part", "plain")]]).2
    (∀ e, Compiler.check ⟨6, 6⟩ 8 ">= 4.3.0" = .error e ↔
      e = .older ">= 2.0.0-beta.1" ">= 4.3.0" ∧ (8 : UInt32) < 6 ∨
        e = .newer ">= 4.3.0" ∧ (6 : UInt32) < 8) ∧
    ∃ text, Dialect.v4.precompile "Hello" = .ok text ∧
      ∃ e, Compiler.check ⟨6, 6⟩ 8 ">= 4.3.0" = .error e ∧
        r.step (.add [("page", text)]) = (.failed (.format (some "page") e.message), r) := by
  intro r
  obtain ⟨artifact, hread, -, hrefused⟩ := foreign_artifacts.1 ⟨8, 7⟩ ⟨6, 6⟩ (by decide) "Hello"
  rw [Dialect.readArtifact_toJson] at hread
  cases hread
  obtain ⟨t, ht⟩ : ∃ t, Dialect.v4.compile "Hello" = .ok t := ⟨_, rfl⟩
  obtain ⟨text, htext, hstep⟩ := foreign_artifacts.2 .v4 "Hello" t ht
  exact ⟨hrefused, text, htext, hstep r "page" nofun rfl⟩

end Renderer

end Storefront
