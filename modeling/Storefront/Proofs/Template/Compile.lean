import Storefront.Proofs.Registry.Restore

/-!
# What the dialects compile

Both dialects parse a source in the same way. What v3 compiles, v4 compiles to the same template,
and what v4 rejects, v3 rejects for the same reason.
-/

namespace Storefront

variable {source : String} {t : Template}

theorem Template.compile_v4 (source : String) :
    Template.compile .v4 source = Template.parse source.toList := by
  unfold Template.compile
  cases Template.parse source.toList <;> rfl

theorem Template.compile_v3 (source : String) :
    Template.compile .v3 source = (do
      let t ← Template.parse source.toList
      match Template.firstDecorator t with
      | some isBlock => .error (.decoratorTag isBlock)
      | none => .ok t) := by
  unfold Template.compile
  cases Template.parse source.toList with
  | error e => rfl
  | ok t =>
    dsimp only [bind, Except.bind]
    cases Template.firstDecorator t <;> rfl

theorem Template.compile_v4_of_v3 (h : Template.compile .v3 source = .ok t) :
    Template.compile .v4 source = .ok t := by
  rw [Template.compile_v3] at h
  rw [Template.compile_v4]
  cases hp : Template.parse source.toList with
  | error e =>
    rw [hp] at h
    cases h
  | ok template =>
    rw [hp] at h
    dsimp only [bind, Except.bind] at h
    split at h
    · cases h
    · exact h

theorem Template.compile_v3_of_v4_error {e : Template.CompileError}
    (h : Template.compile .v4 source = .error e) : Template.compile .v3 source = .error e := by
  rw [Template.compile_v4] at h
  rw [Template.compile_v3, h]
  rfl

namespace Dialect

/-- A dialect compiles a source to nothing but what it parses to. -/
theorem parse_of_compile {d : Dialect} (h : d.compile source = .ok t) :
    Template.parse source.toList = .ok t := by
  rw [compile_eq_ok_iff] at h
  rw [← Template.compile_v4]
  cases d with
  | v3 => exact Template.compile_v4_of_v3 h
  | v4 => exact h

/-- A source that v3 compiles, or that neither dialect compiles. -/
def IsCommonSource (source : String) : Prop :=
  (∃ t, v3.compile source = .ok t) ∨
    (∃ e, v3.compile source = .error e) ∧ ∃ e, v4.compile source = .error e

theorem compile_eq_of_isCommonSource (h : IsCommonSource source) :
    v4.compile source = v3.compile source := by
  unfold compile
  cases h3 : Template.compile v3 source with
  | ok t => rw [Template.compile_v4_of_v3 h3]
  | error e3 =>
    cases h4 : Template.compile v4 source with
    | error e4 =>
      rw [Template.compile_v3_of_v4_error h4] at h3
      rw [h3]
    | ok t =>
      obtain ⟨t', h⟩ | ⟨-, e, h⟩ := h
      · rw [compile, h3] at h
        cases h
      · rw [compile, h4] at h
        cases h

end Dialect

/-! ### Running a source -/

namespace Registry

variable {H σ : Type} {r : Registry H}

theorem runSource_compiled (h : r.dialect.compile source = .ok t)
    (bind : String → H → Render.Helper σ) (data : Json.Value) (store : σ) :
    r.runSource bind source data store = r.run bind t data store := by
  rw [runSource, Dialect.parse_of_compile h]

/-- What is parsed for the run is the template that was compiled before. -/
theorem executeSource_compiled (h : r.dialect.compile source = .ok t)
    (bind : String → H → Render.Helper σ) (data : Json.Value) (store : σ) :
    r.executeSource bind source data store = r.run bind t data store := by
  rw [executeSource, h]
  exact runSource_compiled h bind data store

theorem executeSource_refused {e : EngineError} (h : r.dialect.compile source = .error e)
    (bind : String → H → Render.Helper σ) (data : Json.Value) (store : σ) :
    r.executeSource bind source data store = (.error (.failed e), store) := by
  rw [executeSource, h]

end Registry

end Storefront
