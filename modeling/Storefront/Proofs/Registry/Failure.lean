import Storefront.Proofs.Artifact.Gate
import Storefront.Proofs.Registry.Outcome
import Storefront.Proofs.Session.Run

/-!
# Where an addition fails

Adding a list of entries is adding its parts one after the other until one of them fails
(`addMany_append`). So an addition fails exactly at the first entry for a new path whose text is
refused: what stands before is registered, what stands behind is not looked at, and the error is
the one that the refusal makes (`addMany_failure`).
-/

namespace Storefront

open Artifact (isPrecompiled)

namespace Dialect.Rejects

variable {d : Dialect} {path text : String} {e : Error}

theorem path_eq (h : d.Rejects path text e) : e.path = some path := by
  cases h <;> rfl

theorem kind_eq (h : d.Rejects path text e) :
    e.kind = if isPrecompiled text.toList then .format else .compile := by
  cases h with
  | unreadable marked => rw [if_pos marked]; rfl
  | incompatible marked => rw [if_pos marked]; rfl
  | invalidBody marked => rw [if_pos marked]; rfl
  | source raw => rw [raw]; rfl

end Dialect.Rejects

namespace Registry

variable {H : Type} {r : Registry H} {path text : String} {e : Error}

theorem add_eq_error_iff :
    r.add path text = .error e ↔ r.isLoaded path = false ∧ r.dialect.Rejects path text e := by
  rw [← build_eq_error_iff]
  by_cases hl : r.isLoaded path
  · simp [add_loaded hl, hl]
  · rw [Bool.not_eq_true] at hl
    rw [add_unloaded hl]
    cases build r.dialect path text <;> simp [Except.map, hl]

theorem addMany_append (r : Registry H) (first second : List (String × String)) :
    r.addMany (first ++ second) = match r.addMany first with
      | (.ok (), r') => r'.addMany second
      | (.error e, r') => (.error e, r') := by
  induction first generalizing r with
  | nil => rfl
  | cons entry rest ih =>
    obtain ⟨path, text⟩ := entry
    rw [List.cons_append]
    cases h : r.add path text with
    | error e => rw [addMany_cons_error h, addMany_cons_error h]
    | ok result =>
      obtain ⟨b, r'⟩ := result
      rw [addMany_cons_ok h, addMany_cons_ok h, ih]

/-- The addition of `before` succeeds, and then the addition of `text` under `path` fails. -/
structure StopsAt (r : Registry H) (before : List (String × String)) (path text : String)
    (e : Error) : Prop where
  reached : (r.addMany before).1 = .ok ()
  unloaded : (r.addMany before).2.isLoaded path = false
  rejects : r.dialect.Rejects path text e

theorem StopsAt.addMany_eq {before : List (String × String)} (h : r.StopsAt before path text e)
    (after : List (String × String)) :
    r.addMany (before ++ (path, text) :: after) = (.error e, (r.addMany before).2) := by
  have hdialect := addMany_dialect r before
  have hadd : (r.addMany before).2.add path text = .error e :=
    add_eq_error_iff.2 ⟨h.unloaded, hdialect ▸ h.rejects⟩
  have hok := h.reached
  rw [addMany_append]
  generalize r.addMany before = x at hok hadd ⊢
  obtain ⟨result, r'⟩ := x
  obtain rfl : result = .ok () := hok
  exact addMany_cons_error hadd after

theorem exists_stopsAt {entries : List (String × String)} (h : (r.addMany entries).1 = .error e) :
    ∃ before path text after, entries = before ++ (path, text) :: after ∧
      r.StopsAt before path text e := by
  induction entries generalizing r with
  | nil => cases h
  | cons entry rest ih =>
    obtain ⟨path, text⟩ := entry
    cases hadd : r.add path text with
    | error e' =>
      rw [addMany_cons_error hadd] at h
      cases h
      obtain ⟨hnew, hrejects⟩ := add_eq_error_iff.1 hadd
      exact ⟨[], path, text, rest, rfl, rfl, hnew, hrejects⟩
    | ok result =>
      obtain ⟨b, r'⟩ := result
      rw [addMany_cons_ok hadd] at h
      obtain ⟨before, q, text', after, rfl, hok, hnew, hrejects⟩ := ih h
      have hbefore := addMany_cons_ok hadd before
      refine ⟨(path, text) :: before, q, text', after, rfl, ?_, ?_, ?_⟩
      · rw [hbefore, hok]
      · rw [hbefore, hnew]
      · rwa [← add_dialect hadd]

/-- An addition fails exactly if it reaches an entry for a new path whose text is refused. Then
everything before that entry is registered and nothing else, the error names the path of the entry,
and its kind and message come from the refusal. And adding two lists joined is adding the first and
then, if that succeeds, the second. -/
theorem addMany_failure (r : Registry H) :
    (∀ entries e, (r.addMany entries).1 = .error e ↔
      ∃ before path text after, entries = before ++ (path, text) :: after ∧
        r.StopsAt before path text e) ∧
    (∀ before path text after e, r.StopsAt before path text e →
      let r' := (r.addMany (before ++ (path, text) :: after)).2
      r' = (r.addMany before).2 ∧ r'.isLoaded path = false ∧ e.path = some path ∧
        e.kind = if isPrecompiled text.toList then .format else .compile) ∧
    ∀ first second, r.addMany (first ++ second) = match r.addMany first with
      | (.ok (), r') => r'.addMany second
      | (.error e, r') => (.error e, r') := by
  refine ⟨fun entries e => ⟨exists_stopsAt, ?_⟩, ?_, addMany_append r⟩
  · rintro ⟨before, path, text, after, rfl, h⟩
    rw [h.addMany_eq after]
  · intro before path text after e h
    rw [h.addMany_eq after]
    exact ⟨rfl, h.unloaded, h.rejects.path_eq, h.rejects.kind_eq⟩

/-- A v3 registry refuses the artifact of v4 that stands between two sources. -/
theorem addMany_failure_newer :
    let r := empty Builtin .v3
    let text := (Artifact.ofSource ⟨8, 7⟩ "Hello").toJson
    let e := Error.format (some "page") (Compiler.Incompatible.newer ">= 4.3.0").message
    r.StopsAt [("part", "plain")] "page" text e ∧
      let r' := (r.addMany [("part", "plain"), ("page", text), ("last", "plain")]).2
      r' = (r.addMany [("part", "plain")]).2 ∧ r'.isLoaded "page" = false ∧
        e.path = some "page" ∧
          e.kind = if isPrecompiled text.toList then .format else .compile := by
  intro r text e
  have hrejects : r.dialect.Rejects "page" text e :=
    .incompatible (Artifact.isPrecompiled_toJson _) (Artifact.ofJson_toJson _) rfl
  have hstops : r.StopsAt [("part", "plain")] "page" text e := ⟨rfl, rfl, hrejects⟩
  exact ⟨hstops, (addMany_failure r).2.1 _ "page" text [("last", "plain")] e hstops⟩

end Registry

end Storefront
