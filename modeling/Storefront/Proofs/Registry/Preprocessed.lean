import Storefront.Registry
import Storefront.Proofs.Table
import Mathlib.Data.List.Induction

/-!
# What preprocessing stores and reports

Every entry either has something to store, or an error. Preprocessing reports the errors of all
entries in their order (`errors_preprocessAll`), and stores under each path what the last of its
entries has to store (`get?_artifacts`): entries for one path replace each other, while
registration keeps the first.
-/

namespace Storefront

open Artifact (isPrecompiled)

/-- What is stored for a text: an artifact as it is, a source as its artifact. -/
def Dialect.prepare (d : Dialect) (text : String) : Except EngineError String :=
  if isPrecompiled text.toList then .ok text else d.precompile text

namespace Registry

/-- The error that is reported for an entry, if there is nothing to store. -/
def refusal? (d : Dialect) : String × String → Option Error
  | (path, text) =>
    match d.prepare text with
    | .ok _ => none
    | .error e => some (.compile (some path) e.message)

/-- What an entry stores under a path, if the entry is for that path. -/
def preparedFor? (d : Dialect) (path : String) : String × String → Option String
  | (q, text) => if q = path then (d.prepare text).toOption else none

variable {H : Type} {d : Dialect} {r : Registry H} {p : Preprocessed} {path text : String}
variable {e : Error} {entries artifacts : List (String × String)}

theorem preprocessEntry_eq (d : Dialect) (p : Preprocessed) (path text : String) :
    preprocessEntry d p (path, text) = match d.prepare text with
      | .ok artifact => p.store path artifact
      | .error e => p.reject (.compile (some path) e.message) := by
  unfold preprocessEntry Dialect.prepare
  dsimp only
  split
  · rfl
  · cases d.precompile text <;> rfl

theorem preprocessAll_concat (r : Registry H) (entries : List (String × String))
    (entry : String × String) :
    r.preprocessAll (entries ++ [entry]) =
      preprocessEntry r.dialect (r.preprocessAll entries) entry := by
  simp [preprocessAll]

theorem errors_preprocessAll (r : Registry H) (entries : List (String × String)) :
    (r.preprocessAll entries).errors = entries.filterMap (refusal? r.dialect) := by
  induction entries using List.reverseRecOn with
  | nil => rfl
  | append_singleton entries entry ih =>
    obtain ⟨path, text⟩ := entry
    rw [preprocessAll_concat, preprocessEntry_eq, List.filterMap_append, ← ih]
    cases h : r.dialect.prepare text <;> simp [refusal?, h, Preprocessed.store, Preprocessed.reject]

/-! ### Look-up -/

theorem get?_store (p : Preprocessed) (q artifact path : String) :
    Table.get? (p.store q artifact).artifacts path =
      if q = path then some artifact else Table.get? p.artifacts path := by
  have hkept : Table.get? (p.artifacts.filter fun a => a.1 ≠ q) path =
      if q = path then none else Table.get? p.artifacts path := Table.get?_erase p.artifacts q path
  rw [Preprocessed.store, Table.get?_append, hkept, Table.get?_cons]
  by_cases h : q = path
  · simp [h]
  · simp [h]

theorem get?_artifacts (r : Registry H) (entries : List (String × String)) (path : String) :
    Table.get? (r.preprocessAll entries).artifacts path =
      entries.reverse.findSome? (preparedFor? r.dialect path) := by
  induction entries using List.reverseRecOn with
  | nil => rfl
  | append_singleton entries entry ih =>
    obtain ⟨q, text⟩ := entry
    rw [preprocessAll_concat, preprocessEntry_eq, List.reverse_append, List.reverse_singleton,
      List.singleton_append, List.findSome?_cons, ← ih, preparedFor?]
    cases r.dialect.prepare text with
    | ok artifact =>
      dsimp only
      rw [get?_store]
      by_cases h : q = path
      · simp [h, Except.toOption]
      · simp [h]
    | error e => simp [Except.toOption, Preprocessed.reject]

/-! ### The first error decides -/

theorem preprocess_eq_error_iff :
    r.preprocess entries = .error e ↔ entries.findSome? (refusal? r.dialect) = some e := by
  unfold preprocess
  dsimp only
  rw [errors_preprocessAll, ← List.head?_filterMap]
  cases entries.filterMap (refusal? r.dialect) <;> simp

theorem isOk_preprocessAll_iff :
    (r.preprocessAll entries).isOk ↔ ∀ entry ∈ entries, refusal? r.dialect entry = none := by
  rw [Preprocessed.isOk, List.isEmpty_iff, errors_preprocessAll, List.filterMap_eq_nil_iff]

theorem preprocess_eq_ok_iff :
    r.preprocess entries = .ok artifacts ↔
      (∀ entry ∈ entries, refusal? r.dialect entry = none) ∧
        (r.preprocessAll entries).artifacts = artifacts := by
  unfold preprocess
  dsimp only
  rw [errors_preprocessAll, ← List.filterMap_eq_nil_iff]
  cases entries.filterMap (refusal? r.dialect) <;> simp

end Registry

end Storefront
