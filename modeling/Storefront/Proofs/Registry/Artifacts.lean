import Storefront.Proofs.Registry.Agreement
import Mathlib.Data.List.Pairwise

/-!
# What preprocessing makes of every entry

Preprocessing treats every entry by itself: an entry has something to store or it has an error
(`prepared?_eq_some_iff`, `refusal?_eq_some_iff`). What it stores is the list of what its entries
have to store, without those for whose path another one comes later (`artifacts_preprocessAll`), so
that a path moves to the end when it is stored again. All of it carries the markers of an artifact
(`isPrecompiled_artifacts`), and no path stands twice; preprocessing it once more, for whichever
dialect, changes nothing (`preprocessing_idempotent`).
-/

namespace Storefront.Registry

open Artifact (isPrecompiled isPrecompiled_toJson)

variable {d : Dialect} {path text : String} {e : Error}
variable {entries artifacts : List (String × String)}

/-! ### The last entry of a path -/

/-- The entries after which none for the same path comes, in their order. -/
def lastEntries (entries : List (String × String)) : List (String × String) :=
  entries.pwFilter fun a b => a.1 ≠ b.1

theorem forall_lastEntries_iff (a : String × String) (rest : List (String × String)) :
    (∀ b ∈ lastEntries rest, a.1 ≠ b.1) ↔ a.1 ∉ rest.map Prod.fst := by
  have hall : (∀ b ∈ lastEntries rest, a.1 ≠ b.1) ↔ ∀ b ∈ rest, a.1 ≠ b.1 := by
    refine List.forall_mem_pwFilter ?_ a rest
    intro x y z hxz
    by_contra! h
    exact hxz (h.1.trans h.2)
  rw [hall, List.mem_map]
  push Not
  exact forall₂_congr fun b _ => ne_comm

theorem lastEntries_cons_of_mem {a : String × String} {rest : List (String × String)}
    (h : a.1 ∈ rest.map Prod.fst) : lastEntries (a :: rest) = lastEntries rest :=
  List.pwFilter_cons_of_neg fun h' => (forall_lastEntries_iff a rest).1 h' h

theorem lastEntries_cons_of_not_mem {a : String × String} {rest : List (String × String)}
    (h : a.1 ∉ rest.map Prod.fst) : lastEntries (a :: rest) = a :: lastEntries rest :=
  List.pwFilter_cons_of_pos ((forall_lastEntries_iff a rest).2 h)

theorem pairwise_lastEntries (entries : List (String × String)) :
    (lastEntries entries).Pairwise fun a b => a.1 ≠ b.1 :=
  List.pairwise_pwFilter entries

theorem mem_of_mem_lastEntries {a : String × String} (h : a ∈ lastEntries entries) : a ∈ entries :=
  List.pwFilter_subset entries h

/-- An entry at the end takes the place of an earlier one for its path. -/
theorem lastEntries_concat (entries : List (String × String)) (a : String × String) :
    lastEntries (entries ++ [a]) = (lastEntries entries).filter (fun b => b.1 ≠ a.1) ++ [a] := by
  induction entries with
  | nil => rfl
  | cons b rest ih =>
    have hmem : b.1 ∈ (rest ++ [a]).map Prod.fst ↔ b.1 ∈ rest.map Prod.fst ∨ b.1 = a.1 := by
      rw [List.map_append, List.mem_append, List.map_singleton, List.mem_singleton]
    rw [List.cons_append]
    by_cases hrest : b.1 ∈ rest.map Prod.fst
    · rw [lastEntries_cons_of_mem (hmem.2 (.inl hrest)), lastEntries_cons_of_mem hrest, ih]
    · rw [lastEntries_cons_of_not_mem hrest]
      by_cases ha : b.1 = a.1
      · rw [lastEntries_cons_of_mem (hmem.2 (.inr ha)), ih, List.filter_cons_of_neg (by simp [ha])]
      · rw [lastEntries_cons_of_not_mem fun h => (hmem.1 h).elim hrest ha, ih,
          List.filter_cons_of_pos (by simp [ha]), List.cons_append]

/-- The path that comes again moves to the end. -/
example : lastEntries [("a", "1"), ("b", "2"), ("a", "3")] = [("b", "2"), ("a", "3")] := by decide

/-! ### One entry -/

/-- What an entry has to store, under its path. -/
def prepared? (d : Dialect) (entry : String × String) : Option (String × String) :=
  (d.prepare entry.2).toOption.map fun artifact => (entry.1, artifact)

theorem prepare_marked (h : isPrecompiled text.toList) : d.prepare text = .ok text := by
  rw [Dialect.prepare, if_pos h]

theorem prepare_eq_ok_iff {artifact : String} :
    d.prepare text = .ok artifact ↔
      isPrecompiled text.toList ∧ artifact = text ∨
        isPrecompiled text.toList = false ∧ (∃ t, d.compile text = .ok t) ∧
          d.precompile text = .ok artifact := by
  cases hgate : isPrecompiled text.toList with
  | true =>
    rw [prepare_marked hgate]
    constructor
    · intro h
      exact .inl ⟨rfl, (Except.ok.inj h).symm⟩
    · rintro (⟨-, rfl⟩ | ⟨h, -⟩)
      · rfl
      · cases h
  | false =>
    rw [prepare_raw hgate]
    constructor
    · intro h
      cases hcompile : d.compile text with
      | ok t => exact .inr ⟨rfl, ⟨t, rfl⟩, h⟩
      | error c =>
        rw [Dialect.precompile_of_error hcompile] at h
        cases h
    · rintro (⟨h, -⟩ | ⟨-, -, h⟩)
      · cases h
      · exact h

theorem isPrecompiled_of_prepare {artifact : String} (h : d.prepare text = .ok artifact) :
    isPrecompiled artifact.toList := by
  obtain ⟨hgate, rfl⟩ | ⟨-, ⟨t, ht⟩, hprecompile⟩ := prepare_eq_ok_iff.1 h
  · exact hgate
  · rw [Dialect.precompile_of_compile ht] at hprecompile
    obtain rfl := Except.ok.inj hprecompile
    exact isPrecompiled_toJson _

theorem prepared?_eq_some_iff {entry a : String × String} :
    prepared? d entry = some a ↔ a.1 = entry.1 ∧ d.prepare entry.2 = .ok a.2 := by
  obtain ⟨q, artifact⟩ := a
  unfold prepared?
  cases d.prepare entry.2 with
  | ok other => simp [Except.toOption, eq_comm]
  | error c => simp [Except.toOption]

theorem refusal?_eq_some_iff :
    refusal? d (path, text) = some e ↔
      isPrecompiled text.toList = false ∧
        ∃ c, d.compile text = .error c ∧ e = .compile (some path) c.message := by
  cases hgate : isPrecompiled text.toList with
  | true =>
    have hnone : refusal? d (path, text) = none := by rw [refusal?, prepare_marked hgate]
    rw [hnone]
    constructor
    · intro h
      cases h
    · rintro ⟨h, -⟩
      cases h
  | false =>
    rw [refusal?_raw hgate]
    exact ⟨fun h => ⟨rfl, h⟩, And.right⟩

theorem isSome_prepared? (d : Dialect) (entry : String × String) :
    (prepared? d entry).isSome = (refusal? d entry).isNone := by
  obtain ⟨path, text⟩ := entry
  unfold prepared? refusal?
  dsimp only
  cases d.prepare text <;> rfl

/-! ### All entries -/

/-- What is stored, in order: what the entries have to store, the last one for each path. -/
theorem artifacts_preprocessAll (r : Registry H) (entries : List (String × String)) :
    (r.preprocessAll entries).artifacts =
      lastEntries (entries.filterMap (prepared? r.dialect)) := by
  -- the loop stores behind everything else, so the induction takes entries off the end
  induction entries using List.reverseRecOn with
  | nil => rfl
  | append_singleton entries entry ih =>
    obtain ⟨path, text⟩ := entry
    rw [preprocessAll_concat, preprocessEntry_eq, List.filterMap_append]
    cases h : r.dialect.prepare text with
    | ok artifact =>
      have hentry : [(path, text)].filterMap (prepared? r.dialect) = [(path, artifact)] := by
        simp [prepared?, h, Except.toOption]
      rw [hentry, lastEntries_concat, ← ih]
      rfl
    | error c =>
      have hentry : [(path, text)].filterMap (prepared? r.dialect) = [] := by
        simp [prepared?, h, Except.toOption]
      rw [hentry, List.append_nil, ← ih]
      rfl

theorem preprocessAll_eq (r : Registry H) (entries : List (String × String)) :
    r.preprocessAll entries =
      { artifacts := lastEntries (entries.filterMap (prepared? r.dialect))
        errors := entries.filterMap (refusal? r.dialect) } := by
  rw [← artifacts_preprocessAll, ← errors_preprocessAll]

theorem isPrecompiled_artifacts (r : Registry H) (entries : List (String × String)) :
    ∀ a ∈ (r.preprocessAll entries).artifacts, isPrecompiled a.2.toList := by
  intro a ha
  rw [artifacts_preprocessAll] at ha
  obtain ⟨entry, -, hentry⟩ := List.mem_filterMap.1 (mem_of_mem_lastEntries ha)
  exact isPrecompiled_of_prepare (prepared?_eq_some_iff.1 hentry).2

/-- What is refused has no part in what is stored: the other entries by themselves store the
same. -/
theorem preprocessAll_kept (r : Registry H) (entries : List (String × String)) :
    r.preprocessAll (entries.filter fun entry => (refusal? r.dialect entry).isNone) =
      { artifacts := (r.preprocessAll entries).artifacts } := by
  rw [preprocessAll_eq, artifacts_preprocessAll, List.filterMap_filter, List.filterMap_filter]
  have hkept (entry : String × String) :
      (if (refusal? r.dialect entry).isNone then prepared? r.dialect entry else none) =
        prepared? r.dialect entry := by
    rw [← isSome_prepared?]
    cases prepared? r.dialect entry <;> rfl
  have hnone (entry : String × String) :
      (if (refusal? r.dialect entry).isNone then refusal? r.dialect entry else none) = none := by
    cases refusal? r.dialect entry <;> rfl
  simp only [hkept, hnone, List.filterMap_none]

theorem preprocessAll_refused (r : Registry H) (entries : List (String × String)) :
    r.preprocessAll (entries.filter fun entry => (refusal? r.dialect entry).isSome) =
      { errors := (r.preprocessAll entries).errors } := by
  rw [preprocessAll_eq, errors_preprocessAll, List.filterMap_filter, List.filterMap_filter]
  have hnone (entry : String × String) :
      (if (refusal? r.dialect entry).isSome then prepared? r.dialect entry else none) = none := by
    have hsome := isSome_prepared? r.dialect entry
    cases h : refusal? r.dialect entry with
    | none => rfl
    | some e =>
      rw [h, Option.isNone_some, Option.isSome_eq_false_iff, Option.isNone_iff_eq_none] at hsome
      exact hsome
  have hrefused (entry : String × String) :
      (if (refusal? r.dialect entry).isSome then refusal? r.dialect entry else none) =
        refusal? r.dialect entry := by
    cases refusal? r.dialect entry <;> rfl
  simp only [hrefused, hnone, List.filterMap_none]
  rfl

/-- Preprocessing accounts for every entry. An entry with the markers of an artifact has itself to
store, a source that compiles its artifact, and any other source is refused with the message of the
compiler. The errors are those of the refused entries, in order; the artifacts are what the others
have to store, without those for whose path another one comes later, so under each path stands what
the last of its entries has to store. Neither kind has a part in what becomes of the other, and the
first error, if there is one, is the failure of the whole. -/
theorem preprocessing_accounts (r : Registry H) (entries : List (String × String)) :
    let d := r.dialect
    let p := r.preprocessAll entries
    (∀ path text artifact, prepared? d (path, text) = some (path, artifact) ↔
      isPrecompiled text.toList ∧ artifact = text ∨
        isPrecompiled text.toList = false ∧ (∃ t, d.compile text = .ok t) ∧
          d.precompile text = .ok artifact) ∧
    (∀ path text e, refusal? d (path, text) = some e ↔
      isPrecompiled text.toList = false ∧
        ∃ c, d.compile text = .error c ∧ e = .compile (some path) c.message) ∧
    p.errors = entries.filterMap (refusal? d) ∧
    p.artifacts = lastEntries (entries.filterMap (prepared? d)) ∧
    (∀ path, Table.get? p.artifacts path = entries.reverse.findSome? (preparedFor? d path)) ∧
    r.preprocessAll (entries.filter fun entry => (refusal? d entry).isNone) =
      { artifacts := p.artifacts } ∧
    r.preprocessAll (entries.filter fun entry => (refusal? d entry).isSome) =
      { errors := p.errors } ∧
    r.preprocess entries = match p.errors with
      | e :: _ => .error e
      | [] => .ok p.artifacts := by
  intro d p
  refine ⟨?_, fun path text e => refusal?_eq_some_iff, errors_preprocessAll r entries,
    artifacts_preprocessAll r entries, get?_artifacts r entries, preprocessAll_kept r entries,
    preprocessAll_refused r entries, rfl⟩
  intro path text artifact
  rw [prepared?_eq_some_iff, ← prepare_eq_ok_iff]
  exact and_iff_right rfl

/-! ### Once more -/

theorem prepared?_marked {a : String × String} (h : isPrecompiled a.2.toList) :
    prepared? d a = some a :=
  prepared?_eq_some_iff.2 ⟨rfl, prepare_marked h⟩

theorem refusal?_marked {a : String × String} (h : isPrecompiled a.2.toList) :
    refusal? d a = none := by
  rw [← Option.isNone_iff_eq_none, ← isSome_prepared?, prepared?_marked h]
  rfl

/-- Preprocessing what was preprocessed, for the same dialect or another one, reports nothing and
leaves everything as it is and where it is. -/
theorem preprocessing_idempotent (r r' : Registry H) (entries : List (String × String)) :
    let artifacts := (r.preprocessAll entries).artifacts
    r'.preprocessAll artifacts = { artifacts } := by
  intro artifacts
  have hmarked : ∀ a ∈ artifacts, isPrecompiled a.2.toList := isPrecompiled_artifacts r entries
  have hprepared : artifacts.filterMap (prepared? r'.dialect) = artifacts := by
    rw [List.filterMap_congr fun a ha => prepared?_marked (hmarked a ha), List.filterMap_some]
  have hrefused : artifacts.filterMap (refusal? r'.dialect) = [] :=
    List.filterMap_eq_nil_iff.2 fun a ha => refusal?_marked (hmarked a ha)
  have hlast : lastEntries artifacts = artifacts := by
    have hpairwise := pairwise_lastEntries (entries.filterMap (prepared? r.dialect))
    rw [← artifacts_preprocessAll] at hpairwise
    exact List.pwFilter_eq_self.2 hpairwise
  rw [preprocessAll_eq, hprepared, hrefused, hlast]

end Storefront.Registry
