import Storefront.Proofs.Session.Interchange
import Storefront.Proofs.Table

/-!
# Preprocessing keeps what entries mean

If nothing fails, then preprocessing entries with different paths leaves every entry in its place,
as it is or as its artifact (`preprocessAll_artifacts`). So what it makes registers as the entries
do.
-/

namespace Storefront.Registry
open Artifact (isPrecompiled)
open Preprocessed (isOk)

variable {d : Dialect} {p : Preprocessed}

theorem preprocessEntry_cases (d : Dialect) (p : Preprocessed) (path text : String) :
    (∃ artifact, EntryAsArtifact d (path, text) (path, artifact) ∧
      preprocessEntry d p (path, text) = p.store path artifact) ∨
    ∃ e, preprocessEntry d p (path, text) = p.reject e := by
  unfold preprocessEntry
  dsimp only
  cases hgate : isPrecompiled text.toList with
  | true => exact .inl ⟨text, .same _, rfl⟩
  | false =>
    cases hcompile : d.compile text with
    | error e =>
      rw [Dialect.precompile_of_error hcompile]
      exact .inr ⟨_, rfl⟩
    | ok t =>
      have hprecompile := Dialect.precompile_of_compile hcompile
      rw [hprecompile]
      exact .inl ⟨_, .artifact hgate hcompile hprecompile, rfl⟩

theorem isOk_of_foldl {entries : List (String × String)}
    (h : (entries.foldl (preprocessEntry d) p).isOk) : p.isOk := by
  induction entries generalizing p with
  | nil => exact h
  | cons entry entries ih =>
    obtain ⟨path, text⟩ := entry
    have hnext := ih h
    obtain ⟨artifact, -, heq⟩ | ⟨e, heq⟩ := preprocessEntry_cases d p path text
    · rw [heq] at hnext
      exact hnext
    · rw [heq] at hnext
      simp [Preprocessed.reject, isOk] at hnext

theorem store_new {path : String} (hpath : path ∉ p.artifacts.map Prod.fst) (artifact : String) :
    (p.store path artifact).artifacts = p.artifacts ++ [(path, artifact)] := by
  have hkeep : p.artifacts.filter (fun a => a.1 ≠ path) = p.artifacts := by
    refine List.filter_eq_self.2 ?_
    intro a ha
    rw [decide_eq_true_iff]
    rintro rfl
    exact hpath (List.mem_map_of_mem ha)
  rw [Preprocessed.store, hkeep]

theorem foldl_artifacts {entries : List (String × String)}
    (hkeys : ((p.artifacts ++ entries).map Prod.fst).Nodup)
    (hok : (entries.foldl (preprocessEntry d) p).isOk) :
    ∃ artifacts, (entries.foldl (preprocessEntry d) p).artifacts = p.artifacts ++ artifacts ∧
      List.Forall₂ (EntryAsArtifact d) entries artifacts := by
  -- the paths of what is stored and of what is still to come stay the same list
  induction entries generalizing p with
  | nil => exact ⟨[], (List.append_nil _).symm, .nil⟩
  | cons entry entries ih =>
    obtain ⟨path, text⟩ := entry
    obtain ⟨artifact, hentry, heq⟩ | ⟨e, heq⟩ := preprocessEntry_cases d p path text
    · have hpath : path ∉ p.artifacts.map Prod.fst := by
        rw [List.map_append, List.map_cons] at hkeys
        intro hmem
        exact (List.nodup_append.1 hkeys).2.2 path hmem path List.mem_cons_self rfl
      have hstore := store_new hpath artifact
      have hkeys' : (((p.store path artifact).artifacts ++ entries).map Prod.fst).Nodup := by
        rw [hstore, List.append_assoc, List.map_append]
        rwa [List.map_append] at hkeys
      rw [List.foldl_cons, heq] at hok ⊢
      obtain ⟨artifacts, hartifacts, hentries⟩ := ih hkeys' hok
      refine ⟨(path, artifact) :: artifacts, ?_, .cons hentry hentries⟩
      rw [hartifacts, hstore, List.append_assoc, List.singleton_append]
    · rw [List.foldl_cons, heq] at hok
      have hreject := isOk_of_foldl hok
      simp [Preprocessed.reject, isOk] at hreject

theorem preprocessAll_artifacts {r : Registry H} {entries : List (String × String)}
    (hkeys : (entries.map Prod.fst).Nodup) (hok : (r.preprocessAll entries).isOk) :
    List.Forall₂ (EntryAsArtifact r.dialect) entries (r.preprocessAll entries).artifacts := by
  obtain ⟨artifacts, hartifacts, hentries⟩ := foldl_artifacts (p := {}) hkeys hok
  rw [List.nil_append] at hartifacts
  rwa [preprocessAll, hartifacts]

theorem keys_artifacts {entries entries' : List (String × String)}
    (h : List.Forall₂ (EntryAsArtifact d) entries entries') :
    entries'.map Prod.fst = entries.map Prod.fst := by
  induction h with
  | nil => rfl
  | cons hentry _ ih =>
    rw [List.map_cons, List.map_cons, ih]
    cases hentry <;> rfl

theorem sorted_artifacts {entries entries' : List (String × String)}
    (h : List.Forall₂ (EntryAsArtifact d) entries entries') (hsorted : Table.Sorted entries) :
    Table.Sorted entries' := by
  have hkeys : Table.keys entries' = Table.keys entries := keys_artifacts h
  rw [Table.sorted_iff_keys, hkeys]
  exact Table.sorted_iff_keys.1 hsorted

end Storefront.Registry
