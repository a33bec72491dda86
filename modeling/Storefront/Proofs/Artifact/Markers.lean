import Mathlib.Data.List.TakeWhile
import Storefront.Proofs.Artifact.Gate

/-!
# The search for the markers is exact

The search looks at the suffixes of a text one after the other, skips white space greedily and ends
the `compiler` array at its first closing bracket. None of this lets it accept too much: every step
that succeeds splits its text as the markers say (`afterName?_eq_some`, `afterCompiler?_eq_some`).
With the completeness of the search, a text counts as an artifact exactly if it has the markers
somewhere (`isPrecompiled_iff_hasMarkers`).
-/

namespace Storefront.Artifact

open Text (isBlank)

variable {s rest : List Char}

theorem exists_of_anySuffix {p : List Char → Bool} (h : anySuffix p s) :
    ∃ x y, s = x ++ y ∧ p y := by
  induction s with
  | nil => exact ⟨[], [], rfl, h⟩
  | cons c s ih =>
    rcases Bool.or_eq_true_iff.1 h with h | h
    · exact ⟨[], c :: s, rfl, h⟩
    · obtain ⟨x, y, rfl, hy⟩ := ih h
      exact ⟨c :: x, y, rfl, hy⟩

theorem eq_append_of_after? {part : List Char} (h : after? part s = some rest) :
    s = part ++ rest := by
  induction part generalizing s with
  | nil => exact Option.some.inj h
  | cons c part ih =>
    cases s with
    | nil => cases h
    | cons d s =>
      rw [after?] at h
      split at h
      · next hcd => rw [hcd, ih h, List.cons_append]
      · cases h

theorem exists_blanks_append_dropWhile (s : List Char) :
    ∃ w, (∀ c ∈ w, isBlank c) ∧ s = w ++ s.dropWhile isBlank :=
  ⟨s.takeWhile isBlank, fun _ hc => List.mem_takeWhile_imp hc,
    List.takeWhile_append_dropWhile.symm⟩

theorem afterName?_eq_some {quoted : List Char} (h : afterName? quoted s = some rest) :
    ∃ w w', (∀ c ∈ w, isBlank c) ∧ (∀ c ∈ w', isBlank c) ∧
      s = quoted ++ (w ++ ':' :: (w' ++ rest)) := by
  obtain ⟨s', hname, h⟩ := Option.bind_eq_some_iff.1 h
  obtain ⟨s'', hcolon, h⟩ := Option.bind_eq_some_iff.1 h
  obtain rfl := Option.some.inj h
  obtain ⟨w, hw, hs'⟩ := exists_blanks_append_dropWhile s'
  obtain ⟨w', hw', hs''⟩ := exists_blanks_append_dropWhile s''
  refine ⟨w, w', hw, hw', ?_⟩
  calc s
    _ = quoted ++ s' := eq_append_of_after? hname
    _ = quoted ++ (w ++ s'.dropWhile isBlank) := by rw [← hs']
    _ = quoted ++ (w ++ ':' :: s'') := by rw [eq_append_of_after? hcolon]; rfl
    _ = quoted ++ (w ++ ':' :: (w' ++ s''.dropWhile isBlank)) := by rw [← hs'']

theorem exists_of_startsMain (h : startsMain s) :
    ∃ w w' z, (∀ c ∈ w, isBlank c) ∧ (∀ c ∈ w', isBlank c) ∧
      s = ['"', 'm', 'a', 'i', 'n', '"'] ++ (w ++ ':' :: (w' ++ '"' :: z)) := by
  unfold startsMain at h
  split at h
  · next z hname =>
    obtain ⟨w, w', hw, hw', hs⟩ := afterName?_eq_some hname
    exact ⟨w, w', z, hw, hw', hs⟩
  · cases h

theorem exists_of_after?_bracket (h : after? [']'] (s.dropWhile (· != ']')) = some rest) :
    ∃ b, ']' ∉ b ∧ s = b ++ ']' :: rest := by
  have hdrop : s.dropWhile (· != ']') = ']' :: rest := eq_append_of_after? h
  exact ⟨s.takeWhile (· != ']'), Text.not_mem_takeWhile_ne ']' s,
    Text.eq_append_of_dropWhile_ne hdrop⟩

theorem afterCompiler?_eq_some (h : afterCompiler? s = some rest) :
    ∃ w w' b, (∀ c ∈ w, isBlank c) ∧ (∀ c ∈ w', isBlank c) ∧ ']' ∉ b ∧
      s = ['"', 'c', 'o', 'm', 'p', 'i', 'l', 'e', 'r', '"'] ++
        (w ++ ':' :: (w' ++ '[' :: (b ++ ']' :: rest))) := by
  unfold afterCompiler? at h
  split at h
  · next inside hname =>
    obtain ⟨w, w', hw, hw', hs⟩ := afterName?_eq_some hname
    obtain ⟨b, hb, rfl⟩ := exists_of_after?_bracket h
    exact ⟨w, w', b, hw, hw', hb, hs⟩
  · cases h

theorem hasMarkers_of_isPrecompiled (h : isPrecompiled s) : HasMarkers s := by
  obtain ⟨x, s', rfl, hmarkers⟩ := exists_of_anySuffix h
  unfold startsMarkers at hmarkers
  split at hmarkers
  · next rest hcompiler =>
    obtain ⟨w₁, w₂, b, hw₁, hw₂, hb, rfl⟩ := afterCompiler?_eq_some hcompiler
    obtain ⟨y, main, rfl, hmain⟩ := exists_of_anySuffix hmarkers
    obtain ⟨w₃, w₄, z, hw₃, hw₄, rfl⟩ := exists_of_startsMain hmain
    refine ⟨x, w₁, w₂, b, y, w₃, w₄, z, ?_, hb, rfl⟩
    simp only [List.forall_mem_append]
    exact ⟨⟨⟨hw₁, hw₂⟩, hw₃⟩, hw₄⟩
  · cases hmarkers

/-- A text counts as an artifact exactly if somewhere in it stand the markers: the name `compiler`
in quotes, a colon with white space around it and an array up to its first closing bracket, and
anywhere behind it the name `main` in quotes, a colon with white space around it and the quote that
opens a string. -/
theorem isPrecompiled_iff_hasMarkers (text : String) :
    isPrecompiled text.toList ↔ HasMarkers text.toList :=
  ⟨hasMarkers_of_isPrecompiled, isPrecompiled_of_hasMarkers⟩

/-- The first `compiler` is no array and the first `main` no string. -/
example : isPrecompiled "\"compiler\":\"compiler\" :\n[\"[\"] \"main\":1 \"main\" : \"".toList := by
  decide +kernel

end Storefront.Artifact
