import Mathlib.Data.List.TakeDrop
import Storefront.Proofs.Json.Value

/-!
# The characters of numbers

Whatever a number is, its text consists of digits, signs, the point and the letter of the exponent.
The digits of a floating point number all come from `Decimal.ofWhole`, in whatever search they were
found (`isDigit_of_mem_shortest`), and a layout adds only the other characters (`isNumeric_text`).
-/

namespace Storefront

/-- A character of which numbers are written. -/
def IsNumeric (c : Char) : Prop :=
  c.isDigit ∨ c ∈ ['-', '+', '.', 'e']

namespace Decimal

theorem isDigit_of_mem_ofWhole {m : Nat} {e : Int} {c : Char} (h : c ∈ (ofWhole m e).digits) :
    c.isDigit := by
  unfold ofWhole at h
  dsimp only at h
  split at h
  · rw [List.mem_singleton.1 h]
    decide
  · have hall : c ∈ Nat.toDigits 10 m :=
      List.mem_reverse.1 ((List.dropWhile_sublist _).mem (List.mem_reverse.1 h))
    exact Json.isDigit_of_mem_digits hall

theorem exists_ofWhole_of_withDigits {rank num den n : Nat} {top : Int} {d : Decimal}
    (h : withDigits rank num den top n = some d) : ∃ m e, d = ofWhole m e := by
  unfold withDigits at h
  dsimp only at h
  split at h
  · exact ⟨_, _, (Option.some.inj h).symm⟩
  split at h
  · exact ⟨_, _, (Option.some.inj h).symm⟩
  split at h
  · exact ⟨_, _, (Option.some.inj h).symm⟩
  · cases h

/-- However many digits are tried, and whether or not one of the candidates reads back. -/
theorem isDigit_of_mem_candidate {rank num den : Nat} {top : Int} {tries : List Nat} {c : Char}
    (h : c ∈ ((tries.findSome? (withDigits rank num den top)).getD ⟨['0'], 0⟩).digits) :
    c.isDigit := by
  cases hfound : tries.findSome? (withDigits rank num den top) with
  | none =>
    rw [hfound] at h
    rw [List.mem_singleton.1 h]
    decide
  | some d =>
    rw [hfound] at h
    obtain ⟨n, -, hn⟩ := List.exists_of_findSome?_eq_some hfound
    obtain ⟨m, e, rfl⟩ := exists_ofWhole_of_withDigits hn
    exact isDigit_of_mem_ofWhole h

theorem shortest_of_not_isZero {x : Binary64} (hzero : ¬x.isZero) :
    shortest x = (((List.range 17).map (· + 1)).findSome? (withDigits x.rank x.units
      Binary64.unitsInOne (exponentOf x.units Binary64.unitsInOne))).getD ⟨['0'], 0⟩ :=
  if_neg hzero

theorem isDigit_of_mem_shortest {x : Binary64} {c : Char} (h : c ∈ (shortest x).digits) :
    c.isDigit := by
  by_cases hzero : x.isZero
  · rw [shortest, if_pos hzero, List.mem_singleton] at h
    subst h
    decide
  · rw [shortest_of_not_isZero hzero] at h
    exact isDigit_of_mem_candidate h

variable {ds : List Char} {e : Int} {c : Char}

theorem isNumeric_inPlace (hds : ∀ c ∈ ds, c.isDigit) (h : c ∈ inPlace ds e) : IsNumeric c := by
  have hzeros : ∀ k, ∀ c ∈ List.replicate k '0', IsNumeric c := by
    intro k c hc
    rw [List.eq_of_mem_replicate hc]
    exact .inl (by decide)
  cases e with
  | negSucc k =>
    rw [inPlace, List.mem_append, List.mem_append] at h
    rcases h with (h | h) | h
    · rcases List.mem_pair.1 h with rfl | rfl
      · exact .inl (by decide)
      · exact .inr (by decide)
    · exact hzeros k c h
    · exact .inl (hds c h)
  | ofNat k =>
    dsimp only [inPlace] at h
    simp only [List.mem_append, List.mem_singleton] at h
    rcases h with ((h | h) | rfl) | h
    · exact .inl (hds c (List.mem_of_mem_take h))
    · exact hzeros _ c h
    · exact .inr (by decide)
    · split at h
      · rw [List.mem_singleton.1 h]
        exact .inl (by decide)
      · exact .inl (hds c (List.mem_of_mem_drop h))

theorem isNumeric_withExponent (hds : ∀ c ∈ ds, c.isDigit) (h : c ∈ withExponent ds e) :
    IsNumeric c := by
  have hexponent : ∀ (n : Nat) (sign : Char), IsNumeric sign →
      ∀ c ∈ sign :: Nat.toDigits 10 n, IsNumeric c := by
    intro n sign hsign c hc
    rcases List.mem_cons.1 hc with rfl | hc
    · exact hsign
    · exact .inl (Json.isDigit_of_mem_digits hc)
  unfold withExponent at h
  rcases List.mem_append.1 h with h | h
  · split at h
    · rcases List.mem_cons.1 h with rfl | h
      · exact .inl (hds c List.mem_cons_self)
      · rcases List.mem_cons.1 h with rfl | h
        · exact .inr (by decide)
        · exact .inl (hds c (List.mem_cons_of_mem _ h))
    · exact .inl (hds c h)
  · rcases List.mem_cons.1 h with rfl | h
    · exact .inr (by decide)
    · cases e with
      | ofNat k => exact hexponent k '+' (.inr (by decide)) c h
      | negSucc k => exact hexponent (k + 1) '-' (.inr (by decide)) c h

end Decimal

theorem Json.Number.isNumeric_text {n : Json.Number} {c : Char} (h : c ∈ n.text) :
    IsNumeric c := by
  cases n with
  | whole n =>
    obtain ⟨val, lower, upper⟩ := n
    cases val with
    | ofNat m =>
      rw [Json.text_ofNat] at h
      exact .inl (Json.isDigit_of_mem_digits h)
    | negSucc m =>
      rw [Json.text_negSucc] at h
      rcases List.mem_cons.1 h with rfl | h
      · exact .inr (by decide)
      · exact .inl (Json.isDigit_of_mem_digits h)
  | double x =>
    unfold Json.Number.text Binary64.text Decimal.text at h
    rcases List.mem_append.1 h with h | h
    · split at h
      · rw [List.mem_singleton.1 h]
        exact .inr (by decide)
      · cases h
    · split at h
      · exact Decimal.isNumeric_inPlace (fun _ => Decimal.isDigit_of_mem_shortest) h
      · exact Decimal.isNumeric_withExponent (fun _ => Decimal.isDigit_of_mem_shortest) h

end Storefront
