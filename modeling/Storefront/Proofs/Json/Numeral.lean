import Storefront.Json.Reader

/-!
# Whole numbers read back

The decimal digits of a natural number are read as that number (`number_toDigits`), provided that
what follows them cannot continue a numeral (`EndsNumeral`). `word32_toDigits` is the case of the
revisions of artifacts.
-/

namespace Storefront.Json

/-- A text that no numeral in front of it can run into. -/
def EndsNumeral (s : List Char) : Prop :=
  ∀ c ∈ s.head?, ¬c.isDigit ∧ c ≠ '.' ∧ c ≠ 'e' ∧ c ≠ 'E'

/-! ### Rows of digits -/

theorem isDigit_of_mem_digits {n : Nat} {c : Char} (hc : c ∈ Nat.toDigits 10 n) : c.isDigit :=
  Nat.isDigit_of_mem_toDigits (by decide) (by decide) hc

/-- A text that no row of digits in front of it can run into. -/
def EndsDigits (s : List Char) : Prop :=
  ∀ c ∈ s.head?, ¬c.isDigit

theorem EndsNumeral.endsDigits {s : List Char} (h : EndsNumeral s) : EndsDigits s :=
  fun c hc => (h c hc).1

theorem takeWhile_digits {ds rest : List Char} (hds : ∀ c ∈ ds, c.isDigit)
    (hrest : EndsDigits rest) : (ds ++ rest).takeWhile Char.isDigit = ds := by
  rw [List.takeWhile_append_of_pos hds]
  cases rest with
  | nil => simp
  | cons c rest => rw [List.takeWhile_cons_of_neg (hrest c rfl), List.append_nil]

theorem dropWhile_digits {ds rest : List Char} (hds : ∀ c ∈ ds, c.isDigit)
    (hrest : EndsDigits rest) : (ds ++ rest).dropWhile Char.isDigit = rest := by
  rw [List.dropWhile_append_of_pos hds]
  cases rest with
  | nil => rfl
  | cons c rest => rw [List.dropWhile_cons_of_neg (hrest c rfl)]

theorem digitsValue_toDigits (n : Nat) : digitsValue (Nat.toDigits 10 n) = n :=
  Nat.ofDigitChars_ten_toDigits

theorem eq_zero_of_head?_toDigits {n : Nat} (h : (Nat.toDigits 10 n).head? = some '0') : n = 0 := by
  induction n using Nat.strongRecOn with
  | ind n ih =>
    by_cases hn : n < 10
    · rw [Nat.toDigits_of_lt_base hn, List.head?_cons, Option.some.injEq] at h
      have hv := Nat.toNat_digitChar_sub_48_of_lt_ten hn
      rw [h] at hv
      exact hv.symm
    · rw [Nat.toDigits_of_base_le (by decide) (by omega),
        List.head?_append, Option.or_of_isSome (by simp)] at h
      have hdiv := ih (n / 10) (by omega) h
      omega

theorem toDigits_ne_zero_cons (n : Nat) (c : Char) (cs : List Char) :
    Nat.toDigits 10 n ≠ '0' :: c :: cs := by
  intro h
  have hz : n = 0 := eq_zero_of_head?_toDigits (by rw [h]; rfl)
  rw [hz, Nat.toDigits_zero] at h
  cases h

theorem toDigits_eq_cons (n : Nat) : ∃ d ds, Nat.toDigits 10 n = d :: ds ∧ d.isDigit := by
  obtain ⟨d, ds, hd⟩ := List.exists_cons_of_ne_nil (Nat.toDigits_ne_nil (b := 10) (n := n))
  have hmem : d ∈ Nat.toDigits 10 n := by
    rw [hd]
    exact List.mem_cons_self
  exact ⟨d, ds, hd, isDigit_of_mem_digits hmem⟩

/-! ### Numerals -/

/-- A natural number below `2 ^ 64` as a whole number of the data language. -/
def Integer.ofNat (n : Nat) (hn : n < 0x10000000000000000) : Integer :=
  ⟨n, by omega, by omega⟩

theorem ofWholeDigits_toDigits {n : Nat} (hn : n < 0x10000000000000000) :
    ofWholeDigits false (Nat.toDigits 10 n) = .ok (.whole (.ofNat n hn)) := by
  have hint : Integer.ofInt? (n : Int) = some (.ofNat n hn) := Integer.ofInt?_val (.ofNat n hn)
  rw [ofWholeDigits, if_neg (by simp), if_neg (by simp), digitsValue_toDigits, hint]

/-- Without a point or an exponent behind them, digits are a whole number. -/
theorem numeral_toDigits (negative : Bool) (n : Nat) {rest : List Char} (hrest : EndsNumeral rest) :
    numeral negative (Nat.toDigits 10 n ++ rest) =
      (ofWholeDigits negative (Nat.toDigits 10 n)).map fun x => (x, rest) := by
  have hne : Nat.toDigits 10 n ++ rest ≠ [] :=
    List.append_ne_nil_of_left_ne_nil Nat.toDigits_ne_nil rest
  have hdigits : ∀ c ∈ Nat.toDigits 10 n, c.isDigit := fun c => isDigit_of_mem_digits
  unfold numeral
  rw [takeWhile_digits hdigits hrest.endsDigits, dropWhile_digits hdigits hrest.endsDigits]
  dsimp only
  split
  · exact absurd ‹_› hne
  · exact absurd ‹_› Nat.toDigits_ne_nil
  · exact absurd ‹_› (toDigits_ne_zero_cons n _ _)
  · split
    · exact absurd rfl (hrest '.' rfl).2.1
    · rename_i c rest _ _
      have hc := (hrest c rfl).2.2
      rw [if_neg fun he => he.elim hc.1 hc.2]
      cases ofWholeDigits negative (Nat.toDigits 10 n) <;> rfl
    · cases ofWholeDigits negative (Nat.toDigits 10 n) <;> rfl

theorem number_toDigits {n : Nat} (hn : n < 0x10000000000000000) {rest : List Char}
    (hrest : EndsNumeral rest) :
    number (Nat.toDigits 10 n ++ rest) = .ok (.whole (.ofNat n hn), rest) := by
  have hnum : number (Nat.toDigits 10 n ++ rest) = numeral false (Nat.toDigits 10 n ++ rest) := by
    unfold number
    split
    · rename_i after h
      have hmem : '-' ∈ Nat.toDigits 10 n := by
        cases hd : Nat.toDigits 10 n with
        | nil => exact absurd hd Nat.toDigits_ne_nil
        | cons d ds => rw [hd] at h; cases h; exact List.mem_cons_self
      exact absurd (isDigit_of_mem_digits hmem) (by decide)
    · rfl
  rw [hnum, numeral_toDigits false n hrest, ofWholeDigits_toDigits hn]
  rfl

theorem isJsonBlank_of_isDigit {c : Char} (hc : c.isDigit) : Text.isJsonBlank c = false := by
  rw [Bool.eq_false_iff]
  intro hb
  simp only [Text.isJsonBlank, Bool.or_eq_true, beq_iff_eq] at hb
  rcases hb with ((rfl | rfl) | rfl) | rfl <;> exact absurd hc (by decide)

theorem word32_of_number {c : Char} {s rest : List Char} {n : Integer}
    (hc : c.isDigit) (hread : number (c :: s) = .ok (.whole n, rest))
    (hn : 0 ≤ n.val ∧ n.val < 0x100000000) :
    word32 (c :: s) = .ok (n.val.toNat.toUInt32, rest) := by
  have hskip : skipBlanks (c :: s) = c :: s :=
    List.dropWhile_cons_of_neg (by rw [isJsonBlank_of_isDigit hc]; exact Bool.false_ne_true)
  rw [word32, hskip]
  dsimp only
  rw [if_pos (.inr hc), hread]
  dsimp only [bind, Except.bind]
  rw [if_pos hn]

theorem word32_toDigits (n : UInt32) {rest : List Char} (hrest : EndsNumeral rest) :
    word32 (Nat.toDigits 10 n.toNat ++ rest) = .ok (n, rest) := by
  have hn : n.toNat < 0x100000000 := n.toNat_lt
  have hread := number_toDigits (n := n.toNat) (by omega) hrest
  obtain ⟨d, ds, hd, hdigit⟩ := toDigits_eq_cons n.toNat
  rw [hd, List.cons_append] at hread ⊢
  rw [word32_of_number hdigit hread ⟨Int.natCast_nonneg _, Int.ofNat_lt.2 hn⟩]
  exact congrArg (fun m => Except.ok (m, rest)) UInt32.ofNat_toNat

end Storefront.Json
