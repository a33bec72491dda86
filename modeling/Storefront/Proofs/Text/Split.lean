import Mathlib.Data.List.TakeWhile

/-!
# Texts divided at a character

The first occurrence of a character divides a text into a part without it and what follows
(`takeWhile_dropWhile_ne`, `eq_append_of_dropWhile_ne`).
-/

namespace Storefront.Text

variable {c x : Char} {s rest : List Char}

theorem takeWhile_dropWhile_ne {b : List Char} (hb : c ∉ b) (s : List Char) :
    (b ++ c :: s).takeWhile (· != c) = b ∧ (b ++ c :: s).dropWhile (· != c) = c :: s := by
  have hpos : ∀ x ∈ b, (x != c) = true := fun x hx => bne_iff_ne.2 fun h => hb (h ▸ hx)
  constructor
  · rw [List.takeWhile_append_of_pos hpos]
    simp
  · rw [List.dropWhile_append_of_pos hpos]
    simp

theorem not_mem_takeWhile_ne (c : Char) (s : List Char) : c ∉ s.takeWhile (· != c) :=
  fun hmem => bne_iff_ne.1 (List.mem_takeWhile_imp (p := (· != c)) hmem) rfl

theorem eq_append_of_dropWhile_ne (h : s.dropWhile (· != c) = x :: rest) :
    s = s.takeWhile (· != c) ++ c :: rest := by
  have hx : x = c := by
    have hhead := List.head?_dropWhile_not (· != c) s
    rw [h] at hhead
    simpa using hhead
  calc s
    _ = s.takeWhile (· != c) ++ s.dropWhile (· != c) := List.takeWhile_append_dropWhile.symm
    _ = s.takeWhile (· != c) ++ c :: rest := by rw [h, hx]

end Storefront.Text
