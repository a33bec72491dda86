import Storefront.Text.Replace
import Mathlib.Data.List.Basic

/-!
# Replacing text piece by piece

An occurrence is replaced as a whole (`replaceFrom_occurrence`), and a text without one stays as it
is (`replaceFrom_of_not_occurs`). In a text that is put together, an occurrence may start in one
piece and end in another; where the only occurrences are pieces by themselves, these are what is
replaced (`replaceFrom_flatMap`).
-/

namespace Storefront.Text

variable {old s : List Char}

theorem replaceAll_eq (h : old ≠ []) (new s : List Char) :
    replaceAll old new s = replaceFrom old new 0 s := by
  rw [replaceAll, if_neg (mt List.isEmpty_iff.1 h)]

theorem replaceFrom_append (old new a b : List Char) :
    replaceFrom old new a.length (a ++ b) = replaceFrom old new 0 b := by
  induction a with
  | nil => rfl
  | cons c a ih => exact ih

theorem replaceFrom_occurrence (h : old ≠ []) (new s : List Char) :
    replaceFrom old new 0 (old ++ s) = new ++ replaceFrom old new 0 s := by
  have hprefix : old.isPrefixOf (old ++ s) := List.isPrefixOf_iff_prefix.2 (List.prefix_append ..)
  cases old with
  | nil => exact absurd rfl h
  | cons c rest =>
    rw [List.cons_append] at hprefix ⊢
    rw [replaceFrom, if_pos hprefix]
    exact congrArg (new ++ ·) (replaceFrom_append (c :: rest) new rest s)

theorem replaceFrom_cons {c : Char} (h : ¬ old <+: c :: s) (new : List Char) :
    replaceFrom old new 0 (c :: s) = c :: replaceFrom old new 0 s :=
  if_neg (mt List.isPrefixOf_iff_prefix.1 h)

theorem replaceFrom_of_not_occurs (h : ¬ old <:+: s) (new : List Char) :
    replaceFrom old new 0 s = s := by
  induction s with
  | nil => rfl
  | cons c s ih =>
    rw [replaceFrom_cons fun hprefix => h hprefix.isInfix,
      ih fun hs => h (hs.trans (List.suffix_cons c s).isInfix)]

theorem replaceAll_single (c : Char) (new s : List Char) :
    replaceAll [c] new s = s.flatMap fun x => if x = c then new else [x] := by
  show replaceFrom [c] new 0 s = _
  induction s with
  | nil => rfl
  | cons x s ih =>
    rw [replaceFrom, List.flatMap_cons, ← ih, List.isPrefixOf_cons_cons]
    by_cases hx : x = c
    · subst x
      simp
    · simp [hx, Ne.symm hx]

/-- Nothing but the whole of `old` stands both at its front and at its end, so two occurrences of it
never overlap. -/
def Unbordered (old : List Char) : Prop :=
  ∀ b, b <:+ old → b <+: old → b = [] ∨ b = old

theorem replaceFrom_append_occurrence (hne : old ≠ []) (hold : Unbordered old)
    (hs : ¬ old <:+: s) (new t : List Char) :
    replaceFrom old new 0 (s ++ (old ++ t)) = s ++ (new ++ replaceFrom old new 0 t) := by
  induction s with
  | nil => exact replaceFrom_occurrence hne new t
  | cons c s ih =>
    have hfirst : ¬ old <+: (c :: s) ++ (old ++ t) := by
      intro hfirst
      rcases List.prefix_or_prefix_of_prefix hfirst (List.prefix_append (c :: s) (old ++ t)) with
        hshort | ⟨b, hb⟩
      · exact hs hshort.isInfix
      · -- an occurrence that goes beyond `s` ends in `b`, with which the one behind `s` starts
        have hlong : (c :: s) ++ b <+: (c :: s) ++ (old ++ t) := by rwa [hb]
        have hlength := congrArg List.length hb
        rw [List.length_append, List.length_cons] at hlength
        have hborder : b <+: old := List.prefix_of_prefix_length_le
          ((List.prefix_append_right_inj _).1 hlong) (List.prefix_append old t) (by omega)
        rcases hold b ⟨c :: s, hb⟩ hborder with rfl | rfl
        · rw [List.append_nil] at hb
          exact hs (hb ▸ List.infix_rfl)
        · omega
    have hinside : ¬ old <:+: s := fun hinside => hs (hinside.trans (List.suffix_cons c s).isInfix)
    exact (replaceFrom_cons hfirst new).trans (congrArg (c :: ·) (ih hinside))

/-- A text that is put together from pieces is replaced piece by piece, if one of them is what is
replaced and no run of other pieces makes up an occurrence. -/
theorem replaceFrom_flatMap {α : Type} {f g : α → List Char} {x : α} {xs : List α} {new : List Char}
    (hne : old ≠ []) (hold : Unbordered old) (hf : f x = old) (hg : g x = new)
    (hkeep : ∀ y ∈ xs, y ≠ x → g y = f y)
    (hruns : ∀ run, run <:+: xs → x ∉ run → ¬ old <:+: run.flatMap f) :
    replaceFrom old new 0 (xs.flatMap f) = xs.flatMap g := by
  have hrun {run : List α} (hinside : run <:+: xs) (hx : x ∉ run) :
      run.flatMap g = run.flatMap f :=
    List.flatMap_congr fun y hy => hkeep y (hinside.mem hy) fun heq => hx (heq ▸ hy)
  -- the induction goes from one occurrence of the piece to the next
  induction hn : xs.length using Nat.strongRecOn generalizing xs with
  | _ n ih =>
    by_cases hx : x ∈ xs
    · obtain ⟨before, after, rfl, hbefore⟩ := List.eq_append_cons_of_mem hx
      have hfront : before <:+: before ++ x :: after := (List.prefix_append ..).isInfix
      have hrest : after <:+: before ++ x :: after := ⟨before ++ [x], [], by simp⟩
      have hlt : after.length < n := by
        rw [← hn, List.length_append, List.length_cons]
        omega
      have hafter := ih _ hlt (fun y hy => hkeep y (hrest.mem hy))
        (fun run hinside => hruns run (hinside.trans hrest))
        (fun hinside => hrun (hinside.trans hrest)) rfl
      rw [List.flatMap_append, List.flatMap_append, List.flatMap_cons, List.flatMap_cons, hf, hg,
        replaceFrom_append_occurrence hne hold (hruns before hfront hbefore), hafter,
        hrun hfront hbefore]
    · rw [hrun List.infix_rfl hx, replaceFrom_of_not_occurs (hruns xs List.infix_rfl hx)]

end Storefront.Text
