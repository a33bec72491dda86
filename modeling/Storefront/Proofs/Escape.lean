import Storefront.Escape
import Storefront.Render.Page
import Storefront.Proofs.Text.Replace

/-!
# The two dialects escape alike, apart from the equals sign

`EqualsEscaped s t` says that `t` is `s` with some of its equals signs written as the entity
`&#x3D;`. The outputs of v3 and v4 are related in this way (`equalsEscaped_escape`), and putting
pieces together on a page keeps it. Related texts become the same text when the entity is read as
the equals sign (`EqualsEscaped.readEquals`): the entity starts with its only ampersand and holds no
equals sign, so that no occurrence of it can straddle a place where the texts differ.
-/

namespace Storefront

open Text (isBreak)
open Render (Page)

/-- The entity that v4 writes for an equals sign. -/
def equalsEntity : List Char := ['&', '#', 'x', '3', 'D', ';']

/-- A text with all entities of the equals sign read. -/
def readEquals (s : List Char) : List Char :=
  Text.replaceAll equalsEntity ['='] s

/-- The second text is the first with some equals signs escaped. -/
inductive EqualsEscaped : List Char → List Char → Prop where
  | nil : EqualsEscaped [] []
  | cons (c : Char) {s t : List Char} (h : EqualsEscaped s t) : EqualsEscaped (c :: s) (c :: t)
  | entity {s t : List Char} (h : EqualsEscaped s t) :
    EqualsEscaped ('=' :: s) (equalsEntity ++ t)

/-! ### Reading the entity -/

theorem readEquals_entity (s : List Char) :
    readEquals (equalsEntity ++ s) = '=' :: readEquals s := by
  have hne : equalsEntity ≠ [] := List.cons_ne_nil _ _
  exact Text.replaceFrom_occurrence hne ['='] s

theorem readEquals_cons {c : Char} {s : List Char} (h : ¬ equalsEntity <+: c :: s) :
    readEquals (c :: s) = c :: readEquals s :=
  Text.replaceFrom_cons h ['=']

namespace EqualsEscaped

variable {s t a b : List Char}

theorem refl (s : List Char) : EqualsEscaped s s := by
  induction s with
  | nil => exact .nil
  | cons c _ ih => exact .cons c ih

theorem append (h : EqualsEscaped s t) (hab : EqualsEscaped a b) :
    EqualsEscaped (s ++ a) (t ++ b) := by
  induction h with
  | nil => exact hab
  | cons c _ ih => exact .cons c ih
  | entity _ ih => exact .entity ih

/-! ### What the writing of a page looks at -/

theorem eq_nil_iff (h : EqualsEscaped s t) : s = [] ↔ t = [] := by
  cases h with
  | nil => rfl
  | cons c _ => simp
  | entity _ => simp [equalsEntity]

theorem isEmpty_eq (h : EqualsEscaped s t) : s.isEmpty = t.isEmpty := by
  rw [Bool.eq_iff_iff, List.isEmpty_iff, List.isEmpty_iff, h.eq_nil_iff]

theorem head_isBreak (h : EqualsEscaped s t) : s.head?.any isBreak = t.head?.any isBreak := by
  cases h with
  | nil | cons _ _ => rfl
  | entity _ => rfl

theorem getLast_isBreak (h : EqualsEscaped s t) :
    s.getLast?.any isBreak = t.getLast?.any isBreak := by
  induction h with
  | nil => rfl
  | @cons c s t h ih =>
    cases s with
    | nil => rw [h.eq_nil_iff.1 rfl]
    | cons d s =>
      obtain ⟨e, t, rfl⟩ := List.exists_cons_of_ne_nil (mt h.eq_nil_iff.2 (List.cons_ne_nil d s))
      rw [List.getLast?_cons_cons, List.getLast?_cons_cons, ih]
  | @entity s t h ih =>
    cases s with
    | nil => rw [h.eq_nil_iff.1 rfl]; rfl
    | cons d s =>
      obtain ⟨e, t, rfl⟩ := List.exists_cons_of_ne_nil (mt h.eq_nil_iff.2 (List.cons_ne_nil d s))
      rw [List.getLast?_cons_cons, ih]
      rfl

theorem indented (h : EqualsEscaped s t) (indent : List Char) :
    EqualsEscaped (Page.indented indent s) (Page.indented indent t) := by
  induction h with
  | nil => exact .nil
  | @cons c s t h ih =>
    have hne : (c = '\n' ∧ s ≠ []) ↔ (c = '\n' ∧ t ≠ []) :=
      and_congr_right fun _ => not_congr h.eq_nil_iff
    unfold Page.indented
    by_cases hc : c = '\n' ∧ s ≠ []
    · rw [if_pos hc, if_pos (hne.1 hc)]
      exact .cons c ((refl indent).append ih)
    · rw [if_neg hc, if_neg (mt hne.2 hc)]
      exact .cons c ih
  | entity _ ih => exact .entity ih

/-! ### Where the texts are the same -/

/-- Characters that are no part of a difference stand in both texts if they stand in the first. -/
theorem strip {p : List Char} (hp : ∀ c ∈ p, c ≠ '=' ∧ c ≠ '&') :
    EqualsEscaped (p ++ s) t → ∃ t', t = p ++ t' ∧ EqualsEscaped s t' := by
  induction p generalizing t with
  | nil => exact fun h => ⟨t, rfl, h⟩
  | cons c p ih =>
    intro h
    cases h with
    | cons _ h =>
      obtain ⟨t', rfl, h'⟩ := ih (fun d hd => hp d (List.mem_cons_of_mem c hd)) h
      exact ⟨t', rfl, h'⟩
    | entity _ => exact absurd rfl (hp '=' List.mem_cons_self).1

theorem strip_right {p : List Char} (hp : ∀ c ∈ p, c ≠ '=' ∧ c ≠ '&') :
    EqualsEscaped s (p ++ t) → ∃ s', s = p ++ s' ∧ EqualsEscaped s' t := by
  induction p generalizing s with
  | nil => exact fun h => ⟨s, rfl, h⟩
  | cons c p ih =>
    intro h
    generalize ht : c :: p ++ t = u at h
    cases h with
    | nil => cases ht
    | cons _ h =>
      obtain ⟨rfl, rfl⟩ := List.cons.inj ht
      obtain ⟨s', rfl, h'⟩ := ih (fun d hd => hp d (List.mem_cons_of_mem c hd)) h
      exact ⟨s', rfl, h'⟩
    | entity _ => exact absurd (List.cons.inj ht).1 (hp c List.mem_cons_self).2

theorem equalsEntity_tail_ne : ∀ c ∈ equalsEntity.tail, c ≠ '=' ∧ c ≠ '&' := by
  intro c hc
  simp only [equalsEntity, List.tail_cons, List.mem_cons, List.not_mem_nil, or_false] at hc
  rcases hc with rfl | rfl | rfl | rfl | rfl <;> decide

theorem readEquals_eq (h : EqualsEscaped s t) : readEquals s = readEquals t := by
  -- An occurrence of the entity in both texts is read at once, so the recursion is on the length.
  induction hn : s.length using Nat.strongRecOn generalizing s t with
  | _ n ih =>
    cases h with
    | nil => rfl
    | @entity s t h =>
      have hhead : ¬ equalsEntity <+: '=' :: s := fun hp =>
        absurd (List.cons_prefix_cons.1 hp).1 (by decide)
      rw [readEquals_cons hhead, readEquals_entity, ih s.length (by simp [← hn]) h rfl]
    | @cons c s t h =>
      by_cases hp : equalsEntity <+: c :: s
      · obtain ⟨rfl, s', rfl⟩ := List.cons_prefix_cons.1 hp
        obtain ⟨t', rfl, h'⟩ := h.strip equalsEntity_tail_ne
        have hlt : s'.length < n := by
          rw [← hn, List.length_cons, List.length_append]
          omega
        calc readEquals (equalsEntity ++ s')
          _ = '=' :: readEquals s' := readEquals_entity s'
          _ = '=' :: readEquals t' := by rw [ih _ hlt h' rfl]
          _ = readEquals (equalsEntity ++ t') := (readEquals_entity t').symm
      · have hp' : ¬ equalsEntity <+: c :: t := by
          intro hp'
          obtain ⟨rfl, t', rfl⟩ := List.cons_prefix_cons.1 hp'
          obtain ⟨s', rfl, -⟩ := h.strip_right equalsEntity_tail_ne
          exact hp (List.cons_prefix_cons.2 ⟨rfl, List.prefix_append ..⟩)
        rw [readEquals_cons hp, readEquals_cons hp', ih s.length (by simp [← hn]) h rfl]

/-- Reading the entity in the middle makes no new one of what stands around it. -/
example : readEquals "&#x3&#x3D;D;".toList = "&#x3=D;".toList := by
  decide

end EqualsEscaped

/-! ### The dialects -/

theorem equalsEscaped_escapeChar (c : Char) :
    EqualsEscaped (Dialect.v3.escapeChar c) (Dialect.v4.escapeChar c) := by
  unfold Dialect.escapeChar
  cases entity? c with
  | some entity => exact .refl entity
  | none =>
    by_cases hc : c = '='
    · subst c
      exact .entity .nil
    · dsimp only
      rw [if_neg (fun h => hc h.1), if_neg (fun h => hc h.1)]
      exact .refl [c]

/-- The dialects escape a text alike, apart from equals signs. -/
theorem equalsEscaped_escape (s : List Char) :
    EqualsEscaped (Dialect.v3.escape s) (Dialect.v4.escape s) := by
  induction s with
  | nil => exact .nil
  | cons c s ih => exact (equalsEscaped_escapeChar c).append ih

end Storefront
