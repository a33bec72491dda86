import Mathlib.Data.List.Infix
import Storefront.Proofs.Number.Text

/-!
# Where a script would end

A script in a page ends at the first `</script`, in whatever case its letters are. JSON escapes none
of these characters and writes the less-than sign nowhere but in string literals, so a literal
closes a script if and only if its text does (`closesScript_literal_append`), and a value does if
and only if one of its strings does (`closesScript_write_append`).
-/

namespace Storefront

namespace Text

/-- What ends a script. -/
def scriptEnd : List Char := ['<', '/', 's', 'c', 'r', 'i', 'p', 't']

/-- The text has in it what ends a script, in any case. -/
def ClosesScript (s : List Char) : Prop :=
  scriptEnd <:+: s.map Char.toLower

instance : DecidablePred ClosesScript := fun s =>
  inferInstanceAs (Decidable (scriptEnd <:+: s.map Char.toLower))

variable {a s : List Char} {c : Char}

theorem toLower_cases (c : Char) : c.toLower = c ∨
    (65 ≤ c.toNat ∧ c.toNat ≤ 90) ∧ c.toLower.toNat = c.toNat + 32 := by
  unfold Char.toLower
  split
  · next hrange =>
    have hlow : 65 ≤ c.toNat := UInt32.le_iff_toNat_le.1 hrange.1
    have hhigh : c.toNat ≤ 90 := UInt32.le_iff_toNat_le.1 hrange.2
    refine .inr ⟨⟨hlow, hhigh⟩, ?_⟩
    show (c.toNat + 32) % 2 ^ 32 = c.toNat + 32
    exact Nat.mod_eq_of_lt (by omega)
  · exact .inl rfl

theorem toLower_ne_lt (h : c ≠ '<') : c.toLower ≠ '<' := by
  intro heq
  rcases toLower_cases c with hsame | ⟨hrange, hsum⟩
  · exact h (hsame.symm.trans heq)
  · have hlt : ('<').toNat = 60 := rfl
    rw [heq] at hsum
    omega

theorem toLower_not_mem_scriptEnd (h : c.toNat < 0x20) : c.toLower ∉ scriptEnd := by
  have hshown : ∀ d ∈ scriptEnd, 0x20 ≤ d.toNat := by simp [scriptEnd]
  rcases toLower_cases c with hsame | ⟨hrange, -⟩
  · intro hmem
    rw [hsame] at hmem
    have := hshown c hmem
    omega
  · omega

theorem closesScript_cons :
    ClosesScript (c :: s) ↔ scriptEnd <+: (c :: s).map Char.toLower ∨ ClosesScript s := by
  unfold ClosesScript
  rw [List.map_cons, List.infix_cons_iff]

theorem closesScript_cons_of_ne (h : c ≠ '<') : ClosesScript (c :: s) ↔ ClosesScript s := by
  have hstart : ¬scriptEnd <+: (c :: s).map Char.toLower := by
    intro hprefix
    rw [List.map_cons] at hprefix
    exact toLower_ne_lt h (List.cons_prefix_cons.1 hprefix).1.symm
  rw [closesScript_cons, or_iff_right hstart]

theorem closesScript_append_of_not_mem (h : '<' ∉ a) :
    ClosesScript (a ++ s) ↔ ClosesScript s := by
  induction a with
  | nil => rfl
  | cons c a ih =>
    have hc : c ≠ '<' := (List.ne_of_not_mem_cons h).symm
    rw [List.cons_append, closesScript_cons_of_ne hc, ih (List.not_mem_of_not_mem_cons h)]

end Text

namespace Json

open Text

/-! ### Literals -/

theorem hexDigit_ne_lt (n : Nat) : hexDigit n ≠ '<' := by
  have key : ∀ n < 16, hexDigit n ≠ '<' := by decide
  rw [hexDigit_mod]
  exact key (n % 16) (Nat.mod_lt n (by decide))

/-- Inside a literal a character stands for itself, or neither it nor its escape has to do with the
end of a script. -/
theorem escapeChar_cases (c : Char) : escapeChar c = [c] ∨
    c.toLower ∉ scriptEnd ∧ ∃ r, escapeChar c = '\\' :: r ∧ '<' ∉ r := by
  unfold escapeChar
  split
  · subst c; exact .inr ⟨by decide, _, rfl, by decide⟩
  split
  · subst c; exact .inr ⟨by decide, _, rfl, by decide⟩
  split
  · subst c; exact .inr ⟨by decide, _, rfl, by decide⟩
  split
  · subst c; exact .inr ⟨by decide, _, rfl, by decide⟩
  split
  · subst c; exact .inr ⟨by decide, _, rfl, by decide⟩
  split
  · subst c; exact .inr ⟨by decide, _, rfl, by decide⟩
  split
  · subst c; exact .inr ⟨by decide, _, rfl, by decide⟩
  split
  · refine .inr ⟨toLower_not_mem_scriptEnd ‹_›, _, rfl, ?_⟩
    simp [(hexDigit_ne_lt _).symm]
  · exact .inl rfl

/-- A literal begins like its text, as far as the end of a script goes. -/
theorem prefix_escaped_iff {p : List Char} (hp : p ⊆ scriptEnd) (s t : List Char) :
    p <+: (s.flatMap escapeChar ++ '"' :: t).map Char.toLower ↔ p <+: s.map Char.toLower := by
  cases p with
  | nil => simp
  | cons d p =>
    have hd : d ∈ scriptEnd := hp List.mem_cons_self
    have hp' : p ⊆ scriptEnd := fun e he => hp (List.mem_cons_of_mem d he)
    cases s with
    | nil =>
      have hquote : d ≠ '"' := by
        rintro rfl
        exact absurd hd (by decide)
      have hlower : ('"').toLower = '"' := by decide
      simp [List.cons_prefix_cons, hlower, hquote]
    | cons c s =>
      rw [List.flatMap_cons, List.map_cons, List.cons_prefix_cons]
      rcases escapeChar_cases c with hsame | ⟨hc, r, hescape, -⟩
      · rw [hsame, List.singleton_append, List.cons_append, List.map_cons, List.cons_prefix_cons,
          prefix_escaped_iff hp' s t]
      · have hslash : d ≠ '\\' := by
          rintro rfl
          exact absurd hd (by decide)
        have hlower : ('\\').toLower = '\\' := by decide
        have hchar : d ≠ c.toLower := by
          rintro rfl
          exact hc hd
        simp [hescape, List.cons_prefix_cons, hlower, hslash, hchar]

theorem closesScript_literal_append (s t : List Char) :
    ClosesScript (literal s ++ t) ↔ ClosesScript s ∨ ClosesScript t := by
  rw [literal_append, closesScript_cons_of_ne (by decide)]
  induction s with
  | nil =>
    have hnil : ¬ClosesScript [] := by decide
    rw [or_iff_right hnil]
    exact closesScript_cons_of_ne (by decide)
  | cons c s ih =>
    rcases escapeChar_cases c with hsame | ⟨hc, r, hescape, hr⟩
    · have hstart := prefix_escaped_iff (List.Subset.refl scriptEnd) (c :: s) t
      rw [List.flatMap_cons, hsame, List.singleton_append, List.cons_append] at hstart ⊢
      rw [closesScript_cons, hstart, ih, closesScript_cons, or_assoc]
    · have hlt : c ≠ '<' := by
        rintro rfl
        exact hc (by decide)
      have hpiece : '<' ∉ '\\' :: r := List.not_mem_cons_of_ne_of_not_mem (by decide) hr
      rw [List.flatMap_cons, hescape, List.append_assoc, closesScript_append_of_not_mem hpiece, ih,
        closesScript_cons_of_ne hlt]

/-! ### Values -/

namespace Value

mutual

/-- The strings of a value at any depth, the keys of its objects among them. -/
def strings : Value → List String
  | null => []
  | bool _ => []
  | number _ => []
  | string s => [s]
  | array items => stringsItems items
  | object fields => stringsFields fields

def stringsItems : List Value → List String
  | [] => []
  | v :: vs => v.strings ++ stringsItems vs

def stringsFields : List (String × Value) → List String
  | [] => []
  | (k, v) :: fs => k :: (v.strings ++ stringsFields fs)

end

theorem mem_stringsFields {t : String} {fields : List (String × Value)} :
    t ∈ stringsFields fields ↔ ∃ e ∈ fields, t = e.1 ∨ t ∈ e.2.strings := by
  induction fields with
  | nil => simp [stringsFields]
  | cons e fields ih =>
    rw [stringsFields, List.mem_cons, List.mem_append, ih, List.exists_mem_cons_iff, or_assoc]

end Value

/-- One of the strings has in it what ends a script. -/
def SomeCloses (ts : List String) : Prop :=
  ∃ t ∈ ts, ClosesScript t.toList

theorem not_someCloses_nil : ¬SomeCloses [] :=
  nofun

theorem someCloses_cons {t : String} {ts : List String} :
    SomeCloses (t :: ts) ↔ ClosesScript t.toList ∨ SomeCloses ts :=
  List.exists_mem_cons_iff ..

theorem someCloses_append {ts us : List String} :
    SomeCloses (ts ++ us) ↔ SomeCloses ts ∨ SomeCloses us := by
  simp only [SomeCloses, List.mem_append, or_and_right, exists_or]

theorem closesScript_plain_append {a r : List Char} (h : '<' ∉ a) :
    ClosesScript (a ++ r) ↔ SomeCloses [] ∨ ClosesScript r := by
  rw [closesScript_append_of_not_mem h, or_iff_right not_someCloses_nil]

theorem not_mem_text (n : Number) : '<' ∉ n.text := by
  intro h
  rcases n.isNumeric_text h with h | h
  · exact absurd h (by decide)
  · exact absurd h (by decide)

mutual

/-- What is written for a value closes a script if and only if one of its strings does, whatever
stands behind it. -/
theorem closesScript_write_append (v : Value) (r : List Char) :
    ClosesScript (v.write ++ r) ↔ SomeCloses v.strings ∨ ClosesScript r := by
  match v with
  | .null => exact closesScript_plain_append (by decide)
  | .bool true => exact closesScript_plain_append (by decide)
  | .bool false => exact closesScript_plain_append (by decide)
  | .number n => exact closesScript_plain_append (not_mem_text n)
  | .string s =>
    rw [Value.write, closesScript_literal_append, Value.strings, someCloses_cons,
      or_iff_left not_someCloses_nil]
  | .array items =>
    rw [Value.write, List.cons_append, closesScript_cons_of_ne (by decide), List.append_assoc,
      closesScript_writeItems_append items, List.singleton_append,
      closesScript_cons_of_ne (by decide), Value.strings]
  | .object fields =>
    rw [Value.write, List.cons_append, closesScript_cons_of_ne (by decide), List.append_assoc,
      closesScript_writeFields_append fields, List.singleton_append,
      closesScript_cons_of_ne (by decide), Value.strings]

theorem closesScript_writeItems_append (items : List Value) (r : List Char) :
    ClosesScript (Value.writeItems items ++ r) ↔
      SomeCloses (Value.stringsItems items) ∨ ClosesScript r := by
  match items with
  | [] => exact closesScript_plain_append (by decide)
  | [v] =>
    rw [Value.writeItems, closesScript_write_append v, Value.stringsItems, Value.stringsItems,
      List.append_nil]
  | v :: w :: rest =>
    rw [Value.stringsItems, someCloses_append, or_assoc, Value.writeItems, List.append_assoc,
      closesScript_write_append v, List.cons_append, closesScript_cons_of_ne (by decide),
      closesScript_writeItems_append (w :: rest)]

theorem closesScript_writeFields_append (fields : List (String × Value)) (r : List Char) :
    ClosesScript (Value.writeFields fields ++ r) ↔
      SomeCloses (Value.stringsFields fields) ∨ ClosesScript r := by
  match fields with
  | [] => exact closesScript_plain_append (by decide)
  | [(k, v)] =>
    rw [Value.writeFields, List.append_assoc, closesScript_literal_append, List.cons_append,
      closesScript_cons_of_ne (by decide), closesScript_write_append v, Value.stringsFields,
      Value.stringsFields, List.append_nil, someCloses_cons, or_assoc]
  | (k, v) :: f :: rest =>
    rw [Value.stringsFields, someCloses_cons, someCloses_append, or_assoc, or_assoc,
      Value.writeFields, List.append_assoc, closesScript_literal_append, List.cons_append,
      closesScript_cons_of_ne (by decide), List.append_assoc, closesScript_write_append v,
      List.cons_append, closesScript_cons_of_ne (by decide),
      closesScript_writeFields_append (f :: rest)]

end

end Json

end Storefront
