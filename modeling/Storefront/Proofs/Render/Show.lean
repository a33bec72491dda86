import Storefront.Render.Show

/-!
# Two texts of one value

What a tag writes for a value and what stands for it in running text are written by two printers.
They agree on strings, null, truth values and numbers. An array is the same in both if it holds at
most one item, and that item is written alike inside of it (`agrees`): otherwise a comma without a
space, a quote, a null or a brace tells the JSON text from what the tag writes. No later part of the
two texts can make up for such a difference (`write_append_ne`), so that the values on which the
printers agree are known exactly (`toText_eq_iff`).
-/

namespace Storefront.Json

/-! ### Strings -/

/-- The characters that a literal escapes by a backslash and themselves. -/
def isQuoting (c : Char) : Bool :=
  c == '"' || c == '\\'

/-- What can follow an item of an array. -/
def EndsItem (s : List Char) : Prop :=
  s.head? = some ',' ∨ s.head? = some ']'

variable {r r' : List Char}

theorem EndsItem.exists_cons (h : EndsItem r) : ∃ c s, r = c :: s ∧ (c = ',' ∨ c = ']') := by
  cases r with
  | nil => rcases h with h | h <;> cases h
  | cons c s =>
    refine ⟨c, s, rfl, ?_⟩
    rcases h with h | h
    · exact .inl (Option.some.inj h)
    · exact .inr (Option.some.inj h)

theorem length_takeWhile_escaped (s r : List Char) :
    (s.takeWhile isQuoting).length ≤ ((s.flatMap escapeChar ++ r).takeWhile isQuoting).length := by
  induction s with
  | nil => exact Nat.zero_le _
  | cons c s ih =>
    by_cases hc : isQuoting c
    · have hescape : escapeChar c = ['\\', c] := by
        rcases (by simpa [isQuoting] using hc : c = '"' ∨ c = '\\') with rfl | rfl <;> decide
      have hslash : isQuoting '\\' := by decide
      simp only [List.flatMap_cons, hescape, List.cons_append, List.nil_append,
        List.takeWhile_cons_of_pos hc, List.takeWhile_cons_of_pos hslash, List.length_cons]
      omega
    · rw [List.takeWhile_cons_of_neg hc]
      exact Nat.zero_le _

/-- The literal of a text starts with more quotes and backslashes than the text. -/
theorem literal_append_ne (s : List Char) (hr : EndsItem r') : literal s ++ r ≠ s ++ r' := by
  intro heq
  obtain ⟨c, t, rfl, hc⟩ := hr.exists_cons
  have hstop : ¬ isQuoting c := by
    rcases hc with rfl | rfl <;> decide
  have hshown : (s ++ c :: t).takeWhile isQuoting = s.takeWhile isQuoting := by
    rw [List.takeWhile_append, List.takeWhile_cons_of_neg hstop, List.append_nil]
    split
    · next hall => exact ((List.takeWhile_prefix isQuoting).eq_of_length hall).symm
    · rfl
  have hquote : isQuoting '"' := by decide
  have hlength := length_takeWhile_escaped s ('"' :: r)
  have htake := congrArg (fun u => (u.takeWhile isQuoting).length) heq
  simp only [literal, List.cons_append, List.append_assoc, List.nil_append, hshown,
    List.takeWhile_cons_of_pos hquote, List.length_cons] at htake
  omega

/-! ### Values inside of an array -/

theorem head?_of_append_eq {c : Char} {s : List Char} (h : s ++ r = c :: (s ++ r')) :
    r.head? = some c := by
  induction s generalizing c with
  | nil => rw [List.nil_append] at h; rw [h]; rfl
  | cons a s ih =>
    obtain ⟨rfl, htail⟩ := List.cons.inj h
    exact ih htail

namespace Value

mutual

/-- Inside of an array, a tag writes the value as it stands in JSON. -/
def agrees : Value → Bool
  | bool _ | number _ => true
  | array items => agreesItems items
  | null | string _ | object _ => false

/-- A tag writes the items as they stand in JSON. -/
def agreesItems : List Value → Bool
  | [] => true
  | [v] => agrees v
  | _ :: _ :: _ => false

end

/-! What the two printers do with arrays and objects. -/

theorem shown_array (items : List Value) :
    (array items).shown = '[' :: (shownItems items ++ [']']) :=
  rfl

theorem shown_object (fields : Table Value) : (object fields).shown = "[object]".toList :=
  rfl

theorem writeItems_cons (v w : Value) (items : List Value) (r : List Char) :
    writeItems (v :: w :: items) ++ r = v.write ++ ',' :: (writeItems (w :: items) ++ r) :=
  List.append_assoc ..

theorem shownItems_cons (v w : Value) (items : List Value) (r : List Char) :
    shownItems (v :: w :: items) ++ r = v.shown ++ ',' :: ' ' :: (shownItems (w :: items) ++ r) :=
  List.append_assoc ..

mutual

theorem shown_eq_write : ∀ {v : Value}, v.agrees → v.shown = v.write
  | bool true, _ => rfl
  | bool false, _ => rfl
  | number _, _ => rfl
  | array items, h => by
    rw [agrees] at h
    rw [shown_array, write, shownItems_eq_writeItems h]
  | null, h | string _, h | object _, h => by simp [agrees] at h

theorem shownItems_eq_writeItems : ∀ {items : List Value}, agreesItems items →
    shownItems items = writeItems items
  | [], _ => rfl
  | [v], h => by
    rw [agreesItems] at h
    exact shown_eq_write h
  | _ :: _ :: _, h => by simp [agreesItems] at h

end

/-- What is written for a value does not start with a space in front of what a tag writes. -/
theorem write_append_ne_space (v : Value) (hr : EndsItem r) :
    v.write ++ r ≠ ' ' :: (v.shown ++ r') := by
  cases v with
  | bool b => cases b <;> simp [write]
  | number n =>
    intro heq
    have hspace := head?_of_append_eq heq
    rw [EndsItem, hspace] at hr
    revert hr
    decide
  | _ => simp [write, literal]

theorem exists_writeItems (v : Value) (items : List Value) (r : List Char) :
    ∃ s, writeItems (v :: items) ++ ']' :: r = v.write ++ s ∧ EndsItem s := by
  cases items with
  | nil => exact ⟨_, rfl, .inr rfl⟩
  | cons w items => exact ⟨_, writeItems_cons .., .inl rfl⟩

theorem exists_shownItems (v : Value) (items : List Value) (r : List Char) :
    ∃ s, shownItems (v :: items) ++ r = v.shown ++ s := by
  cases items with
  | nil => exact ⟨_, rfl⟩
  | cons w items => exact ⟨_, shownItems_cons ..⟩

mutual

/-- Where the two texts of a value differ, nothing behind them makes up for it. -/
theorem write_append_ne : ∀ {v : Value}, v.agrees = false → ∀ (r : List Char) {r' : List Char},
    EndsItem r' → v.write ++ r ≠ v.shown ++ r'
  | null, _, r, r', hr => by
    obtain ⟨c, s, rfl, rfl | rfl⟩ := hr.exists_cons
    · exact fun heq => absurd (List.cons.inj heq).1 (by decide)
    · exact fun heq => absurd (List.cons.inj heq).1 (by decide)
  | string s, _, r, r', hr => literal_append_ne s.toList hr
  | array items, h, r, r', _ => by
    rw [agrees] at h
    have hitems := writeItems_append_ne h r r'
    simpa [write, shown_array] using hitems
  | object fields, _, r, r', _ => by simp [write, shown_object]
  | bool _, h, _, _, _ | number _, h, _, _, _ => by simp [agrees] at h

theorem writeItems_append_ne : ∀ {items : List Value}, agreesItems items = false →
    ∀ r r' : List Char, writeItems items ++ ']' :: r ≠ shownItems items ++ ']' :: r'
  | [], h, _, _ => by simp [agreesItems] at h
  | [v], h, r, r' => by
    rw [agreesItems] at h
    exact write_append_ne h _ (.inr rfl)
  | v :: w :: rest, _, r, r' => by
    rw [writeItems_cons, shownItems_cons]
    cases hv : v.agrees with
    | false => exact write_append_ne hv _ (.inl rfl)
    | true =>
      -- the items are the same up to the space behind the comma
      obtain ⟨s, hs, hends⟩ := exists_writeItems w rest r
      obtain ⟨s', hs'⟩ := exists_shownItems w rest (']' :: r')
      rw [shown_eq_write hv, hs, hs']
      intro heq
      exact write_append_ne_space w hends (List.cons.inj (List.append_cancel_left heq)).2

end

/-! ### Values in a text -/

theorem write_eq_shown_iff (v : Value) : v.write = v.shown ↔ v.agrees := by
  constructor
  · intro heq
    cases hv : v.agrees with
    | true => rfl
    | false => exact absurd (congrArg (· ++ [',']) heq) (write_append_ne hv [','] (.inl rfl))
  · exact fun h => (shown_eq_write h).symm

/-- A tag writes the value as it stands in running text. -/
def printsAlike : Value → Bool
  | null | string _ => true
  | v => v.agrees

theorem toText_eq_iff (v : Value) : v.toText = String.ofList v.shown ↔ v.printsAlike := by
  have hjson : v.toJson = String.ofList v.shown ↔ v.agrees := by
    rw [toJson, String.ofList_inj, write_eq_shown_iff]
  cases v with
  | null => exact ⟨fun _ => rfl, fun _ => rfl⟩
  | string s => exact ⟨fun _ => rfl, fun _ => (String.ofList_toList).symm⟩
  | _ => exact hjson

end Value

end Storefront.Json
