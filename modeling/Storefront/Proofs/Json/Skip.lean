import Storefront.Proofs.Json.Object

/-!
# Values that nobody looks at

`IsValue` is the grammar of JSON values, of any depth, with white space wherever it may stand;
numbers may have any size, and escapes in strings need not make up characters. A value that nobody
looks at is skipped exactly to its end (`skipValue_isValue`).
-/

namespace Storefront.Json
open Text (isJsonBlank)

/-! ### Numerals -/

def IsDigits (ds : List Char) : Prop :=
  ds ≠ [] ∧ ∀ c ∈ ds, c.isDigit

instance (ds : List Char) : Decidable (IsDigits ds) :=
  decidable_of_iff (ds ≠ [] ∧ ds.all Char.isDigit = true)
    (and_congr_right fun _ => List.all_eq_true)

/-- The exponent part of a numeral, or nothing. -/
inductive IsExponent : List Char → Prop where
  | none : IsExponent []
  | some {e : Char} {sign ds : List Char} (he : e = 'e' ∨ e = 'E')
      (hsign : sign ∈ [[], ['+'], ['-']]) (hds : IsDigits ds) : IsExponent (e :: (sign ++ ds))

/-- A numeral without a minus sign. Only a zero may start with a zero. -/
inductive IsNumeral : List Char → Prop where
  | whole {ds x : List Char} (hds : IsDigits ds) (hzero : ds.head? = some '0' → ds = ['0'])
      (hx : IsExponent x) : IsNumeral (ds ++ x)
  | fraction {ds fs x : List Char} (hds : IsDigits ds) (hzero : ds.head? = some '0' → ds = ['0'])
      (hfs : IsDigits fs) (hx : IsExponent x) : IsNumeral (ds ++ '.' :: (fs ++ x))

theorem isEmpty_takeWhile_digits {ds rest : List Char} (hds : IsDigits ds)
    (hrest : EndsDigits rest) : ((ds ++ rest).takeWhile Char.isDigit).isEmpty = false := by
  rw [takeWhile_digits hds.2 hrest, List.isEmpty_eq_false_iff]
  exact hds.1

theorem skipExponentDigits_digits {ds rest : List Char} (hds : IsDigits ds)
    (hrest : EndsDigits rest) {sign : List Char} (hsign : sign ∈ [[], ['+'], ['-']]) :
    skipNumeral.skipExponentDigits (sign ++ (ds ++ rest)) = .ok rest := by
  have hskip : (if ((ds ++ rest).takeWhile Char.isDigit).isEmpty then .error .invalidNumber
      else .ok ((ds ++ rest).dropWhile Char.isDigit) : Except ReadError (List Char)) =
        .ok rest := by
    rw [isEmpty_takeWhile_digits hds hrest, dropWhile_digits hds.2 hrest]
    rfl
  simp only [List.mem_cons, List.not_mem_nil, or_false] at hsign
  rcases hsign with rfl | rfl | rfl
  · -- digits do not start with a sign
    obtain ⟨d, ds, rfl⟩ := List.exists_cons_of_ne_nil hds.1
    have hd : d.isDigit := hds.2 d List.mem_cons_self
    rw [List.nil_append]
    unfold skipNumeral.skipExponentDigits
    split
    · next h =>
      cases h
      exact absurd hd (by decide)
    · next h =>
      cases h
      exact absurd hd (by decide)
    · exact hskip
  · exact hskip
  · exact hskip

theorem IsExponent.endsDigits {x rest : List Char} (hx : IsExponent x) (hrest : EndsDigits rest) :
    EndsDigits (x ++ rest) := by
  cases hx with
  | none => exact hrest
  | some he =>
    rintro c ⟨⟩
    rcases he with rfl | rfl <;> decide

theorem skipExponent_isExponent {x rest : List Char} (hx : IsExponent x)
    (hrest : EndsNumeral rest) : skipNumeral.skipExponent (x ++ rest) = .ok rest := by
  cases hx with
  | none =>
    rw [List.nil_append]
    unfold skipNumeral.skipExponent
    split
    · exact absurd rfl (hrest 'e' rfl).2.2.1
    · exact absurd rfl (hrest 'E' rfl).2.2.2
    · rfl
  | some he hsign hds =>
    have hskip := skipExponentDigits_digits hds hrest.endsDigits hsign
    rw [List.cons_append, List.append_assoc]
    rcases he with rfl | rfl
    · exact hskip
    · exact hskip

variable {ds s rest : List Char}

theorem skipNumeral_whole (hds : IsDigits ds) (hzero : ds.head? = some '0' → ds = ['0'])
    (hs : EndsDigits s) (hpoint : s.head? ≠ some '.') :
    skipNumeral (ds ++ s) = skipNumeral.skipExponent s := by
  rw [skipNumeral, takeWhile_digits hds.2 hs, dropWhile_digits hds.2 hs]
  split
  · exact absurd rfl hds.1
  · next h => cases hzero rfl
  · split
    · exact absurd rfl hpoint
    · rfl

theorem skipNumeral_point (hds : IsDigits ds) (hzero : ds.head? = some '0' → ds = ['0'])
    {fs : List Char} (hfs : IsDigits fs) (hs : EndsDigits s) :
    skipNumeral (ds ++ '.' :: (fs ++ s)) = skipNumeral.skipExponent s := by
  have hpoint : EndsDigits ('.' :: (fs ++ s)) := by
    rintro c ⟨⟩
    decide
  rw [skipNumeral, takeWhile_digits hds.2 hpoint, dropWhile_digits hds.2 hpoint]
  split
  · exact absurd rfl hds.1
  · next h => cases hzero rfl
  · show (if ((fs ++ s).takeWhile Char.isDigit).isEmpty then _ else _) = _
    rw [isEmpty_takeWhile_digits hfs hs, dropWhile_digits hfs.2 hs]
    rfl

theorem skipNumeral_isNumeral (h : IsNumeral s) (hrest : EndsNumeral rest) :
    skipNumeral (s ++ rest) = .ok rest := by
  cases h with
  | @whole ds x hds hzero hx =>
    -- neither an exponent part nor the text behind a numeral starts with a point
    have hpoint : (x ++ rest).head? ≠ some '.' := by
      cases hx with
      | none => exact fun h => (hrest '.' h).2.1 rfl
      | some he => rcases he with rfl | rfl <;> simp
    rw [List.append_assoc, skipNumeral_whole hds hzero (hx.endsDigits hrest.endsDigits) hpoint]
    exact skipExponent_isExponent hx hrest
  | @fraction ds fs x hds hzero hfs hx =>
    rw [List.append_assoc, List.cons_append, List.append_assoc,
      skipNumeral_point hds hzero hfs (hx.endsDigits hrest.endsDigits)]
    exact skipExponent_isExponent hx hrest

/-! ### Values -/

/-- An item of an array as it is written, with the white space around it. -/
structure Item where
  before : List Char := []
  value : List Char
  after : List Char := []
  blanks : Blanks before ∧ Blanks after := by exact ⟨Blanks.nil, Blanks.nil⟩

def Item.text (i : Item) : List Char :=
  i.before ++ (i.value ++ i.after)

/-- The text of an array; `inside` is the white space in front of its closing bracket. -/
def arrayText (items : List Item) (inside : List Char) : List Char :=
  '[' :: ([','].intercalate (items.map Item.text) ++ (inside ++ [']']))

/-- The grammar of values. -/
inductive IsValue : List Char → Prop where
  | null : IsValue ['n', 'u', 'l', 'l']
  | boolTrue : IsValue ['t', 'r', 'u', 'e']
  | boolFalse : IsValue ['f', 'a', 'l', 's', 'e']
  | string {s : List Char} (h : IsInside s) : IsValue ('"' :: (s ++ ['"']))
  | number {s : List Char} (h : IsNumeral s) : IsValue s
  | negative {s : List Char} (h : IsNumeral s) : IsValue ('-' :: s)
  | array {items : List Item} {w : List Char} (h : ∀ i ∈ items, IsValue i.value) (hw : Blanks w) :
      IsValue (arrayText items w)
  | object {fields : List Field} {w : List Char} (hkeys : ∀ f ∈ fields, IsInside f.key)
      (h : ∀ f ∈ fields, IsValue f.value) (hw : Blanks w) : IsValue (objectText fields w)

/-- A value is skipped, with the white space before it, up to its end. -/
def Skips (skip : List Char → Except ReadError (List Char)) (v : List Char) : Prop :=
  ∀ w s, Blanks w → EndsNumeral s → skip (w ++ (v ++ s)) = .ok s

variable {skip : List Char → Except ReadError (List Char)} {w : List Char}

/-! ### Arrays and objects of values that are skipped -/

/-- The items after the first one, each behind a comma, and the end of the array. -/
def moreItems (items : List Item) (inside rest : List Char) : List Char :=
  items.flatMap (fun i => ',' :: i.text) ++ (inside ++ ']' :: rest)

theorem moreItems_cons (i : Item) (items : List Item) (inside rest : List Char) :
    moreItems (i :: items) inside rest =
      ',' :: (i.before ++ (i.value ++ (i.after ++ moreItems items inside rest))) := by
  rw [moreItems, List.flatMap_cons, moreItems, Item.text]
  simp only [List.append_assoc, List.cons_append]

theorem arrayText_nil (inside rest : List Char) :
    arrayText [] inside ++ rest = '[' :: (inside ++ ']' :: rest) := by
  simp [arrayText]

theorem arrayText_cons (i : Item) (items : List Item) (inside rest : List Char) :
    arrayText (i :: items) inside ++ rest =
      '[' :: (i.before ++ (i.value ++ (i.after ++ moreItems items inside rest))) := by
  rw [arrayText, List.map_cons, intercalate_comma, List.flatMap_map, moreItems, Item.text]
  simp only [List.append_assoc, List.cons_append, List.nil_append]

theorem length_lt_length_moreItems (items : List Item) (inside rest : List Char) :
    items.length < (moreItems items inside rest).length := by
  induction items with
  | nil =>
    simp only [moreItems, List.length_append, List.length_cons, List.length_nil]
    omega
  | cons i items ih =>
    rw [moreItems_cons]
    simp only [List.length_cons, List.length_append]
    omega

theorem endsNumeral_moreItems (items : List Item) (hw : Blanks w) (rest : List Char) :
    EndsNumeral (moreItems items w rest) := by
  cases items with
  | nil => exact .append hw (endsNumeral_bracket rest)
  | cons i items =>
    rw [moreItems_cons]
    exact endsNumeral_comma _

variable {before v s next rest : List Char} {fuel : Nat}

theorem skipItemsFrom_next (hv : Skips skip v) (hbefore : Blanks before) (hs : EndsNumeral s)
    (hnext : skipBlanks s = ',' :: next) :
    skipItemsFrom skip (fuel + 1) (before ++ (v ++ s)) = skipItemsFrom skip fuel next := by
  simp only [skipItemsFrom, hv before s hbefore hs, bind, Except.bind, hnext]

theorem skipItemsFrom_last (hv : Skips skip v) (hbefore : Blanks before) (hs : EndsNumeral s)
    (hend : skipBlanks s = ']' :: rest) :
    skipItemsFrom skip (fuel + 1) (before ++ (v ++ s)) = .ok rest := by
  simp only [skipItemsFrom, hv before s hbefore hs, bind, Except.bind, hend]

theorem skipItemsFrom_moreItems {i : Item} {items : List Item} (hbefore : Blanks before)
    (hi : Skips skip i.value) (hitems : ∀ j ∈ items, Skips skip j.value) (hw : Blanks w)
    (rest : List Char) (hfuel : items.length < fuel) :
    skipItemsFrom skip fuel (before ++ (i.value ++ (i.after ++ moreItems items w rest))) =
      .ok rest := by
  induction items generalizing i before fuel with
  | nil =>
    obtain ⟨fuel, rfl⟩ := Nat.exists_eq_add_one_of_ne_zero (Nat.ne_zero_of_lt hfuel)
    have hends := EndsNumeral.append i.blanks.2 (endsNumeral_moreItems [] hw rest)
    have hend : skipBlanks (i.after ++ moreItems [] w rest) = ']' :: rest := by
      rw [moreItems, List.flatMap_nil, List.nil_append, skipBlanks_append i.blanks.2,
        skipBlanks_append_cons hw rfl]
    exact skipItemsFrom_last hi hbefore hends hend
  | cons j more ih =>
    obtain ⟨fuel, rfl⟩ := Nat.exists_eq_add_one_of_ne_zero (Nat.ne_zero_of_lt hfuel)
    have hends := EndsNumeral.append i.blanks.2 (endsNumeral_moreItems (j :: more) hw rest)
    have hnext := skipBlanks_append_cons i.blanks.2 (show isJsonBlank ',' = false from rfl)
      (j.before ++ (j.value ++ (j.after ++ moreItems more w rest)))
    rw [← moreItems_cons] at hnext
    rw [skipItemsFrom_next hi hbefore hends (hnext.trans (moreItems_cons ..))]
    exact ih j.blanks.1 (hitems j List.mem_cons_self)
      (fun k hk => hitems k (List.mem_cons_of_mem j hk)) (Nat.lt_of_succ_lt_succ hfuel)

variable {f : Field}

theorem skipKey_field (hkey : IsInside f.key) (hbefore : Blanks before) (s : List Char) :
    skipKey (before ++ '"' :: f.fromQuote s) =
      .ok (f.afterColon ++ (f.value ++ (f.after ++ s))) := by
  rw [skipKey, skipBlanks_append_cons hbefore rfl, Field.fromQuote, Field.fromKey]
  show (skipString 0 _ >>= fun s => colon s >>= fun r => .ok r.2) = _
  rw [skipString_isInside hkey]
  dsimp only [bind, Except.bind]
  rw [colon_append f.blanks_parts.1.2]

theorem skip_fieldValue (hv : Skips skip f.value) (hs : EndsNumeral s) :
    skip (f.afterColon ++ (f.value ++ (f.after ++ s))) = .ok (f.after ++ s) :=
  hv _ _ f.blanks_parts.2.1 (.append f.blanks_parts.2.2 hs)

theorem skipFieldsFrom_next (hkey : IsInside f.key) (hv : Skips skip f.value)
    (hbefore : Blanks before) (hs : EndsNumeral s) (hnext : skipBlanks s = ',' :: next) :
    skipFieldsFrom skip (fuel + 1) (before ++ '"' :: f.fromQuote s) =
      skipFieldsFrom skip fuel next := by
  simp only [skipFieldsFrom, skipKey_field hkey hbefore, skip_fieldValue hv hs, bind, Except.bind,
    skipBlanks_append f.blanks_parts.2.2, hnext]

theorem skipFieldsFrom_last (hkey : IsInside f.key) (hv : Skips skip f.value)
    (hbefore : Blanks before) (hs : EndsNumeral s) (hend : skipBlanks s = '}' :: rest) :
    skipFieldsFrom skip (fuel + 1) (before ++ '"' :: f.fromQuote s) = .ok rest := by
  simp only [skipFieldsFrom, skipKey_field hkey hbefore, skip_fieldValue hv hs, bind, Except.bind,
    skipBlanks_append f.blanks_parts.2.2, hend]

theorem skipFieldsFrom_moreFields {fields : List Field} (hbefore : Blanks before)
    (hkeys : ∀ g ∈ f :: fields, IsInside g.key) (hvalues : ∀ g ∈ f :: fields, Skips skip g.value)
    (hw : Blanks w) (rest : List Char) (hfuel : fields.length < fuel) :
    skipFieldsFrom skip fuel (before ++ '"' :: f.fromQuote (moreFields fields w rest)) =
      .ok rest := by
  induction fields generalizing f before fuel with
  | nil =>
    obtain ⟨fuel, rfl⟩ := Nat.exists_eq_add_one_of_ne_zero (Nat.ne_zero_of_lt hfuel)
    have hend : skipBlanks (moreFields [] w rest) = '}' :: rest := by
      rw [moreFields, List.flatMap_nil, List.nil_append, skipBlanks_append_cons hw rfl]
    exact skipFieldsFrom_last (hkeys f List.mem_cons_self) (hvalues f List.mem_cons_self) hbefore
      (endsNumeral_moreFields [] hw rest) hend
  | cons g more ih =>
    obtain ⟨fuel, rfl⟩ := Nat.exists_eq_add_one_of_ne_zero (Nat.ne_zero_of_lt hfuel)
    have hnext := skipBlanks_cons (show isJsonBlank ',' = false from rfl)
      (g.before ++ '"' :: g.fromQuote (moreFields more w rest))
    rw [← moreFields_cons] at hnext
    rw [skipFieldsFrom_next (hkeys f List.mem_cons_self) (hvalues f List.mem_cons_self) hbefore
      (endsNumeral_moreFields (g :: more) hw rest) (hnext.trans (moreFields_cons ..))]
    exact ih g.blanks_parts.1.1 (fun k hk => hkeys k (List.mem_cons_of_mem f hk))
      (fun k hk => hvalues k (List.mem_cons_of_mem f hk)) (Nat.lt_of_succ_lt_succ hfuel)

/-! ### All values -/

theorem IsDigits.exists_cons {ds : List Char} (h : IsDigits ds) :
    ∃ d s, ds = d :: s ∧ d.isDigit := by
  obtain ⟨d, s, rfl⟩ := List.exists_cons_of_ne_nil h.1
  exact ⟨d, s, rfl, h.2 d List.mem_cons_self⟩

theorem IsNumeral.exists_cons {n : List Char} (h : IsNumeral n) :
    ∃ d s, n = d :: s ∧ d.isDigit := by
  cases h with
  | whole hds =>
    obtain ⟨d, s, rfl, hd⟩ := hds.exists_cons
    exact ⟨d, _, rfl, hd⟩
  | fraction hds =>
    obtain ⟨d, s, rfl, hd⟩ := hds.exists_cons
    exact ⟨d, _, rfl, hd⟩

theorem IsValue.exists_cons {v : List Char} (h : IsValue v) :
    ∃ c s, v = c :: s ∧ isJsonBlank c = false ∧ c ≠ ']' := by
  cases h with
  | number h =>
    obtain ⟨d, s, rfl, hd⟩ := h.exists_cons
    refine ⟨d, s, rfl, isJsonBlank_of_isDigit hd, ?_⟩
    rintro rfl
    exact absurd hd (by decide)
  | _ => exact ⟨_, _, rfl, rfl, by decide⟩

theorem length_le_intercalate {t : List Char} {texts : List (List Char)} (h : t ∈ texts) :
    t.length ≤ ([','].intercalate texts).length := by
  cases texts with
  | nil => cases h
  | cons u texts =>
    rw [intercalate_comma, List.length_append]
    rcases List.mem_cons.1 h with rfl | h
    · omega
    · obtain ⟨a, b, rfl⟩ := List.append_of_mem h
      simp only [List.flatMap_append, List.flatMap_cons, List.length_append, List.length_cons]
      omega

theorem length_lt_arrayText {i : Item} {items : List Item} (h : i ∈ items) (w : List Char) :
    i.value.length < (arrayText items w).length := by
  have htext := length_le_intercalate (List.mem_map_of_mem (f := Item.text) h)
  simp only [Item.text, List.length_append] at htext
  simp only [arrayText, List.length_cons, List.length_append]
  omega

theorem length_lt_objectText {f : Field} {fields : List Field} (h : f ∈ fields) (w : List Char) :
    f.value.length < (objectText fields w).length := by
  have htext := length_le_intercalate (List.mem_map_of_mem (f := Field.text) h)
  simp only [Field.text, Field.fromQuote, Field.fromKey, List.length_append,
    List.length_cons] at htext
  simp only [objectText, List.length_cons, List.length_append]
  omega

theorem skipValueWithin_numeral {n : List Char} (h : IsNumeral n) (depth : Nat) :
    Skips (skipValueWithin depth) n := by
  intro w s hw hs
  have hskip := skipNumeral_isNumeral h hs
  obtain ⟨d, t, rfl, hd⟩ := h.exists_cons
  rw [List.cons_append] at hskip ⊢
  unfold skipValueWithin
  rw [skipBlanks_append_cons hw (isJsonBlank_of_isDigit hd)]
  split
  -- no other value starts with a digit
  all_goals try (next h => cases h <;> exact absurd hd (by decide))
  next h =>
    cases h
    rw [if_pos hd]
    exact hskip

theorem skipValueWithin_bracket (depth : Nat) {s rest : List Char}
    (hs : skipBlanks s = '[' :: rest) :
    skipValueWithin (depth + 1) s = match skipBlanks rest with
      | [] => .error (.endOfText .list)
      | ']' :: rest => .ok rest
      | next => skipItemsFrom (skipValueWithin depth) next.length next := by
  rw [skipValueWithin, hs]
  rfl

theorem skipValueWithin_brace (depth : Nat) {s rest : List Char} (hs : skipBlanks s = '{' :: rest) :
    skipValueWithin (depth + 1) s = match skipBlanks rest with
      | [] => .error (.endOfText .object)
      | '}' :: rest => .ok rest
      | next => skipFieldsFrom (skipValueWithin depth) next.length next := by
  rw [skipValueWithin, hs]
  rfl

theorem skipValueWithin_array {depth : Nat} {items : List Item}
    (hvalues : ∀ i ∈ items, IsValue i.value)
    (hskips : ∀ i ∈ items, Skips (skipValueWithin depth) i.value) {inside : List Char}
    (hinside : Blanks inside) : Skips (skipValueWithin (depth + 1)) (arrayText items inside) := by
  intro w s hw hs
  cases items with
  | nil =>
    rw [arrayText_nil, skipValueWithin_bracket depth (skipBlanks_append_cons hw rfl _),
      skipBlanks_append_cons hinside rfl]
    rfl
  | cons i more =>
    obtain ⟨c, t, hvalue, hblank, hbracket⟩ := (hvalues i List.mem_cons_self).exists_cons
    have hnext : skipBlanks (i.before ++ (i.value ++ (i.after ++ moreItems more inside s))) =
        c :: (t ++ (i.after ++ moreItems more inside s)) := by
      rw [hvalue, List.cons_append, skipBlanks_append_cons i.blanks.1 hblank]
    have hlength : more.length < (c :: (t ++ (i.after ++ moreItems more inside s))).length := by
      have := length_lt_length_moreItems more inside s
      simp only [List.length_cons, List.length_append]
      omega
    have hskip := skipItemsFrom_moreItems (i := i) .nil (hskips i List.mem_cons_self)
      (fun j hj => hskips j (List.mem_cons_of_mem i hj)) hinside s hlength
    rw [List.nil_append, hvalue, List.cons_append] at hskip
    rw [arrayText_cons, skipValueWithin_bracket depth (skipBlanks_append_cons hw rfl _), hnext]
    split
    · next h => cases h
    · next h =>
      cases h
      exact absurd rfl hbracket
    · exact hskip

theorem skipValueWithin_object {depth : Nat} {fields : List Field}
    (hkeys : ∀ f ∈ fields, IsInside f.key)
    (hskips : ∀ f ∈ fields, Skips (skipValueWithin depth) f.value) {inside : List Char}
    (hinside : Blanks inside) : Skips (skipValueWithin (depth + 1)) (objectText fields inside) := by
  intro w s hw hs
  cases fields with
  | nil =>
    rw [objectText_nil, skipValueWithin_brace depth (skipBlanks_append_cons hw rfl _),
      skipBlanks_append_cons hinside rfl]
    rfl
  | cons f more =>
    have hnext : skipBlanks (f.before ++ '"' :: f.fromQuote (moreFields more inside s)) =
        '"' :: f.fromQuote (moreFields more inside s) :=
      skipBlanks_append_cons f.blanks_parts.1.1 rfl _
    have hlength : more.length < ('"' :: f.fromQuote (moreFields more inside s)).length := by
      have := length_lt_length_moreFields more inside s
      simp only [Field.fromQuote, Field.fromKey, List.length_cons, List.length_append]
      omega
    have hskip := skipFieldsFrom_moreFields Blanks.nil hkeys hskips hinside s hlength
    rw [objectText_cons, skipValueWithin_brace depth (skipBlanks_append_cons hw rfl _), hnext]
    exact hskip

/-- A value is skipped if its text is no longer than the depth that is allowed. -/
theorem IsValue.skips {v : List Char} (h : IsValue v) {depth : Nat} (hdepth : v.length ≤ depth) :
    Skips (skipValueWithin depth) v := by
  -- what an array or an object holds is shorter than its text by the two brackets at least
  induction h generalizing depth with
  | null | boolTrue | boolFalse =>
    intro w s hw hs
    unfold skipValueWithin
    rw [List.cons_append, skipBlanks_append_cons hw rfl]
    rfl
  | string h =>
    intro w s hw hs
    unfold skipValueWithin
    rw [List.cons_append, skipBlanks_append_cons hw rfl, List.append_assoc]
    exact skipString_isInside h s
  | number h => exact skipValueWithin_numeral h depth
  | negative h =>
    intro w s hw hs
    unfold skipValueWithin
    rw [List.cons_append, skipBlanks_append_cons hw rfl]
    exact skipNumeral_isNumeral h hs
  | @array items inside h hinside ih =>
    obtain ⟨depth, rfl⟩ := Nat.exists_eq_add_one_of_ne_zero
      (Nat.ne_zero_of_lt (Nat.lt_of_lt_of_le (Nat.zero_lt_succ _) hdepth))
    refine skipValueWithin_array h (fun i hi => ih i hi ?_) hinside
    have := length_lt_arrayText hi inside
    omega
  | @object fields inside hkeys h hinside ih =>
    obtain ⟨depth, rfl⟩ := Nat.exists_eq_add_one_of_ne_zero
      (Nat.ne_zero_of_lt (Nat.lt_of_lt_of_le (Nat.zero_lt_succ _) hdepth))
    refine skipValueWithin_object hkeys (fun f hf => ih f hf ?_) hinside
    have := length_lt_objectText hf inside
    omega

theorem skipValue_isValue {v : List Char} (h : IsValue v) : Skips skipValue v := by
  intro w s hw hs
  refine h.skips ?_ w s hw hs
  simp only [List.length_append]
  omega

end Storefront.Json
