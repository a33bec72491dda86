import Storefront.Proofs.Json.Skip
import Storefront.Proofs.Table
import Mathlib.Data.List.Forall2

/-!
# Values read back

An array is read item by item, whatever the white space in it (`items_arrayText`), as an object is
read field by field. So a value without floating point numbers is read from the text that is written
for it, by every reader that lets it nest deep enough (`IsExact.denotes`).
-/

namespace Storefront.Json
open Text (isJsonBlank)

/-! ### Items of an array -/

/-- The reader takes `v`, with the white space before it, as `a`. Like every value, `v` starts
neither with white space nor with the end of an array. -/
structure Yields {α : Type} (item : Reader α) (v : List Char) (a : α) : Prop where
  starts : ∃ c s, v = c :: s ∧ isJsonBlank c = false ∧ c ≠ ']'
  read : ∀ w s, Blanks w → EndsNumeral s → item (w ++ (v ++ s)) = .ok (a, s)

section
variable {α : Type} {item : Reader α} {a : α} {as : List α} {w : List Char}

theorem afterItem_end (hw : Blanks w) (rest : List Char) :
    afterItem (w ++ ']' :: rest) = .ok (none, rest) := by
  rw [afterItem, skipBlanks_append_cons hw rfl]
  rfl

theorem Yields.afterItem {v : List Char} (h : Yields item v a) (hw : Blanks w) {w' : List Char}
    (hw' : Blanks w') (s : List Char) :
    afterItem (w ++ ',' :: (w' ++ (v ++ s))) = .ok (some (v ++ s), []) := by
  obtain ⟨c, t, rfl, hblank, hbracket⟩ := h.starts
  rw [List.cons_append, Json.afterItem, skipBlanks_append_cons hw rfl]
  dsimp only
  rw [if_neg (by decide), if_pos rfl, skipBlanks_append_cons hw' hblank]
  dsimp only
  rw [if_neg hbracket]

theorem itemsFrom_next {s r next : List Char} {fuel : Nat} (hitem : item s = .ok (a, r))
    (hnext : afterItem r = .ok (some next, [])) :
    itemsFrom item (fuel + 1) s = (itemsFrom item fuel next).map fun x => (a :: x.1, x.2) := by
  simp only [itemsFrom, hitem, hnext, bind, Except.bind]
  cases itemsFrom item fuel next <;> rfl

theorem itemsFrom_last {s r rest : List Char} {fuel : Nat} (hitem : item s = .ok (a, r))
    (hend : afterItem r = .ok (none, rest)) : itemsFrom item (fuel + 1) s = .ok ([a], rest) := by
  simp only [itemsFrom, hitem, hend, bind, Except.bind]

theorem itemsFrom_moreItems {i : Item} {items : List Item} (hi : Yields item i.value a)
    (hitems : List.Forall₂ (fun j b => Yields item j.value b) items as) (hw : Blanks w)
    (rest : List Char) {fuel : Nat} (hfuel : items.length < fuel) :
    itemsFrom item fuel (i.value ++ (i.after ++ moreItems items w rest)) = .ok (a :: as, rest) := by
  -- on the items that follow `i`; each takes one unit of fuel
  induction hitems generalizing a i fuel with
  | nil =>
    obtain ⟨fuel, rfl⟩ := Nat.exists_eq_add_one_of_ne_zero (Nat.ne_zero_of_lt hfuel)
    have hread := hi.read [] _ .nil (.append i.blanks.2 (endsNumeral_moreItems [] hw rest))
    have hend := afterItem_end (blanks_append.2 ⟨i.blanks.2, hw⟩) rest
    rw [List.append_assoc] at hend
    exact itemsFrom_last hread hend
  | @cons j b more bs hj _ ih =>
    obtain ⟨fuel, rfl⟩ := Nat.exists_eq_add_one_of_ne_zero (Nat.ne_zero_of_lt hfuel)
    have hread := hi.read [] _ .nil (.append i.blanks.2 (endsNumeral_moreItems (j :: more) hw rest))
    have hnext := hj.afterItem i.blanks.2 j.blanks.1 (j.after ++ moreItems more w rest)
    rw [← moreItems_cons] at hnext
    have hmore := ih hj (Nat.lt_of_succ_lt_succ hfuel)
    rw [List.nil_append] at hread
    rw [itemsFrom_next hread hnext, hmore]
    rfl

theorem items_arrayText {items : List Item}
    (h : List.Forall₂ (fun i a => Yields item i.value a) items as) (hw : Blanks w)
    (rest : List Char) :
    ∃ s, arrayText items w ++ rest = '[' :: s ∧ Json.items item s = .ok (as, rest) := by
  cases h with
  | nil =>
    refine ⟨_, arrayText_nil w rest, ?_⟩
    rw [Json.items, skipBlanks_append_cons hw rfl]
    rfl
  | @cons i a more as hi hmore =>
    refine ⟨_, arrayText_cons i more w rest, ?_⟩
    obtain ⟨c, t, hvalue, hblank, hbracket⟩ := hi.starts
    have hlength : more.length <
        (i.before ++ (i.value ++ (i.after ++ moreItems more w rest))).length := by
      have := length_lt_length_moreItems more w rest
      simp only [List.length_append]
      omega
    have hread := itemsFrom_moreItems hi hmore hw rest hlength
    have hskip : skipBlanks (i.before ++ (i.value ++ (i.after ++ moreItems more w rest))) =
        c :: (t ++ (i.after ++ moreItems more w rest)) := by
      rw [hvalue, List.cons_append, skipBlanks_append_cons i.blanks.1 hblank]
    rw [Json.items, hskip]
    dsimp only
    rw [if_neg hbracket, ← List.cons_append, ← hvalue, hread]

end

/-! ### Whole numbers -/

theorem ofWholeDigits_negative {n : Integer} {m : Nat} (hn : n.val = -((m : Int) + 1)) :
    ofWholeDigits true (Nat.toDigits 10 (m + 1)) = .ok (.whole n) := by
  have hint : Integer.ofInt? (-((m + 1 : Nat) : Int)) = some n := by
    rw [Int.natCast_add, Int.natCast_one, ← hn, Integer.ofInt?_val]
  rw [ofWholeDigits, digitsValue_toDigits, if_pos rfl, hint]
  rfl

section
variable {m : Nat}

theorem text_ofNat (lower : -0x8000000000000000 ≤ Int.ofNat m)
    (upper : Int.ofNat m < 0x10000000000000000) :
    (Number.whole ⟨.ofNat m, lower, upper⟩).text = Nat.toDigits 10 m :=
  Nat.toList_repr

theorem text_negSucc (lower : -0x8000000000000000 ≤ Int.negSucc m)
    (upper : Int.negSucc m < 0x10000000000000000) :
    (Number.whole ⟨.negSucc m, lower, upper⟩).text = '-' :: Nat.toDigits 10 (m + 1) := by
  show ("-" ++ (m + 1).repr).toList = _
  rw [String.toList_append, Nat.toList_repr]
  rfl

end

theorem number_text (n : Integer) {rest : List Char} (hrest : EndsNumeral rest) :
    number ((Number.whole n).text ++ rest) = .ok (.whole n, rest) := by
  obtain ⟨val, lower, upper⟩ := n
  cases val with
  | ofNat m =>
    rw [text_ofNat]
    exact number_toDigits (Int.ofNat_lt.1 upper) hrest
  | negSucc m =>
    have hdigits := ofWholeDigits_negative (n := ⟨.negSucc m, lower, upper⟩) (Int.negSucc_eq m)
    rw [text_negSucc, List.cons_append]
    show numeral true _ = _
    rw [numeral_toDigits true (m + 1) hrest, hdigits]
    rfl

theorem text_whole_eq_cons (n : Integer) :
    ∃ c s, (Number.whole n).text = c :: s ∧ (c = '-' ∨ c.isDigit) := by
  obtain ⟨val, lower, upper⟩ := n
  cases val with
  | ofNat m =>
    obtain ⟨d, ds, hd, hdigit⟩ := toDigits_eq_cons m
    exact ⟨d, ds, (text_ofNat lower upper).trans hd, .inr hdigit⟩
  | negSucc m => exact ⟨'-', _, text_negSucc lower upper, .inl rfl⟩

/-! ### All values -/

/-- A value of which writing loses nothing: it has no floating point numbers in it, and all its
objects list their keys in order, as tables do. -/
inductive IsExact : Value → Prop where
  | null : IsExact .null
  | bool (b : Bool) : IsExact (.bool b)
  | whole (n : Integer) : IsExact (.number (.whole n))
  | string (s : String) : IsExact (.string s)
  | array {items : List Value} (h : ∀ v ∈ items, IsExact v) : IsExact (.array items)
  | object {fields : Table Value} (hsorted : fields.Sorted) (h : ∀ e ∈ fields, IsExact e.2) :
      IsExact (.object fields)

/-- The item of a value as it is written. -/
def Item.ofValue (v : Value) : Item where
  value := v.write

/-- The field of a key and a value as it is written. -/
def Field.ofEntry (e : String × Value) : Field where
  key := e.1.toList.flatMap escapeChar
  value := e.2.write

theorem writeItems_eq (items : List Value) :
    Value.writeItems items = [','].intercalate (items.map Value.write) := by
  match items with
  | [] => rfl
  | [v] => rw [Value.writeItems, List.map_singleton, List.intercalate_singleton]
  | v :: u :: rest =>
    rw [Value.writeItems, writeItems_eq (u :: rest)]
    simp only [List.map_cons, List.intercalate_cons_cons, List.append_assoc, List.singleton_append]

theorem write_array (items : List Value) :
    (Value.array items).write = arrayText (items.map .ofValue) [] := by
  have htexts : (items.map Item.ofValue).map Item.text = items.map Value.write := by
    rw [List.map_map]
    refine List.map_congr_left fun v _ => ?_
    simp only [Function.comp_apply, Item.text, Item.ofValue, List.nil_append, List.append_nil]
  rw [Value.write, arrayText, htexts, writeItems_eq, List.nil_append]

theorem text_ofEntry (e : String × Value) :
    (Field.ofEntry e).text = literal e.1.toList ++ ':' :: e.2.write := by
  simp only [Field.text, Field.fromQuote, Field.fromKey, Field.ofEntry, literal, List.nil_append,
    List.append_nil, List.cons_append, List.append_assoc]

theorem writeFields_eq (fields : Table Value) :
    Value.writeFields fields = [','].intercalate ((fields.map Field.ofEntry).map Field.text) := by
  match fields with
  | [] => rfl
  | [(k, v)] =>
    rw [Value.writeFields, List.map_singleton, List.map_singleton, List.intercalate_singleton,
      text_ofEntry]
  | (k, v) :: f :: rest =>
    rw [Value.writeFields, writeFields_eq (f :: rest)]
    simp only [List.map_cons, List.intercalate_cons_cons, text_ofEntry, List.append_assoc,
      List.cons_append, List.nil_append]

theorem write_object (fields : Table Value) :
    (Value.object fields).write = objectText (fields.map .ofEntry) [] := by
  rw [Value.write, objectText, writeFields_eq, List.nil_append]

theorem value_number (depth : Nat) {s t rest : List Char} {c : Char} {n : Number}
    (hs : skipBlanks s = c :: t) (hc : c = '-' ∨ c.isDigit)
    (hread : number (c :: t) = .ok (n, rest)) : value depth s = .ok (.number n, rest) := by
  unfold value
  rw [hs]
  split
  -- no other value starts with a digit or a minus sign
  all_goals try (next h => cases h <;> exact absurd hc (by decide))
  next h =>
    cases h
    rw [if_pos hc, hread]
    rfl

theorem value_bracket {depth : Nat} {s t rest : List Char} {items : List Value}
    (hs : skipBlanks s = '[' :: t) (hread : Json.items (value depth) t = .ok (items, rest)) :
    value (depth + 1) s = .ok (.array items, rest) := by
  rw [value, hs]
  show (Json.items (value depth) t >>= fun r => .ok (Value.array r.1, r.2)) = _
  rw [hread]
  rfl

theorem value_brace {depth : Nat} {s t rest : List Char} {fields : Table Value}
    (hs : skipBlanks s = '{' :: t)
    (hread : Json.fields (entry (value depth)) [] t = .ok (fields, rest)) :
    value (depth + 1) s = .ok (.object fields, rest) := by
  rw [value, hs]
  show (Json.fields (entry (value depth)) [] t >>= fun r => .ok (Value.object r.1, r.2)) = _
  rw [hread]
  rfl

theorem takes_ofEntry {item : Reader Value} {e : String × Value}
    (h : Yields item e.2.write e.2) (t : Table Value) :
    Takes (entry item) t (.ofEntry e) (t.insert e.1 e.2) := by
  refine ⟨e.1, spells_escaped e.1.toList, ?_⟩
  intro s hs
  have hread := h.read [] s .nil hs
  have hcolon := colon_append .nil (e.2.write ++ s)
  rw [List.nil_append] at hread hcolon
  simp only [Field.fromKey, Field.ofEntry, entry, List.nil_append, hcolon, hread, bind, Except.bind]

theorem takesAll_ofEntry {item : Reader Value} {new : Table Value}
    (h : ∀ e ∈ new, Yields item e.2.write e.2) (t : Table Value) :
    TakesAll (entry item) t (new.map .ofEntry) (t.insertAll new) := by
  induction new generalizing t with
  | nil => exact .nil t
  | cons e new ih =>
    exact .cons (takes_ofEntry (h e List.mem_cons_self) t)
      (ih (fun f hf => h f (List.mem_cons_of_mem e hf)) _)

/-- A value that is no array and no object: its text, behind white space, is read whatever the
depth. -/
theorem yields_scalar {depth : Nat} {v : Value} {c : Char} {t : List Char}
    (hwrite : v.write = c :: t) (hblank : isJsonBlank c = false) (hbracket : c ≠ ']')
    (hread : ∀ s s', EndsNumeral s → skipBlanks s' = c :: (t ++ s) → value depth s' = .ok (v, s)) :
    Yields (value depth) v.write v where
  starts := ⟨c, t, hwrite, hblank, hbracket⟩
  read := by
    intro w s hw hs
    refine hread s _ hs ?_
    rw [hwrite, List.cons_append, skipBlanks_append_cons hw hblank]

theorem yields_null (depth : Nat) : Yields (value depth) Value.null.write .null := by
  refine yields_scalar rfl rfl (by decide) fun s s' _ hs => ?_
  unfold value
  rw [hs]
  rfl

theorem yields_bool (depth : Nat) (b : Bool) :
    Yields (value depth) (Value.bool b).write (.bool b) := by
  cases b with
  | true =>
    refine yields_scalar rfl rfl (by decide) fun s s' _ hs => ?_
    unfold value
    rw [hs]
    rfl
  | false =>
    refine yields_scalar rfl rfl (by decide) fun s s' _ hs => ?_
    unfold value
    rw [hs]
    rfl

theorem yields_string (depth : Nat) (t : String) :
    Yields (value depth) (Value.string t).write (.string t) := by
  refine yields_scalar rfl rfl (by decide) fun s s' _ hs => ?_
  have hbody := stringBody_spells (spells_escaped t.toList) s
  rw [List.append_assoc, List.singleton_append] at hs
  unfold value
  rw [hs]
  show (stringBody _ >>= fun r => .ok (Value.string r.1, r.2)) = _
  rw [hbody]
  rfl

theorem yields_whole (depth : Nat) (n : Integer) :
    Yields (value depth) (Value.number (.whole n)).write (.number (.whole n)) := by
  obtain ⟨c, t, htext, hc⟩ := text_whole_eq_cons n
  have hblank : isJsonBlank c = false := by
    rcases hc with rfl | hc
    · rfl
    · exact isJsonBlank_of_isDigit hc
  have hbracket : c ≠ ']' := by
    rintro rfl
    exact absurd hc (by decide)
  refine yields_scalar (by rw [Value.write, htext]) hblank hbracket fun s s' hends hs => ?_
  have hread := number_text n hends
  rw [htext, List.cons_append] at hread
  exact value_number depth hs hc hread

theorem yields_array {depth : Nat} {items : List Value}
    (h : ∀ v ∈ items, Yields (value depth) v.write v) :
    Yields (value (depth + 1)) (Value.array items).write (.array items) := by
  have hitems : List.Forall₂ (fun (i : Item) v => Yields (value depth) i.value v)
      (items.map Item.ofValue) items := by
    rw [List.forall₂_map_left_iff, List.forall₂_same]
    exact h
  refine ⟨⟨'[', _, rfl, rfl, by decide⟩, fun w s hw _ => ?_⟩
  obtain ⟨t, htext, hread⟩ := items_arrayText hitems .nil s
  rw [write_array, htext]
  exact value_bracket (skipBlanks_append_cons hw rfl t) hread

theorem yields_object {depth : Nat} {fields : Table Value} (hsorted : fields.Sorted)
    (h : ∀ e ∈ fields, Yields (value depth) e.2.write e.2) :
    Yields (value (depth + 1)) (Value.object fields).write (.object fields) := by
  refine ⟨⟨'{', _, rfl, rfl, by decide⟩, fun w s hw _ => ?_⟩
  obtain ⟨t, htext, hread⟩ := fields_objectText (takesAll_ofEntry h []) .nil s
  have htable : Table.insertAll [] fields = fields := Table.ofList_eq hsorted
  rw [htable] at hread
  rw [write_object, htext]
  exact value_brace (skipBlanks_append_cons hw rfl t) hread

theorem length_write_item {items : List Value} {v : Value} (hv : v ∈ items) :
    v.write.length < (Value.array items).write.length := by
  rw [write_array]
  exact length_lt_arrayText (List.mem_map_of_mem (f := Item.ofValue) hv) []

theorem length_write_field {fields : Table Value} {e : String × Value} (he : e ∈ fields) :
    e.2.write.length < (Value.object fields).write.length := by
  rw [write_object]
  exact length_lt_objectText (List.mem_map_of_mem (f := Field.ofEntry) he) []

/-- A value is read from its text if the text is no longer than the depth that is allowed. -/
theorem IsExact.yields {v : Value} (h : IsExact v) {depth : Nat}
    (hdepth : v.write.length ≤ depth) : Yields (value depth) v.write v := by
  -- what an array or an object holds has a shorter text than the array or the object
  induction h generalizing depth with
  | null => exact yields_null depth
  | bool b => exact yields_bool depth b
  | string t => exact yields_string depth t
  | whole n => exact yields_whole depth n
  | @array items _ ih =>
    obtain ⟨depth, rfl⟩ := Nat.exists_eq_add_one_of_ne_zero
      (Nat.ne_zero_of_lt (Nat.lt_of_lt_of_le (Nat.zero_lt_succ _) hdepth))
    exact yields_array fun v hv =>
      ih v hv (Nat.le_of_lt_succ (Nat.lt_of_lt_of_le (length_write_item hv) hdepth))
  | @object fields hsorted _ ih =>
    obtain ⟨depth, rfl⟩ := Nat.exists_eq_add_one_of_ne_zero
      (Nat.ne_zero_of_lt (Nat.lt_of_lt_of_le (Nat.zero_lt_succ _) hdepth))
    exact yields_object hsorted fun e he =>
      ih e he (Nat.le_of_lt_succ (Nat.lt_of_lt_of_le (length_write_field he) hdepth))

/-- The text is that of a value for a reader that puts no limit to how deep arrays and objects may
nest: whatever a reader's limit is, from some depth on. -/
def Denotes (text : List Char) (v : Value) : Prop :=
  ∃ depth, ∀ limit, depth ≤ limit → whole (value limit) text = .ok v

theorem IsExact.denotes {v : Value} (h : IsExact v) : Denotes v.write v := by
  refine ⟨v.write.length, fun limit hlimit => ?_⟩
  have hread := (h.yields hlimit).read [] [] .nil nofun
  rw [List.nil_append, List.append_nil] at hread
  rw [Json.whole, hread]
  rfl

end Storefront.Json
