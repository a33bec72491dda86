import Storefront.Proofs.Json.Literal
import Storefront.Proofs.Json.Numeral

/-!
# The fields of an object

A `Field` is a field of an object as it stands in a text, with the white space around its parts,
and `objectText` puts fields together. If a reader takes the value of each field in turn
(`TakesAll`), then reading the object goes from the first of its states to the last, whatever the
white space (`fields_objectText`).
-/

namespace Storefront.Json
open Text (isJsonBlank)

/-! ### White space -/

/-- A text of white space. -/
def Blanks (w : List Char) : Prop :=
  ∀ c ∈ w, isJsonBlank c

instance (w : List Char) : Decidable (Blanks w) :=
  decidable_of_iff (w.all isJsonBlank = true) List.all_eq_true

variable {w : List Char}

theorem Blanks.nil : Blanks [] := nofun

theorem blanks_append {w' : List Char} : Blanks (w ++ w') ↔ Blanks w ∧ Blanks w' :=
  List.forall_mem_append

theorem skipBlanks_cons {c : Char} (hc : isJsonBlank c = false) (s : List Char) :
    skipBlanks (c :: s) = c :: s :=
  List.dropWhile_cons_of_neg (by rw [hc]; exact Bool.false_ne_true)

theorem skipBlanks_append (hw : Blanks w) (s : List Char) : skipBlanks (w ++ s) = skipBlanks s :=
  List.dropWhile_append_of_pos hw

theorem skipBlanks_append_cons (hw : Blanks w) {c : Char} (hc : isJsonBlank c = false)
    (s : List Char) : skipBlanks (w ++ c :: s) = c :: s := by
  rw [skipBlanks_append hw, skipBlanks_cons hc]

theorem EndsNumeral.append (hw : Blanks w) {s : List Char} (hs : EndsNumeral s) :
    EndsNumeral (w ++ s) := by
  cases w with
  | nil => exact hs
  | cons c w =>
    have hblank : isJsonBlank c := hw c List.mem_cons_self
    intro d hd
    obtain rfl : c = d := Option.some.inj hd
    simp only [isJsonBlank, Bool.or_eq_true, beq_iff_eq] at hblank
    rcases hblank with ((rfl | rfl) | rfl) | rfl <;> decide

theorem endsNumeral_comma (s : List Char) : EndsNumeral (',' :: s) := by
  rintro c ⟨⟩
  decide

theorem endsNumeral_bracket (s : List Char) : EndsNumeral (']' :: s) := by
  rintro c ⟨⟩
  decide

theorem endsNumeral_brace (s : List Char) : EndsNumeral ('}' :: s) := by
  rintro c ⟨⟩
  decide

theorem colon_append (hw : Blanks w) (s : List Char) : colon (w ++ ':' :: s) = .ok ((), s) := by
  rw [colon, skipBlanks_append_cons hw rfl]
  rfl

/-! ### Fields -/

/-- A field of an object as it is written: what stands between the quotes of its key, its value,
and the white space around them. -/
structure Field where
  before : List Char := []
  key : List Char
  beforeColon : List Char := []
  afterColon : List Char := []
  value : List Char
  after : List Char := []
  blanks : Blanks (before ++ beforeColon ++ afterColon ++ after) := by exact Blanks.nil

namespace Field

variable (f : Field)

theorem blanks_parts : (Blanks f.before ∧ Blanks f.beforeColon) ∧ Blanks f.afterColon ∧
    Blanks f.after := by
  have h := f.blanks
  rw [blanks_append, blanks_append, blanks_append] at h
  exact ⟨h.1.1, h.1.2, h.2⟩

/-- The field from its colon up to the end of its value, in front of `s`. -/
def fromKey (s : List Char) : List Char :=
  f.beforeColon ++ ':' :: (f.afterColon ++ (f.value ++ s))

/-- The field from the inside of its key on, in front of `s`. -/
def fromQuote (s : List Char) : List Char :=
  f.key ++ '"' :: f.fromKey (f.after ++ s)

def text : List Char :=
  f.before ++ '"' :: f.fromQuote []

theorem text_append (s : List Char) : f.text ++ s = f.before ++ '"' :: f.fromQuote s := by
  simp only [text, fromQuote, fromKey, List.append_assoc, List.cons_append, List.nil_append]

end Field

/-- The fields after the first one, each behind a comma, and the end of the object. -/
def moreFields (fields : List Field) (inside rest : List Char) : List Char :=
  fields.flatMap (fun f => ',' :: f.text) ++ (inside ++ '}' :: rest)

/-- The text of an object; `inside` is the white space in front of its closing brace. -/
def objectText (fields : List Field) (inside : List Char) : List Char :=
  '{' :: ([','].intercalate (fields.map Field.text) ++ (inside ++ ['}']))

theorem intercalate_comma (s : List Char) (texts : List (List Char)) :
    [','].intercalate (s :: texts) = s ++ texts.flatMap fun t => ',' :: t := by
  induction texts generalizing s with
  | nil => rw [List.intercalate_singleton, List.flatMap_nil, List.append_nil]
  | cons t texts ih =>
    rw [List.intercalate_cons_cons, ih, List.flatMap_cons, List.append_assoc]
    rfl

theorem objectText_nil (inside rest : List Char) :
    objectText [] inside ++ rest = '{' :: (inside ++ '}' :: rest) := by
  simp [objectText]

theorem objectText_cons (f : Field) (fields : List Field) (inside rest : List Char) :
    objectText (f :: fields) inside ++ rest =
      '{' :: (f.before ++ '"' :: f.fromQuote (moreFields fields inside rest)) := by
  rw [← f.text_append, objectText, List.map_cons, intercalate_comma, List.flatMap_map, moreFields]
  simp only [List.append_assoc, List.cons_append, List.nil_append]

theorem moreFields_cons (f : Field) (fields : List Field) (inside rest : List Char) :
    moreFields (f :: fields) inside rest =
      ',' :: (f.before ++ '"' :: f.fromQuote (moreFields fields inside rest)) := by
  rw [← f.text_append, moreFields, List.flatMap_cons, moreFields]
  simp only [List.append_assoc, List.cons_append]

theorem length_lt_length_moreFields (fields : List Field) (inside rest : List Char) :
    fields.length < (moreFields fields inside rest).length := by
  induction fields with
  | nil =>
    simp only [moreFields, List.length_append, List.length_cons, List.length_nil]
    omega
  | cons f fields ih =>
    rw [moreFields_cons]
    simp only [Field.fromQuote, Field.fromKey, List.length_cons, List.length_append]
    omega

theorem endsNumeral_moreFields (fields : List Field) (hw : Blanks w) (rest : List Char) :
    EndsNumeral (moreFields fields w rest) := by
  cases fields with
  | nil => exact .append hw (endsNumeral_brace rest)
  | cons f fields =>
    rw [moreFields_cons]
    exact endsNumeral_comma _

/-! ### Reading fields -/

variable {α : Type} {field : α → String → Reader α} {a b c : α}

/-- The reader goes from `a` to `b` on the value of a field, whatever stands behind the value. -/
def Takes (field : α → String → Reader α) (a : α) (f : Field) (b : α) : Prop :=
  ∃ key : String, Spells f.key key.toList ∧
    ∀ s, EndsNumeral s → field a key (f.fromKey s) = .ok (b, s)

/-- The reader goes from `a` to `b` on the values of fields. -/
inductive TakesAll (field : α → String → Reader α) : α → List Field → α → Prop where
  | nil (a : α) : TakesAll field a [] a
  | cons {a b c : α} {f : Field} {fields : List Field} (h : Takes field a f b)
      (hs : TakesAll field b fields c) : TakesAll field a (f :: fields) c

theorem Takes.read {f : Field} (h : Takes field a f b) {s : List Char}
    (hs : EndsNumeral (f.after ++ s)) :
    ∃ key, stringBody (f.fromQuote s) = .ok (key, f.fromKey (f.after ++ s)) ∧
      field a key (f.fromKey (f.after ++ s)) = .ok (b, f.after ++ s) := by
  obtain ⟨key, hkey, hfield⟩ := h
  exact ⟨key, stringBody_spells hkey _, hfield _ hs⟩

theorem fieldsFrom_next {key : String} {s s' r next : List Char} {fuel : Nat}
    (hkey : stringBody s = .ok (key, s')) (hfield : field a key s' = .ok (b, r))
    (hnext : afterField r = .ok (some next, [])) :
    fieldsFrom field (fuel + 1) a s = fieldsFrom field fuel b next := by
  simp only [fieldsFrom, hkey, hfield, hnext, bind, Except.bind]

theorem fieldsFrom_last {key : String} {s s' r rest : List Char} {fuel : Nat}
    (hkey : stringBody s = .ok (key, s')) (hfield : field a key s' = .ok (b, r))
    (hnext : afterField r = .ok (none, rest)) :
    fieldsFrom field (fuel + 1) a s = .ok (b, rest) := by
  simp only [fieldsFrom, hkey, hfield, hnext, bind, Except.bind]

theorem afterField_end (hw : Blanks w) (rest : List Char) :
    afterField (w ++ '}' :: rest) = .ok (none, rest) := by
  rw [afterField, skipBlanks_append_cons hw rfl]
  rfl

theorem afterField_comma (hw : Blanks w) {w' : List Char} (hw' : Blanks w') (s : List Char) :
    afterField (w ++ ',' :: (w' ++ '"' :: s)) = .ok (some s, []) := by
  have hstart : keyStart (w' ++ '"' :: s) = .ok s := by
    rw [keyStart, skipBlanks_append_cons hw' rfl]
    rfl
  rw [afterField, skipBlanks_append_cons hw rfl]
  dsimp only
  rw [if_neg (by decide), if_pos rfl, hstart]
  rfl

theorem fieldsFrom_moreFields {f : Field} {fields : List Field} (h : Takes field a f b)
    (hs : TakesAll field b fields c) (hw : Blanks w) (rest : List Char) {fuel : Nat}
    (hfuel : fields.length < fuel) :
    fieldsFrom field fuel a (f.fromQuote (moreFields fields w rest)) = .ok (c, rest) := by
  -- on the fields that follow `f`; each takes one unit of fuel
  induction hs generalizing a f fuel with
  | nil b =>
    obtain ⟨fuel, rfl⟩ := Nat.exists_eq_add_one_of_ne_zero (Nat.ne_zero_of_lt hfuel)
    have hread := h.read (.append f.blanks_parts.2.2 (endsNumeral_moreFields [] hw rest))
    obtain ⟨key, hkey, hread⟩ := hread
    have hend := afterField_end (blanks_append.2 ⟨f.blanks_parts.2.2, hw⟩) rest
    rw [List.append_assoc] at hend
    exact fieldsFrom_last hkey hread hend
  | @cons b d c g more hg _ ih =>
    obtain ⟨fuel, rfl⟩ := Nat.exists_eq_add_one_of_ne_zero (Nat.ne_zero_of_lt hfuel)
    have hread := h.read (.append f.blanks_parts.2.2 (endsNumeral_moreFields (g :: more) hw rest))
    obtain ⟨key, hkey, hread⟩ := hread
    rw [moreFields_cons] at hkey hread
    have hnext := afterField_comma f.blanks_parts.2.2 g.blanks_parts.1.1
      (g.fromQuote (moreFields more w rest))
    rw [moreFields_cons, fieldsFrom_next hkey hread hnext]
    exact ih hg (Nat.lt_of_succ_lt_succ hfuel)

/-- An object is read field by field, whatever the white space in it. -/
theorem fields_objectText {fields : List Field} (h : TakesAll field a fields b) (hw : Blanks w)
    (rest : List Char) :
    ∃ s, objectText fields w ++ rest = '{' :: s ∧ Json.fields field a s = .ok (b, rest) := by
  cases h with
  | nil =>
    refine ⟨_, objectText_nil w rest, ?_⟩
    rw [Json.fields, skipBlanks_append_cons hw rfl]
    rfl
  | @cons _ c _ f more hf hmore =>
    refine ⟨_, objectText_cons f more w rest, ?_⟩
    have hlength : more.length <
        (f.before ++ '"' :: f.fromQuote (moreFields more w rest)).length := by
      have hmoreLength := length_lt_length_moreFields more w rest
      simp only [Field.fromQuote, Field.fromKey, List.length_cons, List.length_append]
      omega
    have hread := fieldsFrom_moreFields hf hmore hw rest hlength
    rw [Json.fields, skipBlanks_append_cons f.blanks_parts.1.1 rfl]
    exact hread

end Storefront.Json
