import Storefront.Artifact.Basic
import Storefront.Proofs.Json.Skip

/-!
# Artifacts read back

An object spells an artifact if it has the artifact's fields, in any order, among unknown ones,
with any white space and with its strings spelled in any way (`Spells`). Whatever the spelling, it
is read as the artifact (`ofJson_spells`), and the text that is written for an artifact is one of
its spellings (`spells_toJson`), so it is read as the artifact as well (`ofJson_toJson`).
-/

namespace Storefront.Artifact
open Json (Blanks Field IsValue EndsNumeral Takes TakesAll objectText skipBlanks_append_cons)

/-! ### Spellings -/

/-- What the fields of an object may be called. -/
inductive Name where
  | compiler
  | main
  | useData
  | unknown (key : String)
deriving DecidableEq

def Name.key : Name → String
  | compiler => "compiler"
  | main => "main"
  | useData => "useData"
  | unknown key => key

/-- The fields that a reader looks at. -/
def Name.known : List Name := [compiler, main, useData]

/-- What may stand behind the colon of a field. -/
inductive SpellsValue (a : Artifact) : Name → List Char → Prop where
  | compiler {w₁ w₂ w₃ w₄ versions : List Char} (hw : Blanks (w₁ ++ w₂ ++ (w₃ ++ w₄)))
      (h : Json.Spells versions a.versions.toList) :
      SpellsValue a .compiler ('[' :: (w₁ ++ (Nat.toDigits 10 a.revision.toNat ++ (w₂ ++
        ',' :: (w₃ ++ '"' :: (versions ++ '"' :: (w₄ ++ [']'])))))))
  | main {s : List Char} (h : Json.Spells s a.main.toList) :
      SpellsValue a .main ('"' :: (s ++ ['"']))
  | useData : SpellsValue a .useData (if a.useData then "true" else "false").toList
  | unknown {key : String} {v : List Char} (hkey : key ∉ Name.known.map Name.key)
      (h : IsValue v) : SpellsValue a (.unknown key) v

/-- A text that spells an artifact, with its fields and their names. Unknown fields may be repeated,
and a flag that is not set may be left out. -/
structure Spells (a : Artifact) (fields : List (Name × Field)) (text : String) : Prop where
  key : ∀ f ∈ fields, Json.Spells f.2.key f.1.key.toList
  value : ∀ f ∈ fields, SpellsValue a f.1 f.2.value
  compiler : (fields.map Prod.fst).count .compiler = 1
  main : (fields.map Prod.fst).count .main = 1
  useData : (fields.map Prod.fst).count .useData = 1 ∨
    (fields.map Prod.fst).count .useData = 0 ∧ a.useData = false
  text : ∃ before inside after, Blanks before ∧ Blanks inside ∧ Blanks after ∧
    text.toList = before ++ (objectText (fields.map Prod.snd) inside ++ after)

/-! ### Values of the fields -/

variable {a : Artifact} {w : List Char}

theorem string_spells (hw : Blanks w) {s : List Char} {t : String} (h : Json.Spells s t.toList)
    (rest : List Char) : Json.string (w ++ '"' :: (s ++ '"' :: rest)) = .ok (t, rest) := by
  rw [Json.string, skipBlanks_append_cons hw rfl]
  exact Json.stringBody_spells h rest

theorem boolean_text (hw : Blanks w) (b : Bool) (rest : List Char) :
    Json.boolean (w ++ ((if b then "true" else "false").toList ++ rest)) = .ok (b, rest) := by
  cases b with
  | true =>
    have htext : (if true then "true" else "false").toList ++ rest =
        't' :: 'r' :: 'u' :: 'e' :: rest := rfl
    rw [htext, Json.boolean, skipBlanks_append_cons hw rfl]
    rfl
  | false =>
    have htext : (if false then "true" else "false").toList ++ rest =
        'f' :: 'a' :: 'l' :: 's' :: 'e' :: rest := rfl
    rw [htext, Json.boolean, skipBlanks_append_cons hw rfl]
    rfl

theorem required_first {α : Type} (read : Json.Reader α) (expected : String) (hw : Blanks w)
    {c : Char} (hblank : Text.isJsonBlank c = false) (hc : c ≠ ']') (s : List Char) :
    required read 0 expected (w ++ c :: s) = read (c :: s) := by
  have helement : element true (w ++ c :: s) = .ok (some (c :: s)) := by
    simp only [element, skipBlanks_append_cons hw hblank, if_neg hc, if_true]
  simp only [required, beq_self_eq_true, helement, bind, Except.bind]

theorem required_next {α : Type} (read : Json.Reader α) (count : Nat) (expected : String)
    (hw : Blanks w) {w' : List Char} (hw' : Blanks w') {c : Char}
    (hblank : Text.isJsonBlank c = false) (hc : c ≠ ']') (s : List Char) :
    required read (count + 1) expected (w ++ ',' :: (w' ++ c :: s)) = read (c :: s) := by
  have helement : element false (w ++ ',' :: (w' ++ c :: s)) = .ok (some (c :: s)) := by
    simp only [element, skipBlanks_append_cons hw (show Text.isJsonBlank ',' = false from rfl),
      if_neg (show ',' ≠ ']' by decide), skipBlanks_append_cons hw' hblank, if_neg hc, if_true,
      Bool.false_eq_true, if_false]
  have hcount : (count + 1 == 0) = false := rfl
  simp only [required, hcount, helement, bind, Except.bind]

theorem closing_append (hw : Blanks w) (rest : List Char) :
    closing (w ++ ']' :: rest) = .ok rest := by
  simp only [closing, skipBlanks_append_cons hw (show Text.isJsonBlank ']' = false from rfl),
    if_true]

theorem readCompiler_spells {w₁ w₂ w₃ w₄ versions : List Char} (revision : UInt32) {t : String}
    (hw : Blanks w) (hinside : Blanks (w₁ ++ w₂ ++ (w₃ ++ w₄))) (h : Json.Spells versions t.toList)
    (rest : List Char) :
    readCompiler (w ++ '[' :: (w₁ ++ (Nat.toDigits 10 revision.toNat ++ (w₂ ++ ',' :: (w₃ ++
      '"' :: (versions ++ '"' :: (w₄ ++ ']' :: rest))))))) = .ok ((revision, t), rest) := by
  rw [Json.blanks_append, Json.blanks_append, Json.blanks_append] at hinside
  obtain ⟨⟨hw₁, hw₂⟩, hw₃, hw₄⟩ := hinside
  obtain ⟨d, ds, hd, hdigit⟩ := Json.toDigits_eq_cons revision.toNat
  have hword := Json.word32_toDigits revision (.append hw₂ (Json.endsNumeral_comma
    (w₃ ++ '"' :: (versions ++ '"' :: (w₄ ++ ']' :: rest)))))
  have hbracket : d ≠ ']' := by
    rintro rfl
    exact absurd hdigit (by decide)
  rw [hd, List.cons_append] at hword ⊢
  rw [readCompiler, skipBlanks_append_cons hw rfl]
  have hstring := string_spells .nil h (w₄ ++ ']' :: rest)
  rw [List.nil_append] at hstring
  simp only [required_first _ _ hw₁ (Json.isJsonBlank_of_isDigit hdigit) hbracket, hword,
    required_next _ 0 _ hw₂ hw₃ (show Text.isJsonBlank '"' = false from rfl)
      (show '"' ≠ ']' by decide), hstring, closing_append hw₄, bind, Except.bind]

/-! ### Fields -/

variable {d : Draft} {s r : List Char}

theorem readField_compiler (hd : d.compiler = none) (hw : Blanks w) {v : UInt32 × String}
    (hread : readCompiler s = .ok (v, r)) :
    readField d "compiler" (w ++ ':' :: s) = .ok ({ d with compiler := some v }, r) := by
  simp only [readField, hd, Json.colon_append hw, hread, bind, Except.bind, if_true,
    Option.isSome_none, Bool.false_eq_true, if_false]

theorem readField_main (hd : d.main = none) (hw : Blanks w) {v : String}
    (hread : Json.string s = .ok (v, r)) :
    readField d "main" (w ++ ':' :: s) = .ok ({ d with main := some v }, r) := by
  simp only [readField, hd, Json.colon_append hw, hread, bind, Except.bind, if_true,
    if_neg (show "main" ≠ "compiler" by decide), Option.isSome_none, Bool.false_eq_true, if_false]

theorem readField_useData (hd : d.useData = none) (hw : Blanks w) {v : Bool}
    (hread : Json.boolean s = .ok (v, r)) :
    readField d "useData" (w ++ ':' :: s) = .ok ({ d with useData := some v }, r) := by
  simp only [readField, hd, Json.colon_append hw, hread, bind, Except.bind, if_true,
    if_neg (show "useData" ≠ "compiler" by decide), if_neg (show "useData" ≠ "main" by decide),
    Option.isSome_none, Bool.false_eq_true, if_false]

theorem readField_unknown {key : String} (hkey : key ∉ Name.known.map Name.key) (hw : Blanks w)
    (hskip : Json.skipValue s = .ok r) : readField d key (w ++ ':' :: s) = .ok (d, r) := by
  simp only [Name.known, Name.key, List.map_cons, List.map_nil, List.mem_cons, List.not_mem_nil,
    or_false, not_or] at hkey
  simp only [readField, Json.colon_append hw, hskip, bind, Except.bind, if_neg hkey.1,
    if_neg hkey.2.1, if_neg hkey.2.2]

/-- What is known of `a` when fields with the names `seen` have been read. -/
def draft (a : Artifact) (seen : List Name) : Draft where
  compiler := if .compiler ∈ seen then some (a.revision, a.versions) else none
  main := if .main ∈ seen then some a.main else none
  useData := if .useData ∈ seen then some a.useData else none

theorem takes_field {seen : List Name} {n : Name} {f : Field}
    (hkey : Json.Spells f.key n.key.toList) (hvalue : SpellsValue a n f.value)
    (hnew : n ∈ Name.known → n ∉ seen) :
    Takes readField (a.draft seen) f (a.draft (seen ++ [n])) := by
  refine ⟨n.key, hkey, ?_⟩
  intro s hs
  obtain ⟨⟨-, hbefore⟩, hafter, -⟩ := f.blanks_parts
  rw [Field.fromKey]
  generalize f.value = v at hvalue
  cases hvalue with
  | compiler hw h =>
    have hread := readCompiler_spells a.revision hafter hw h s
    have hfresh := hnew (by decide)
    have hdraft : (a.draft seen).compiler = none := if_neg hfresh
    simp only [List.cons_append, List.append_assoc, List.nil_append]
    rw [Name.key, readField_compiler hdraft hbefore hread]
    simp [draft]
  | main h =>
    have hread := string_spells hafter h s
    have hfresh := hnew (by decide)
    have hdraft : (a.draft seen).main = none := if_neg hfresh
    simp only [List.cons_append, List.append_assoc, List.nil_append]
    rw [Name.key, readField_main hdraft hbefore hread]
    simp [draft]
  | useData =>
    have hread := boolean_text hafter a.useData s
    have hfresh := hnew (by decide)
    have hdraft : (a.draft seen).useData = none := if_neg hfresh
    rw [Name.key, readField_useData hdraft hbefore hread]
    simp [draft]
  | unknown hunknown h =>
    have hskip := Json.skipValue_isValue h f.afterColon s hafter hs
    rw [Name.key, readField_unknown hunknown hbefore hskip]
    simp [draft]

theorem takesAll_fields {seen : List Name} {fields : List (Name × Field)}
    (hkey : ∀ f ∈ fields, Json.Spells f.2.key f.1.key.toList)
    (hvalue : ∀ f ∈ fields, SpellsValue a f.1 f.2.value)
    (honce : ∀ n ∈ Name.known, (seen ++ fields.map Prod.fst).count n ≤ 1) :
    TakesAll readField (a.draft seen) (fields.map Prod.snd)
      (a.draft (seen ++ fields.map Prod.fst)) := by
  induction fields generalizing seen with
  | nil =>
    rw [List.map_nil, List.map_nil, List.append_nil]
    exact .nil _
  | cons f fields ih =>
    obtain ⟨n, f⟩ := f
    -- a known name among those seen would be there twice
    have hnew : n ∈ Name.known → n ∉ seen := by
      intro hn hmem
      have hcount := honce n hn
      have hseen := List.count_pos_iff.2 hmem
      rw [List.count_append, List.map_cons, List.count_cons_self] at hcount
      omega
    have hsplit : seen ++ List.map Prod.fst ((n, f) :: fields) =
        (seen ++ [n]) ++ fields.map Prod.fst := by
      rw [List.map_cons, List.append_assoc, List.singleton_append]
    rw [hsplit] at honce ⊢
    exact .cons (takes_field (hkey _ List.mem_cons_self) (hvalue _ List.mem_cons_self) hnew)
      (ih (fun g hg => hkey g (List.mem_cons_of_mem _ hg))
        (fun g hg => hvalue g (List.mem_cons_of_mem _ hg)) honce)

theorem finish_draft {seen : List Name} (hcompiler : .compiler ∈ seen) (hmain : .main ∈ seen)
    (huseData : .useData ∈ seen ∨ a.useData = false) : (a.draft seen).finish = .ok a := by
  have hflag : (if Name.useData ∈ seen then some a.useData else none).getD false = a.useData := by
    by_cases hmem : Name.useData ∈ seen
    · rw [if_pos hmem]
      rfl
    · rw [if_neg hmem]
      exact (huseData.resolve_left hmem).symm
  simp only [Draft.finish, draft, if_pos hcompiler, if_pos hmain, hflag]

/-! ### Whole artifacts -/

/-- However an artifact is spelled, the text is read as that artifact. -/
theorem ofJson_spells {fields : List (Name × Field)} {text : String} (h : a.Spells fields text) :
    ofJson text = .ok a := by
  obtain ⟨before, inside, after, hbefore, hinside, hafter, htext⟩ := h.text
  have honce : ∀ n ∈ Name.known, ([] ++ fields.map Prod.fst).count n ≤ 1 := by
    intro n hn
    rw [List.nil_append]
    simp only [Name.known, List.mem_cons, List.not_mem_nil, or_false] at hn
    rcases hn with rfl | rfl | rfl
    · exact Nat.le_of_eq h.compiler
    · exact Nat.le_of_eq h.main
    · rcases h.useData with huse | huse <;> omega
  have htakes := takesAll_fields h.key h.value honce
  rw [List.nil_append] at htakes
  have hfinish : (a.draft (fields.map Prod.fst)).finish = .ok a := by
    refine finish_draft (List.count_pos_iff.1 (by rw [h.compiler]; decide))
      (List.count_pos_iff.1 (by rw [h.main]; decide)) ?_
    rcases h.useData with huse | huse
    · exact .inl (List.count_pos_iff.1 (by rw [huse]; decide))
    · exact .inr huse.2
  obtain ⟨s, hobject, hread⟩ := Json.fields_objectText htakes hinside after
  have hempty : Json.skipBlanks after = [] := by
    have := Json.skipBlanks_append hafter []
    rwa [List.append_nil] at this
  have hreader : reader text.toList = .ok (a, after) := by
    rw [htext, hobject, reader, skipBlanks_append_cons hbefore rfl]
    show (Json.fields readField {} s >>= fun r => r.1.finish >>= fun a => .ok (a, r.2)) = _
    rw [show ({} : Draft) = a.draft [] from rfl, hread]
    dsimp only [bind, Except.bind]
    rw [hfinish]
  rw [ofJson, Json.whole, hreader]
  dsimp only [bind, Except.bind]
  rw [hempty]
  rfl

/-! ### The text that is written -/

/-- The fields of an artifact as they are written. -/
def written (a : Artifact) : List (Name × Field) :=
  [(.compiler, { key := "compiler".toList, value := '[' :: (Nat.toDigits 10 a.revision.toNat ++
      ',' :: '"' :: (a.versions.toList.flatMap Json.escapeChar ++ ['"', ']'])) }),
    (.main, { key := "main".toList, value := Json.literal a.main.toList }),
    (.useData,
      { key := "useData".toList, value := (if a.useData then "true" else "false").toList })]

theorem write_eq (a : Artifact) : a.write = objectText (a.written.map Prod.snd) [] := by
  have hcompiler : "\x7b\"compiler\":[".toList =
    '{' :: '"' :: ("compiler".toList ++ ['"', ':', '[']) := rfl
  have hmain : "],\"main\":".toList = ']' :: ',' :: '"' :: ("main".toList ++ ['"', ':']) := rfl
  have huse : ",\"useData\":".toList = ',' :: '"' :: ("useData".toList ++ ['"', ':']) := rfl
  unfold write
  rw [hcompiler, hmain, huse]
  simp only [written, objectText, List.map_cons, List.map_nil, List.intercalate_cons_cons,
    List.intercalate_singleton, Field.text, Field.fromQuote, Field.fromKey, Json.literal,
    Nat.toString_eq_repr, Nat.toList_repr, List.append_assoc, List.cons_append, List.nil_append,
    List.append_nil]

theorem spells_key {n : Name} (hn : n ∈ Name.known) : Json.Spells n.key.toList n.key.toList := by
  have hplain : ∀ m ∈ Name.known, m.key.toList.flatMap Json.escapeChar = m.key.toList := by decide
  have h := Json.spells_escaped n.key.toList
  rwa [hplain n hn] at h

theorem spells_toJson (a : Artifact) : a.Spells a.written a.toJson where
  key := by
    intro f hf
    simp only [written, List.mem_cons, List.not_mem_nil, or_false] at hf
    rcases hf with rfl | rfl | rfl
    · exact spells_key (n := .compiler) (by decide)
    · exact spells_key (n := .main) (by decide)
    · exact spells_key (n := .useData) (by decide)
  value := by
    intro f hf
    simp only [written, List.mem_cons, List.not_mem_nil, or_false] at hf
    rcases hf with rfl | rfl | rfl
    · exact @SpellsValue.compiler a [] [] [] [] _ .nil (Json.spells_escaped a.versions.toList)
    · exact .main (Json.spells_escaped a.main.toList)
    · exact .useData
  compiler := rfl
  main := rfl
  useData := .inl rfl
  text := by
    refine ⟨[], [], [], .nil, .nil, .nil, ?_⟩
    rw [toJson, String.toList_ofList, write_eq, List.append_nil, List.nil_append]

theorem ofJson_toJson (a : Artifact) : ofJson a.toJson = .ok a :=
  ofJson_spells a.spells_toJson

end Storefront.Artifact
