import Storefront.Artifact.Gate
import Storefront.Proofs.Artifact.Spelling
import Storefront.Proofs.Text.Split

/-!
# The markers of artifacts

`HasMarkers` says where the markers stand in a text, with no order of search. A text that has them
carries the markers of an artifact (`isPrecompiled_of_hasMarkers`): no wrong turn of the search, at
an earlier marker or in between, hides a right one. Every spelling of an artifact has them in which
the two keys stand as they are and in their order (`isPrecompiled_spells`), even if its versions,
its body or its unknown fields hold brackets, quotes or markers of their own. So has what is written
for an artifact (`isPrecompiled_toJson`).
-/

namespace Storefront.Artifact
open Text (isBlank isJsonBlank takeWhile_dropWhile_ne)
open Json (Blanks Field IsValue)

/-- The markers of an artifact and what stands between them: `w₁` to `w₄` are white space around
the two colons and `b` is the inside of the `compiler` array up to its first closing bracket. -/
def HasMarkers (s : List Char) : Prop :=
  ∃ x w₁ w₂ b y w₃ w₄ z : List Char,
    (∀ c ∈ w₁ ++ w₂ ++ w₃ ++ w₄, isBlank c) ∧ ']' ∉ b ∧
      s = x ++ (['"', 'c', 'o', 'm', 'p', 'i', 'l', 'e', 'r', '"'] ++ (w₁ ++ ':' :: (w₂ ++ '[' ::
        (b ++ ']' :: (y ++ (['"', 'm', 'a', 'i', 'n', '"'] ++ (w₃ ++ ':' :: (w₄ ++ '"' :: z))))))))

/-! ### The search -/

theorem anySuffix_append {p : List Char → Bool} {s : List Char} (x : List Char) (h : p s) :
    anySuffix p (x ++ s) := by
  induction x with
  | nil =>
    cases s with
    | nil => exact h
    | cons c s => exact Bool.or_eq_true_iff.2 (.inl h)
  | cons c x ih => exact Bool.or_eq_true_iff.2 (.inr ih)

theorem after?_append (part s : List Char) : after? part (part ++ s) = some s := by
  induction part with
  | nil => rfl
  | cons c part ih => rw [List.cons_append, after?, if_pos rfl, ih]

theorem dropWhile_blank {w : List Char} (hw : ∀ c ∈ w, isBlank c) {c : Char}
    (hc : isBlank c = false) (s : List Char) : (w ++ c :: s).dropWhile isBlank = c :: s := by
  have hneg : ¬ isBlank c = true := by
    rw [hc]
    exact Bool.false_ne_true
  rw [List.dropWhile_append_of_pos hw, List.dropWhile_cons_of_neg hneg]

theorem afterName?_append (quoted : List Char) {w w' : List Char} (hw : ∀ c ∈ w, isBlank c)
    (hw' : ∀ c ∈ w', isBlank c) {c : Char} (hc : isBlank c = false) (s : List Char) :
    afterName? quoted (quoted ++ (w ++ ':' :: (w' ++ c :: s))) = some (c :: s) := by
  simp only [afterName?, after?_append, dropWhile_blank hw (c := ':') rfl, dropWhile_blank hw' hc,
    after?, if_true, bind, Option.bind, pure]

theorem startsMain_append {w w' : List Char} (hw : ∀ c ∈ w, isBlank c) (hw' : ∀ c ∈ w', isBlank c)
    (z : List Char) :
    startsMain (['"', 'm', 'a', 'i', 'n', '"'] ++ (w ++ ':' :: (w' ++ '"' :: z))) := by
  rw [startsMain, afterName?_append _ hw hw' rfl]
  rfl

theorem afterCompiler?_append {w w' b : List Char} (hw : ∀ c ∈ w, isBlank c)
    (hw' : ∀ c ∈ w', isBlank c) (hb : ']' ∉ b) (s : List Char) :
    afterCompiler? (['"', 'c', 'o', 'm', 'p', 'i', 'l', 'e', 'r', '"'] ++
      (w ++ ':' :: (w' ++ '[' :: (b ++ ']' :: s)))) = some s := by
  rw [afterCompiler?, afterName?_append _ hw hw' rfl]
  show after? [']'] ((b ++ ']' :: s).dropWhile (· != ']')) = some s
  rw [(takeWhile_dropWhile_ne hb s).2]
  rfl

theorem isPrecompiled_of_hasMarkers {s : List Char} (h : HasMarkers s) : isPrecompiled s := by
  obtain ⟨x, w₁, w₂, b, y, w₃, w₄, z, hw, hb, rfl⟩ := h
  simp only [List.mem_append] at hw
  refine anySuffix_append x ?_
  rw [startsMarkers, afterCompiler?_append (fun c hc => hw c (.inl (.inl (.inl hc))))
    (fun c hc => hw c (.inl (.inl (.inr hc)))) hb]
  exact anySuffix_append y
    (startsMain_append (fun c hc => hw c (.inl (.inr hc))) (fun c hc => hw c (.inr hc)) z)

/-! ### Spellings of artifacts -/

theorem isBlank_of_blanks {w : List Char} (hw : Blanks w) : ∀ c ∈ w, isBlank c := by
  intro c hc
  have hblank := hw c hc
  simp only [isJsonBlank, Bool.or_eq_true, beq_iff_eq] at hblank
  rcases hblank with ((rfl | rfl) | rfl) | rfl <;> rfl

/-- The two keys that the markers name stand in the text as they are, the compiler's first. -/
def MarkersInOrder (fields : List (Name × Field)) : Prop :=
  ∃ x c y m z, fields = x ++ (.compiler, c) :: (y ++ (.main, m) :: z) ∧
    c.key = Name.compiler.key.toList ∧ m.key = Name.main.key.toList

theorem intercalate_split (x : List (List Char)) (t : List Char) (z : List (List Char)) :
    [','].intercalate (x ++ t :: z) =
      x.flatMap (· ++ [',']) ++ (t ++ z.flatMap fun u => ',' :: u) := by
  induction x with
  | nil => exact Json.intercalate_comma t z
  | cons u x ih =>
    rw [List.cons_append, List.intercalate_cons_of_ne_nil (by simp), ih, List.flatMap_cons]
    simp only [List.append_assoc]

/-- The first closing bracket in the value of the compiler's field ends its array for the search,
and the rest of the value counts as what stands between the markers. -/
theorem compilerValue_split {a : Artifact} {v : List Char} (h : SpellsValue a .compiler v) :
    ∃ b y, ']' ∉ b ∧ v = '[' :: (b ++ ']' :: y) := by
  generalize hn : Name.compiler = n at h
  cases h with
  | @compiler w₁ w₂ w₃ w₄ versions hw h =>
    have hmem : ']' ∈ w₁ ++ (Nat.toDigits 10 a.revision.toNat ++ (w₂ ++ ',' :: (w₃ ++
        '"' :: (versions ++ '"' :: (w₄ ++ [']']))))) := by
      simp
    obtain ⟨b, y, hsplit, hb⟩ := List.eq_append_cons_of_mem hmem
    exact ⟨b, y, hb, by rw [hsplit]⟩
  | _ => cases hn

theorem hasMarkers_spells {a : Artifact} {fields : List (Name × Field)} {text : String}
    (h : a.Spells fields text) (horder : MarkersInOrder fields) : HasMarkers text.toList := by
  obtain ⟨before, inside, after, -, -, -, htext⟩ := h.text
  obtain ⟨x, c, y, m, z, rfl, hcompiler, hmain⟩ := horder
  have hc : SpellsValue a .compiler c.value := h.value (.compiler, c) (by simp)
  have hm : SpellsValue a .main m.value := h.value (.main, m) (by simp)
  obtain ⟨b, r, hb, hcvalue⟩ := compilerValue_split hc
  obtain ⟨s, hmvalue⟩ : ∃ s, m.value = '"' :: s := by
    generalize m.value = v at hm
    cases hm
    exact ⟨_, rfl⟩
  -- the markers are the keys of the two fields, with the white space around their colons
  obtain ⟨⟨-, hw₁⟩, hw₂, -⟩ := c.blanks_parts
  obtain ⟨⟨-, hw₃⟩, hw₄, -⟩ := m.blanks_parts
  have hblank := isBlank_of_blanks (Json.blanks_append.2 ⟨Json.blanks_append.2
    ⟨Json.blanks_append.2 ⟨hw₁, hw₂⟩, hw₃⟩, hw₄⟩)
  refine ⟨before ++ '{' :: ((x.map fun f => f.2.text ++ [',']).flatten ++ c.before), c.beforeColon,
    c.afterColon, b,
    r ++ (c.after ++ ((y.map fun f => ',' :: f.2.text).flatten ++ ',' :: m.before)),
    m.beforeColon, m.afterColon,
    s ++ (m.after ++ ((z.map fun f => ',' :: f.2.text).flatten ++ (inside ++ '}' :: after))),
    hblank, hb, ?_⟩
  have hquoted : '"' :: (Name.compiler.key.toList ++ ['"']) =
    ['"', 'c', 'o', 'm', 'p', 'i', 'l', 'e', 'r', '"'] := rfl
  have hquoted' : '"' :: (Name.main.key.toList ++ ['"']) = ['"', 'm', 'a', 'i', 'n', '"'] := rfl
  rw [htext, ← hquoted, ← hquoted', Json.objectText, List.map_map, List.map_append, List.map_cons,
    intercalate_split]
  simp [Field.text, Field.fromQuote, Field.fromKey, hcompiler, hmain, hcvalue, hmvalue,
    List.flatMap_def, Function.comp_def]

theorem isPrecompiled_spells {a : Artifact} {fields : List (Name × Field)} {text : String}
    (h : a.Spells fields text) (horder : MarkersInOrder fields) : isPrecompiled text.toList :=
  isPrecompiled_of_hasMarkers (hasMarkers_spells h horder)

theorem markersInOrder_written (a : Artifact) : MarkersInOrder a.written :=
  ⟨[], _, [], _, _, rfl, rfl, rfl⟩

theorem isPrecompiled_toJson (a : Artifact) : isPrecompiled a.toJson.toList :=
  isPrecompiled_spells a.spells_toJson a.markersInOrder_written

/-- However an artifact is spelled, the text is read as that artifact, and it counts as one if the
two keys stand in it as they are and in their order. Both hold of what is written for it. -/
theorem decodes_every_spelling (a : Artifact) :
    (∀ fields text, a.Spells fields text →
      ofJson text = .ok a ∧ (MarkersInOrder fields → isPrecompiled text.toList)) ∧
    ofJson a.toJson = .ok a ∧ isPrecompiled a.toJson.toList :=
  ⟨fun _ _ h => ⟨ofJson_spells h, isPrecompiled_spells h⟩, ofJson_toJson a, isPrecompiled_toJson a⟩

/-- An artifact with a bracket and a quote in its versions. White space stands around a colon, the
quote is spelled by its code point, and an unknown field in front of the body holds an unpaired
surrogate. -/
theorem decodes_every_spelling_unknown :
    let a : Artifact := ⟨8, "]\"", "/", false⟩
    let text := "\x7b\"compiler\" : [ 8 ,\"]\\u0022\"],\n\"\":[\"\\uD83D\"],\"main\":\"\\/\"\x7d "
    ofJson text = .ok a ∧ isPrecompiled text.toList := by
  intro a text
  let compiler : Field :=
    { key := "compiler".toList, beforeColon := [' '], afterColon := [' '],
      value := ['[', ' ', '8', ' ', ',', '"', ']', '\\', 'u', '0', '0', '2', '2', '"', ']'],
      blanks := by decide }
  let unknown : Field :=
    { before := ['\n'], key := [],
      value := Json.arrayText [{ value := ['"', '\\', 'u', 'D', '8', '3', 'D', '"'] }] [],
      blanks := by decide }
  let body : Field := { key := "main".toList, value := ['"', '\\', '/', '"'] }
  let fields : List (Name × Field) :=
    [(.compiler, compiler), (.unknown "", unknown), (.main, body)]
  have hquote : Json.IsCodeUnit ['0', '0', '2', '2'] '"'.toNat :=
    .digits (i := 0) (j := 0) (k := 2) (l := 2) (by decide) (by decide) (by decide) (by decide)
  have hsurrogate : Json.IsCodeUnit ['D', '8', '3', 'D'] 0xD83D :=
    .digits (i := 13) (j := 8) (k := 3) (l := 13) (by decide) (by decide) (by decide) (by decide)
  have hversions : Json.Spells [']', '\\', 'u', '0', '0', '2', '2'] a.versions.toList := by
    have htext : a.versions.toList = [']', '"'] := by decide
    rw [htext]
    exact .cons (.plain (by decide) (by decide) (by decide)) (.cons (.codePoint hquote) .nil)
  have hbody : Json.Spells ['\\', '/'] a.main.toList := by
    have htext : a.main.toList = ['/'] := by decide
    rw [htext]
    exact .cons (.short (by decide)) .nil
  have hcompiler : SpellsValue a .compiler compiler.value := by
    have hdigits : Nat.toDigits 10 a.revision.toNat = ['8'] := by decide
    have h := @SpellsValue.compiler a [' '] [' '] [] [] _ (by decide) hversions
    rwa [hdigits] at h
  have hunknown : IsValue unknown.value := by
    refine .array ?_ .nil
    intro i hi
    rw [List.mem_singleton.1 hi]
    exact .string (.cons (.codeUnit hsurrogate) .nil)
  have hspells : a.Spells fields text := {
    key := by
      intro f hf
      simp only [fields, List.mem_cons, List.not_mem_nil, or_false] at hf
      rcases hf with rfl | rfl | rfl
      · exact spells_key (n := .compiler) (by decide)
      · exact .nil
      · exact spells_key (n := .main) (by decide)
    value := by
      intro f hf
      simp only [fields, List.mem_cons, List.not_mem_nil, or_false] at hf
      rcases hf with rfl | rfl | rfl
      · exact hcompiler
      · exact .unknown (by decide) hunknown
      · exact .main (a := a) hbody
    compiler := rfl
    main := rfl
    useData := .inr ⟨rfl, rfl⟩
    text := ⟨[], [], [' '], .nil, .nil, by decide, by decide⟩ }
  have horder : MarkersInOrder fields := ⟨[], _, [_], _, [], rfl, rfl, rfl⟩
  have h := (decodes_every_spelling a).1 fields text hspells
  exact ⟨h.1, h.2 horder⟩

end Storefront.Artifact
