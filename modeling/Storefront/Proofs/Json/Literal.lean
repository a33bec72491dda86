import Storefront.Json.Reader

/-!
# String literals

`Spells s cs` says that `s` stands for the text `cs` inside a literal: every character may be
written as itself, by its short escape, or by its code point, with surrogates and in either case.
However a text is spelled, it is read as that text (`stringFrom_spells`), and the spelling that is
written is one of these (`spells_escaped`). A literal that nobody looks at need only be made of
pieces that have the form of a character or an escape (`IsInside`, `skipString_isInside`).
-/

namespace Storefront.Json
open Text (hexDigit)

/-! ### Escapes -/

/-- The letters of the short escapes and what they stand for. -/
def shortEscapes : List (Char × Char) :=
  [('"', '"'), ('\\', '\\'), ('/', '/'), ('b', '\x08'), ('f', '\x0c'), ('n', '\n'), ('r', '\r'),
    ('t', '\t')]

theorem shortEscape?_of_mem {e c : Char} (h : (e, c) ∈ shortEscapes) : shortEscape? e = some c := by
  have key : ∀ p ∈ shortEscapes, shortEscape? p.1 = some p.2 := by decide
  exact key (e, c) h

/-- A hexadecimal digit, in either case. -/
def IsHexDigit (c : Char) (n : Nat) : Prop :=
  n < 16 ∧ (c = hexDigit n ∨ c = (hexDigit n).toUpper)

instance (c : Char) (n : Nat) : Decidable (IsHexDigit c n) :=
  inferInstanceAs (Decidable (n < 16 ∧ (c = hexDigit n ∨ c = (hexDigit n).toUpper)))

theorem hexValue?_of_isHexDigit {c : Char} {n : Nat} (h : IsHexDigit c n) :
    hexValue? c = some n := by
  have key : ∀ n < 16, hexValue? (hexDigit n) = some n ∧
      hexValue? (hexDigit n).toUpper = some n := by decide
  obtain ⟨hn, rfl | rfl⟩ := h
  · exact (key n hn).1
  · exact (key n hn).2

theorem hexDigit_mod (n : Nat) : hexDigit n = hexDigit (n % 16) := by
  simp [hexDigit]

theorem isHexDigit_hexDigit (n : Nat) : IsHexDigit (hexDigit n) (n % 16) :=
  ⟨Nat.mod_lt n (by decide), .inl (hexDigit_mod n)⟩

/-- A number in four hexadecimal digits. -/
inductive IsCodeUnit : List Char → Nat → Prop where
  | digits {a b c d : Char} {i j k l : Nat} (ha : IsHexDigit a i) (hb : IsHexDigit b j)
      (hc : IsHexDigit c k) (hd : IsHexDigit d l) :
      IsCodeUnit [a, b, c, d] (i * 4096 + j * 256 + k * 16 + l)

theorem hex4_of_isCodeUnit {ds : List Char} {n : Nat} (h : IsCodeUnit ds n) (s : List Char) :
    hex4 (ds ++ s) = .ok n := by
  obtain ⟨ha, hb, hc, hd⟩ := h
  simp only [List.cons_append, hex4, hexValue?_of_isHexDigit ha, hexValue?_of_isHexDigit hb,
    hexValue?_of_isHexDigit hc, hexValue?_of_isHexDigit hd]

theorem IsCodeUnit.length {ds : List Char} {n : Nat} (h : IsCodeUnit ds n) : ds.length = 4 := by
  cases h
  rfl

/-! ### Spellings -/

/-- How one character may stand inside a literal. -/
inductive SpellsChar : List Char → Char → Prop where
  | plain {c : Char} (hquote : c ≠ '"') (hslash : c ≠ '\\') (hctl : ¬c.toNat < 0x20) :
      SpellsChar [c] c
  | short {e c : Char} (h : (e, c) ∈ shortEscapes) : SpellsChar ['\\', e] c
  | codePoint {ds : List Char} {c : Char} (h : IsCodeUnit ds c.toNat) :
      SpellsChar ('\\' :: 'u' :: ds) c
  /-- A leading and a trailing surrogate. -/
  | pair {ds es : List Char} {c : Char} (hc : 0x10000 ≤ c.toNat)
      (hlead : IsCodeUnit ds (0xD800 + (c.toNat - 0x10000) / 0x400))
      (htrail : IsCodeUnit es (0xDC00 + (c.toNat - 0x10000) % 0x400)) :
      SpellsChar ('\\' :: 'u' :: (ds ++ '\\' :: 'u' :: es)) c

/-- The inside of a literal for a text. -/
inductive Spells : List Char → List Char → Prop where
  | nil : Spells [] []
  | cons {p s cs : List Char} {c : Char} (hp : SpellsChar p c) (hs : Spells s cs) :
      Spells (p ++ s) (c :: cs)

/-! ### Reading a spelling -/

theorem toNat_valid (c : Char) : c.toNat < 0xD800 ∨ 0xDFFF < c.toNat ∧ c.toNat < 0x110000 :=
  c.valid

theorem codePoint_codePoint {ds : List Char} {c : Char} (h : IsCodeUnit ds c.toNat)
    (s : List Char) : codePoint (ds ++ s) = .ok (c, 4) := by
  have hlow : ¬(0xDC00 ≤ c.toNat ∧ c.toNat ≤ 0xDFFF) := by
    have := toNat_valid c
    omega
  have hbasic : c.toNat < 0xD800 ∨ 0xDFFF < c.toNat := by
    have := toNat_valid c
    omega
  rw [codePoint, hex4_of_isCodeUnit h]
  show (if 0xDC00 ≤ c.toNat ∧ c.toNat ≤ 0xDFFF then _ else _) = _
  rw [if_neg hlow, if_pos hbasic, Char.ofNat_toNat]

theorem codePoint_surrogates {s rest : List Char} {n m : Nat} (hn : hex4 s = .ok n)
    (hlead : 0xD800 ≤ n ∧ n < 0xDC00) (hdrop : s.drop 4 = '\\' :: 'u' :: rest)
    (hm : hex4 rest = .ok m) (htrail : 0xDC00 ≤ m ∧ m ≤ 0xDFFF) :
    codePoint s = .ok (Char.ofNat (0x10000 + (n - 0xD800) * 0x400 + (m - 0xDC00)), 10) := by
  have hnotTrail : ¬(0xDC00 ≤ n ∧ n ≤ 0xDFFF) := by omega
  have hnotBasic : ¬(n < 0xD800 ∨ 0xDFFF < n) := by omega
  have hpartner : ¬(m < 0xDC00 ∨ 0xDFFF < m) := by omega
  simp only [codePoint, hn, hdrop, hm, bind, Except.bind, if_neg hnotTrail, if_neg hnotBasic,
    if_neg hpartner]

theorem codePoint_pair {ds es : List Char} {c : Char} (hc : 0x10000 ≤ c.toNat)
    (hlead : IsCodeUnit ds (0xD800 + (c.toNat - 0x10000) / 0x400))
    (htrail : IsCodeUnit es (0xDC00 + (c.toNat - 0x10000) % 0x400)) (s : List Char) :
    codePoint (ds ++ '\\' :: 'u' :: (es ++ s)) = .ok (c, 10) := by
  have hvalid := toNat_valid c
  have hdrop : (ds ++ '\\' :: 'u' :: (es ++ s)).drop 4 = '\\' :: 'u' :: (es ++ s) := by
    rw [← hlead.length, List.drop_left]
  rw [codePoint_surrogates (hex4_of_isCodeUnit hlead _) (by omega) hdrop
    (hex4_of_isCodeUnit htrail s) (by omega)]
  have hvalue : 0x10000 + (0xD800 + (c.toNat - 0x10000) / 0x400 - 0xD800) * 0x400 +
      (0xDC00 + (c.toNat - 0x10000) % 0x400 - 0xDC00) = c.toNat := by omega
  rw [hvalue, Char.ofNat_toNat]

theorem stringFrom_skip (p s : List Char) : stringFrom p.length (p ++ s) = stringFrom 0 s := by
  induction p with
  | nil => rfl
  | cons c p ih => rw [List.length_cons, List.cons_append, stringFrom, ih]

theorem stringFrom_backslash {p s : List Char} {c : Char}
    (he : escape (p ++ s) = .ok (c, p.length)) :
    stringFrom 0 ('\\' :: (p ++ s)) = (stringFrom 0 s).map fun r => (c :: r.1, r.2) := by
  rw [stringFrom, if_neg (by decide), if_pos rfl, he]
  dsimp only [bind, Except.bind]
  rw [stringFrom_skip]
  cases stringFrom 0 s <;> rfl

theorem stringFrom_spellsChar {p : List Char} {c : Char} (h : SpellsChar p c) (s : List Char) :
    stringFrom 0 (p ++ s) = (stringFrom 0 s).map fun r => (c :: r.1, r.2) := by
  cases h with
  | plain hquote hslash hctl =>
    rw [List.singleton_append, stringFrom, if_neg hquote, if_neg hslash, if_neg hctl]
    cases stringFrom 0 s <;> rfl
  | @short e _ h =>
    have hu : e ≠ 'u' := by
      rintro rfl
      cases shortEscape?_of_mem h
    have hesc : escape (e :: s) = .ok (c, 1) := by
      unfold escape
      split
      · next h' => cases h'
      · next h' =>
        cases h'
        exact absurd rfl hu
      · next h' =>
        cases h'
        rw [shortEscape?_of_mem h]
    exact stringFrom_backslash (p := [e]) hesc
  | @codePoint ds _ h =>
    have hesc : escape ('u' :: ds ++ s) = .ok (c, ('u' :: ds).length) := by
      rw [List.cons_append, escape, codePoint_codePoint h, List.length_cons, h.length]
      rfl
    exact stringFrom_backslash hesc
  | @pair ds es _ hc hlead htrail =>
    have hesc : escape ('u' :: (ds ++ '\\' :: 'u' :: es) ++ s) =
        .ok (c, ('u' :: (ds ++ '\\' :: 'u' :: es)).length) := by
      simp only [List.cons_append, List.append_assoc, escape, codePoint_pair hc hlead htrail,
        List.length_cons, List.length_append, hlead.length, htrail.length]
      rfl
    exact stringFrom_backslash hesc

/-- However a text is spelled, it is read as that text, up to the closing quote. -/
theorem stringFrom_spells {s cs : List Char} (h : Spells s cs) (rest : List Char) :
    stringFrom 0 (s ++ '"' :: rest) = .ok (cs, rest) := by
  induction h with
  | nil => rw [List.nil_append, stringFrom, if_pos rfl]
  | cons hp _ ih =>
    rw [List.append_assoc, stringFrom_spellsChar hp, ih]
    rfl

theorem stringBody_spells {s : List Char} {t : String} (h : Spells s t.toList) (rest : List Char) :
    stringBody (s ++ '"' :: rest) = .ok (t, rest) := by
  rw [stringBody, stringFrom_spells h]
  show Except.ok (String.ofList t.toList, rest) = _
  rw [String.ofList_toList]

/-! ### The spelling that is written -/

theorem isCodeUnit_control {c : Char} (hc : c.toNat < 0x20) :
    IsCodeUnit ['0', '0', hexDigit (c.toNat / 16), hexDigit c.toNat] c.toNat := by
  have hzero : IsHexDigit '0' 0 := ⟨by decide, .inl rfl⟩
  have hsum : 0 * 4096 + 0 * 256 + c.toNat / 16 % 16 * 16 + c.toNat % 16 = c.toNat := by omega
  have h := IsCodeUnit.digits hzero hzero (isHexDigit_hexDigit (c.toNat / 16))
    (isHexDigit_hexDigit c.toNat)
  rwa [hsum] at h

theorem spellsChar_escapeChar (c : Char) : SpellsChar (escapeChar c) c := by
  unfold escapeChar
  split
  · subst c; exact .short (by decide)
  split
  · subst c; exact .short (by decide)
  split
  · subst c; exact .short (by decide)
  split
  · subst c; exact .short (by decide)
  split
  · subst c; exact .short (by decide)
  split
  · subst c; exact .short (by decide)
  split
  · subst c; exact .short (by decide)
  split
  · exact .codePoint (isCodeUnit_control ‹_›)
  · exact .plain ‹_› ‹_› ‹_›

theorem spells_escaped (cs : List Char) : Spells (cs.flatMap escapeChar) cs := by
  induction cs with
  | nil => exact .nil
  | cons c cs ih => exact .cons (spellsChar_escapeChar c) ih

theorem literal_append (s r : List Char) :
    literal s ++ r = '"' :: (s.flatMap escapeChar ++ '"' :: r) := by
  rw [literal, List.cons_append, List.append_assoc, List.singleton_append]

/-! ### Literals that nobody looks at -/

/-- A character or an escape in a literal that nobody looks at. -/
inductive IsPiece : List Char → Prop where
  | plain {c : Char} (hquote : c ≠ '"') (hslash : c ≠ '\\') (hctl : ¬c.toNat < 0x20) : IsPiece [c]
  | short {e c : Char} (h : (e, c) ∈ shortEscapes) : IsPiece ['\\', e]
  | codeUnit {ds : List Char} {n : Nat} (h : IsCodeUnit ds n) : IsPiece ('\\' :: 'u' :: ds)

theorem skipString_skip (p s : List Char) : skipString p.length (p ++ s) = skipString 0 s := by
  induction p with
  | nil => rfl
  | cons c p ih => rw [List.length_cons, List.cons_append, skipString, ih]

theorem skipString_backslash {p s : List Char} (he : skipEscape (p ++ s) = .ok p.length) :
    skipString 0 ('\\' :: (p ++ s)) = skipString 0 s := by
  rw [skipString, if_neg (by decide), if_pos rfl, he]
  exact skipString_skip p s

theorem skipString_piece {p : List Char} (h : IsPiece p) (s : List Char) :
    skipString 0 (p ++ s) = skipString 0 s := by
  cases h with
  | plain hquote hslash hctl =>
    rw [List.singleton_append, skipString, if_neg hquote, if_neg hslash, if_neg hctl]
  | @short e c h =>
    have hu : e ≠ 'u' := by
      rintro rfl
      cases shortEscape?_of_mem h
    have hesc : skipEscape (e :: s) = .ok 1 := by
      unfold skipEscape
      split
      · next h' => cases h'
      · next h' =>
        cases h'
        exact absurd rfl hu
      · next h' =>
        cases h'
        rw [shortEscape?_of_mem h]
        rfl
    exact skipString_backslash (p := [e]) hesc
  | @codeUnit ds n h =>
    have hesc : skipEscape ('u' :: ds ++ s) = .ok ('u' :: ds).length := by
      rw [List.cons_append, skipEscape, hex4_of_isCodeUnit h, List.length_cons, h.length]
      rfl
    exact skipString_backslash hesc

/-- The inside of a literal that nobody looks at. -/
inductive IsInside : List Char → Prop where
  | nil : IsInside []
  | cons {p s : List Char} (hp : IsPiece p) (hs : IsInside s) : IsInside (p ++ s)

theorem skipString_isInside {s : List Char} (h : IsInside s) (rest : List Char) :
    skipString 0 (s ++ '"' :: rest) = .ok rest := by
  induction h with
  | nil => rw [List.nil_append, skipString, if_pos rfl]
  | cons hp _ ih => rw [List.append_assoc, skipString_piece hp, ih]

end Storefront.Json
