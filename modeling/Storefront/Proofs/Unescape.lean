import Mathlib.Data.List.Basic
import Storefront.Proofs.Escape

/-!
# Escaping is safe and loses nothing

A text that is escaped holds none of the characters that could leave a text or an attribute, and an
ampersand only where it starts an entity of the dialect (`Dialect.EscapesSafely`). No entity is the
start of another, so reading them from left to right, `unescape`, recovers every text from what
either dialect makes of it, also if the text holds entities or pieces of entities itself. The
dialects stay in step: v4 writes what v3 writes, with the entity for every equals sign
(`escape_v4_eq`).
-/

namespace Storefront

/-- The characters that both dialects escape, each with its entity. -/
def commonEntities : List (Char × List Char) :=
  [('&', "&amp;".toList), ('<', "&lt;".toList), ('>', "&gt;".toList), ('"', "&quot;".toList),
    ('\'', "&#x27;".toList), ('\x60', "&#x60;".toList)]

/-- The characters that a dialect escapes, each with its entity. -/
def Dialect.entities : Dialect → List (Char × List Char)
  | v3 => commonEntities
  | v4 => ('=', equalsEntity) :: commonEntities

/-- The entity at the front of a text, of those that a dialect writes, with its character. -/
def entityAt? (s : List Char) : Option (Char × List Char) :=
  Dialect.v4.entities.find? fun e => e.2.isPrefixOf s

/-- Reads entities, after skipping `skip` characters of one that has been read already. -/
def unescapeFrom : (skip : Nat) → List Char → List Char
  | _, [] => []
  | skip + 1, _ :: rest => unescapeFrom skip rest
  | 0, c :: rest =>
    match entityAt? (c :: rest) with
    | some (d, entity) => d :: unescapeFrom (entity.length - 1) rest
    | none => c :: unescapeFrom 0 rest

/-- A text with all entities read, from left to right. -/
def unescape (s : List Char) : List Char :=
  unescapeFrom 0 s

/-! ### Entities -/

variable {d : Dialect} {c : Char} {entity : List Char}

theorem Dialect.entities_subset (d : Dialect) : d.entities ⊆ v4.entities := by
  cases d with
  | v3 => exact List.subset_cons_self _ _
  | v4 => exact List.Subset.refl _

theorem exists_tail_of_mem_entities (h : (c, entity) ∈ d.entities) :
    ∃ tail, entity = '&' :: tail ∧ '&' ∉ tail := by
  have hall : ∀ e ∈ Dialect.v4.entities, e.2 = '&' :: e.2.tail ∧ '&' ∉ e.2.tail := by decide
  exact ⟨entity.tail, hall _ (d.entities_subset h)⟩

theorem not_mem_entity {c' : Char} (h : (c, entity) ∈ d.entities)
    (hc : c' ∈ ['<', '>', '"', '\'', '\x60', '=']) : c' ∉ entity := by
  have hall : ∀ e ∈ Dialect.v4.entities,
      e.2.all fun x => x ∉ ['<', '>', '"', '\'', '\x60', '='] := by decide
  intro hmem
  exact of_decide_eq_true (List.all_eq_true.1 (hall _ (d.entities_subset h)) c' hmem) hc

theorem ampersand_mem_entities (d : Dialect) : '&' ∈ d.entities.map Prod.fst := by
  cases d <;> decide

theorem mem_commonEntities_of_entity? (h : entity? c = some entity) :
    (c, entity) ∈ commonEntities := by
  unfold entity? at h
  split at h <;> cases h <;> decide

theorem not_mem_commonEntities_of_entity? (h : entity? c = none) :
    c ∉ commonEntities.map Prod.fst := by
  intro hmem
  simp only [commonEntities, List.map_cons, List.map_nil, List.mem_cons, List.not_mem_nil,
    or_false] at hmem
  rcases hmem with rfl | rfl | rfl | rfl | rfl | rfl <;> cases h

theorem escapeChar_cases (d : Dialect) (c : Char) :
    (c, d.escapeChar c) ∈ d.entities ∨
      d.escapeChar c = [c] ∧ c ∉ d.entities.map Prod.fst := by
  unfold Dialect.escapeChar
  cases h : entity? c with
  | some entity =>
    have hmem := mem_commonEntities_of_entity? h
    cases d with
    | v3 => exact .inl hmem
    | v4 => exact .inl (List.mem_cons_of_mem _ hmem)
  | none =>
    have hnot := not_mem_commonEntities_of_entity? h
    cases d with
    | v3 => exact .inr ⟨if_neg nofun, hnot⟩
    | v4 =>
      by_cases hc : c = '='
      · subst c
        exact .inl List.mem_cons_self
      · refine .inr ⟨if_neg fun h => hc h.1, ?_⟩
        exact List.not_mem_cons_of_ne_of_not_mem hc hnot

/-! ### Reading entities -/

theorem unescapeFrom_append (a b : List Char) : unescapeFrom a.length (a ++ b) = unescape b := by
  induction a with
  | nil => rfl
  | cons c a ih => exact ih

/-- No entity is the start of another, so at most one stands at the front of a text. -/
theorem entityAt?_append (h : (c, entity) ∈ d.entities) (s : List Char) :
    entityAt? (entity ++ s) = some (c, entity) := by
  have hmem := d.entities_subset h
  simp only [Dialect.entities, commonEntities, List.mem_cons, List.not_mem_nil, or_false,
    Prod.mk.injEq] at hmem
  rcases hmem with ⟨rfl, rfl⟩ | ⟨rfl, rfl⟩ | ⟨rfl, rfl⟩ | ⟨rfl, rfl⟩ | ⟨rfl, rfl⟩ | ⟨rfl, rfl⟩ |
    ⟨rfl, rfl⟩ <;> rfl

theorem unescape_entity (h : (c, entity) ∈ d.entities) (s : List Char) :
    unescape (entity ++ s) = c :: unescape s := by
  have hat := entityAt?_append h s
  obtain ⟨tail, rfl, -⟩ := exists_tail_of_mem_entities h
  rw [List.cons_append] at hat ⊢
  rw [unescape, unescapeFrom, hat]
  exact congrArg (c :: ·) (unescapeFrom_append tail s)

theorem unescape_cons (hc : c ≠ '&') (s : List Char) : unescape (c :: s) = c :: unescape s := by
  have hat : entityAt? (c :: s) = none := by
    refine List.find?_eq_none.2 fun e he => ?_
    have he : (e.1, e.2) ∈ Dialect.v4.entities := he
    obtain ⟨tail, htail, -⟩ := exists_tail_of_mem_entities he
    rw [htail, List.isPrefixOf_iff_prefix, List.cons_prefix_cons]
    exact fun h => hc h.1.symm
  rw [unescape, unescapeFrom, hat]
  rfl

/-! ### Escaped texts -/

theorem escape_cons (d : Dialect) (c : Char) (s : List Char) :
    d.escape (c :: s) = d.escapeChar c ++ d.escape s :=
  List.flatMap_cons

theorem escape_append (d : Dialect) (s t : List Char) :
    d.escape (s ++ t) = d.escape s ++ d.escape t :=
  List.flatMap_append

theorem not_mem_escape {c' : Char} (hc : c' ∈ ['<', '>', '"', '\'', '\x60', '='])
    (hd : c' ∈ d.entities.map Prod.fst) (s : List Char) : c' ∉ d.escape s := by
  intro hmem
  obtain ⟨c, -, hmem⟩ := List.mem_flatMap.1 hmem
  rcases escapeChar_cases d c with hentity | ⟨hplain, hnot⟩
  · exact not_mem_entity hentity hc hmem
  · rw [hplain, List.mem_singleton] at hmem
    exact hnot (hmem ▸ hd)

theorem mem_entities_of_escapeChar {before after : List Char}
    (h : d.escapeChar c = before ++ '&' :: after) : (c, '&' :: after) ∈ d.entities := by
  rcases escapeChar_cases d c with hentity | ⟨hplain, hnot⟩
  · rw [h] at hentity
    cases before with
    | nil => exact hentity
    | cons b before =>
      -- No entity has a second ampersand.
      obtain ⟨tail, htail, hamp⟩ := exists_tail_of_mem_entities hentity
      obtain ⟨-, rfl⟩ := List.cons.inj htail
      exact absurd (List.mem_append_right _ List.mem_cons_self) hamp
  · have hamp : '&' = c := by
      rw [← List.mem_singleton, ← hplain, h]
      exact List.mem_append_right _ List.mem_cons_self
    exact absurd (hamp ▸ ampersand_mem_entities d) hnot

theorem exists_entity_of_escape {s before after : List Char}
    (h : d.escape s = before ++ '&' :: after) : ∃ e ∈ d.entities, e.2 <+: '&' :: after := by
  induction s generalizing before with
  | nil => simp [Dialect.escape] at h
  | cons c s ih =>
    rw [escape_cons] at h
    -- The ampersand stands behind the piece of the first character, or in it.
    rcases List.append_eq_append_iff.1 h with ⟨rest, -, hs⟩ | ⟨piece, hpiece, hs⟩
    · exact ih hs
    · cases piece with
      | nil => exact ih (show d.escape s = [] ++ '&' :: after from hs.symm)
      | cons c' piece =>
        obtain ⟨rfl, hafter⟩ := List.cons.inj hs
        refine ⟨_, mem_entities_of_escapeChar hpiece, ?_⟩
        rw [hafter]
        exact List.prefix_append ('&' :: piece) _

theorem unescape_escape (d : Dialect) (s : List Char) : unescape (d.escape s) = s := by
  induction s with
  | nil => rfl
  | cons c s ih =>
    rw [escape_cons]
    rcases escapeChar_cases d c with hentity | ⟨hplain, hnot⟩
    · rw [unescape_entity hentity, ih]
    · have hamp : c ≠ '&' := fun heq => hnot (heq ▸ ampersand_mem_entities d)
      rw [hplain, List.singleton_append, unescape_cons hamp, ih]

/-- What escaping in a dialect is good for. -/
structure Dialect.EscapesSafely (d : Dialect) : Prop where
  /-- An escaped text cannot open a tag or leave an attribute. -/
  safe : ∀ s, ∀ c ∈ ['<', '>', '"', '\'', '\x60'], c ∉ d.escape s
  /-- Every ampersand starts one of the dialect's own entities. -/
  ampersand : ∀ s before after, d.escape s = before ++ '&' :: after →
    ∃ e ∈ d.entities, e.2 <+: '&' :: after
  append : ∀ s t, d.escape (s ++ t) = d.escape s ++ d.escape t
  /-- The text can be recovered, by the same reader for both dialects. -/
  decodes : ∀ s, unescape (d.escape s) = s
  injective : ∀ s t, d.escape s = d.escape t → s = t

theorem escapesSafely (d : Dialect) : d.EscapesSafely where
  safe s c hc := by
    have hcommon : c ∈ commonEntities.map Prod.fst := List.mem_cons_of_mem '&' hc
    have hd : c ∈ d.entities.map Prod.fst := by
      cases d with
      | v3 => exact hcommon
      | v4 => exact List.mem_cons_of_mem _ hcommon
    exact not_mem_escape (List.mem_append_left ['='] hc) hd s
  ampersand _ _ _ h := exists_entity_of_escape h
  append := escape_append d
  decodes := unescape_escape d
  injective s t h := by rw [← unescape_escape d s, h, unescape_escape]

/-- A text that holds an entity and the pieces of another is recovered as it was. -/
example : unescape (Dialect.v3.escape "&lt;=&#x3".toList) = "&lt;=&#x3".toList := by
  decide

/-! ### The dialects in step -/

theorem escape_v4_eq (s : List Char) :
    Dialect.v4.escape s = Text.replaceAll ['='] equalsEntity (Dialect.v3.escape s) := by
  rw [Text.replaceAll_single, Dialect.escape, Dialect.escape, List.flatMap_assoc]
  refine congrArg s.flatMap (funext fun c => ?_)
  unfold Dialect.escapeChar
  cases h : entity? c with
  | some entity =>
    have hentity : (c, entity) ∈ Dialect.v3.entities := mem_commonEntities_of_entity? h
    have hkept (x : Char) (hx : x ∈ entity) : (if x = '=' then equalsEntity else [x]) = [x] :=
      if_neg fun heq => not_mem_entity hentity (by decide) (heq ▸ hx)
    exact ((List.flatMap_congr hkept).trans (List.flatMap_singleton' entity)).symm
  | none => by_cases hc : c = '=' <;> simp [hc, equalsEntity]

end Storefront
