import Storefront.Proofs.Table
import Storefront.Proofs.Text.Replace
import Storefront.Proofs.Text.Split
import Storefront.Translation
import Mathlib.Data.List.Infix

/-!
# Messages with parameters

A message is read as pieces: text without braces, and names of parameters in braces. Filling it
(`fill`) puts the text of each parameter in the place of its name, all at once, and leaves the names
of other parameters. What a catalogue does is to put in one parameter after another, each also into
the values that are in the text already. The two come to the same (`translate_fills`) as long as no
value makes up the name of a later parameter in braces, be it alone or with what stands around it
(`Apart`): then every step puts in the pieces that name its parameter, and nothing else
(`Ready.replaceAll`). Otherwise a value may be changed by a parameter that the message does not name
(`translate_refills`).
-/

namespace Storefront.Catalogue

open Json (Value)

/-- A text without braces. -/
def IsPlain (s : List Char) : Prop :=
  '{' ∉ s ∧ '}' ∉ s

instance (s : List Char) : Decidable (IsPlain s) :=
  inferInstanceAs (Decidable (_ ∧ _))

/-- One piece of a message. -/
inductive Piece where
  | text (s : List Char)
  | parameter (name : String)
deriving DecidableEq

namespace Piece

/-- How the piece stands in a message. -/
def source : Piece → List Char
  | text s => s
  | parameter name => placeholder name

/-- The piece with the parameter that it names; a name without parameter stays. -/
def filled (params : Table Value) : Piece → List Char
  | text s => s
  | parameter name => ((params.get? name).map fun v => v.toText.toList).getD (placeholder name)

/-- No text between names and no name holds a brace. -/
def IsPlain : Piece → Prop
  | text s => Catalogue.IsPlain s
  | parameter name => Catalogue.IsPlain name.toList

instance : DecidablePred IsPlain
  | text s => inferInstanceAs (Decidable (Catalogue.IsPlain s))
  | parameter name => inferInstanceAs (Decidable (Catalogue.IsPlain name.toList))

end Piece

/-- The message that the pieces make up. -/
def message (pieces : List Piece) : List Char :=
  pieces.flatMap Piece.source

/-- The message with all parameters put in at once. -/
def fill (params : Table Value) (pieces : List Piece) : List Char :=
  pieces.flatMap (Piece.filled params)

/-- When a parameter is put in, after all earlier ones, its name stands in braces only where the
message has it: no run of other pieces makes it up. -/
def Apart (params : Table Value) (pieces : List Piece) : Prop :=
  ∀ p ∈ params, ∀ run, run <:+: pieces → .parameter p.1 ∉ run →
    ¬ placeholder p.1 <:+: fill (params.filter (·.1 < p.1)) run

instance (params : Table Value) (pieces : List Piece) : Decidable (Apart params pieces) :=
  decidable_of_iff
    (∀ p ∈ params, ∀ t ∈ pieces.tails, ∀ run ∈ t.inits, .parameter p.1 ∉ run →
      ¬ placeholder p.1 <:+: fill (params.filter (·.1 < p.1)) run)
    (by
      simp only [Apart, List.infix_iff_prefix_suffix, List.mem_tails, List.mem_inits]
      exact forall₂_congr fun p _ =>
        ⟨fun h run ⟨t, hrun, ht⟩ => h t ht run hrun, fun h t ht run hrun => h run ⟨t, hrun, ht⟩⟩)

/-! ### One parameter -/

variable {done params : Table Value} {pieces : List Piece} {name : String} {v : Value}

theorem placeholder_ne_nil (name : String) : placeholder name ≠ [] :=
  List.cons_ne_nil _ _

theorem unbordered_placeholder (h : IsPlain name.toList) : Text.Unbordered (placeholder name) := by
  intro b hsuffix hprefix
  rcases List.suffix_cons_iff.1 hsuffix with rfl | hinner
  · exact .inr rfl
  · -- behind the opening brace there is no other, with which `b` could start
    cases b with
    | nil => exact .inl rfl
    | cons c b =>
      obtain ⟨rfl, -⟩ := List.cons_prefix_cons.1 hprefix
      have hmem := hinner.mem List.mem_cons_self
      simp [h.1] at hmem

theorem filled_of_some (h : params.get? name = some v) :
    (Piece.parameter name).filled params = v.toText.toList := by
  rw [Piece.filled, h]
  rfl

theorem filled_of_none (h : params.get? name = none) :
    (Piece.parameter name).filled params = placeholder name := by
  rw [Piece.filled, h]
  rfl

theorem fill_nil (pieces : List Piece) : fill [] pieces = message pieces := by
  refine List.flatMap_congr fun piece _ => ?_
  cases piece with
  | text s => rfl
  | parameter name => exact filled_of_none (Table.get?_nil name)

theorem filled_append_of_ne {piece : Piece} (h : piece ≠ .parameter name) (done : Table Value)
    (v : Value) : piece.filled (done ++ [(name, v)]) = piece.filled done := by
  cases piece with
  | text s => rfl
  | parameter other =>
    have hne : ¬ name = other := fun heq => h (heq ▸ rfl)
    rw [Piece.filled, Piece.filled, Table.get?_append, Table.get?_cons, if_neg hne, Table.get?_nil,
      Option.or_none]

/-- The parameter `name` can be put into the pieces as the ones before it have left them. -/
structure Ready (done : Table Value) (name : String) (pieces : List Piece) : Prop where
  plain : IsPlain name.toList
  isNew : done.get? name = none
  apart : ∀ run, run <:+: pieces → .parameter name ∉ run → ¬ placeholder name <:+: fill done run

/-- A parameter is put into the pieces that name it. -/
theorem Ready.replaceAll (h : Ready done name pieces) (v : Value) :
    Text.replaceAll (placeholder name) v.toText.toList (fill done pieces) =
      fill (done ++ [(name, v)]) pieces := by
  have hget : (done ++ [(name, v)]).get? name = some v := by
    rw [Table.get?_append, h.isNew, Option.none_or, Table.get?_cons, if_pos rfl]
  rw [Text.replaceAll_eq (placeholder_ne_nil name)]
  exact Text.replaceFrom_flatMap (placeholder_ne_nil name) (unbordered_placeholder h.plain)
    (filled_of_none h.isNew) (filled_of_some hget)
    (fun piece _ hpiece => filled_append_of_ne hpiece done v) h.apart

/-! ### All parameters -/

theorem interpolate_fill {rest : Table Value} (hsorted : Table.Sorted (done ++ rest))
    (hnames : ∀ p ∈ rest, IsPlain p.1.toList) (hapart : Apart (done ++ rest) pieces) :
    interpolate rest (fill done pieces) = fill (done ++ rest) pieces := by
  induction rest generalizing done with
  | nil => rw [List.append_nil]; rfl
  | cons p rest ih =>
    obtain ⟨name, v⟩ := p
    have hready : Ready done name pieces := by
      refine ⟨hnames _ List.mem_cons_self, ?_, ?_⟩
      · cases hget : done.get? name with
        | none => rfl
        | some w =>
          have hlt : name < name := (List.pairwise_append.1 hsorted).2.2 _
            (Table.mem_of_get? hget) (name, v) List.mem_cons_self
          exact absurd hlt (lt_irrefl name)
      · have hclear := hapart (name, v) (List.mem_append_right _ List.mem_cons_self)
        rwa [hsorted.filter_lt] at hclear
    have hsplit : done ++ (name, v) :: rest = (done ++ [(name, v)]) ++ rest := by
      rw [List.append_assoc, List.singleton_append]
    rw [hsplit] at hsorted hapart ⊢
    rw [← ih hsorted (fun q hq => hnames q (List.mem_cons_of_mem _ hq)) hapart,
      ← hready.replaceAll v]
    rfl

theorem fill_congr {params' : Table Value}
    (h : ∀ name, .parameter name ∈ pieces → params'.get? name = params.get? name) :
    fill params' pieces = fill params pieces := by
  refine List.flatMap_congr fun piece hpiece => ?_
  cases piece with
  | text s => rfl
  | parameter name => rw [Piece.filled, Piece.filled, h name hpiece]

theorem translate_eq_fill {c : Catalogue} {key : String}
    (hmessage : c.messages.get? key = some (String.ofList (message pieces)))
    (hsorted : params.Sorted) (hnames : ∀ p ∈ params, IsPlain p.1.toList)
    (hapart : Apart params pieces) :
    c.translate key params = some (String.ofList (fill params pieces)) := by
  have hfill : interpolate params (fill [] pieces) = fill params pieces :=
    interpolate_fill hsorted hnames hapart
  rw [fill_nil] at hfill
  rw [translate, hmessage, Option.map_some, String.toList_ofList, hfill]

/-- A message is translated by putting all parameters in at once, each value as it is, provided that
no later parameter finds its name in braces where the message does not name it. Then the parameters
that the message does not name have no influence. -/
theorem translate_fills {c : Catalogue} {key : String}
    (hmessage : c.messages.get? key = some (String.ofList (message pieces)))
    (hsorted : params.Sorted) (hnames : ∀ p ∈ params, IsPlain p.1.toList)
    (hapart : Apart params pieces) :
    c.translate key params = some (String.ofList (fill params pieces)) ∧
      ∀ params' : Table Value, params'.Sorted → (∀ p ∈ params', IsPlain p.1.toList) →
        Apart params' pieces →
        (∀ name, .parameter name ∈ pieces → params'.get? name = params.get? name) →
        c.translate key params' = c.translate key params := by
  have hfill := translate_eq_fill hmessage hsorted hnames hapart
  refine ⟨hfill, fun params' hsorted' hnames' hapart' hsame => ?_⟩
  rw [hfill, translate_eq_fill hmessage hsorted' hnames' hapart', fill_congr hsame]

/-- An object, whose text has braces, a value that names an earlier parameter, and values that leave
a brace open before later parameters. -/
theorem translate_fills_braces :
    let pieces : List Piece := [.parameter "c", .text "b".toList, .parameter "d",
      .text " and ".toList, .parameter "a", .parameter "b", .parameter "e"]
    let c : Catalogue := ⟨"en-US", [("key", String.ofList (message pieces))]⟩
    let params : Table Value := [("a", .object [("b", .ofInt 1)]), ("b", .string "\x7ba\x7d"),
      ("c", .string "\x7b"), ("d", .string "\x7d"), ("f", .string "x")]
    ((∀ piece ∈ pieces, piece.IsPlain) ∧ params.Sorted ∧ (∀ p ∈ params, IsPlain p.1.toList) ∧
      Apart params pieces) ∧
      c.translate "key" params =
        some "\x7bb\x7d and \x7b\"b\":1\x7d\x7ba\x7d\x7be\x7d" ∧
      c.translate "key" (params.insert "aa" (.string "\x7bc\x7d")) = c.translate "key" params := by
  intro pieces c params
  have hmessage : c.messages.get? "key" = some (String.ofList (message pieces)) := rfl
  have hpieces : ∀ piece ∈ pieces, piece.IsPlain := by decide
  have hsorted : params.Sorted := by decide
  have hnames : ∀ p ∈ params, IsPlain p.1.toList := by decide
  have hapart : Apart params pieces := by decide +kernel
  obtain ⟨hfill, hsame⟩ := translate_fills hmessage hsorted hnames hapart
  refine ⟨⟨hpieces, hsorted, hnames, hapart⟩, ?_, ?_⟩
  · rw [hfill]
    decide +kernel
  · refine hsame _ (by decide) (by decide) (by decide +kernel) fun name hname => ?_
    rw [Table.get?_insert, if_neg]
    rintro rfl
    exact absurd hname (by decide)

/-- A value takes up a later parameter, which the message does not name. -/
theorem translate_refills :
    let pieces : List Piece := [.parameter "a"]
    let c : Catalogue := ⟨"en-US", [("key", String.ofList (message pieces))]⟩
    let params : Table Value := [("a", .string "\x7bb\x7d"), ("b", .string "x")]
    ((∀ piece ∈ pieces, piece.IsPlain) ∧ params.Sorted ∧ ∀ p ∈ params, IsPlain p.1.toList) ∧
      c.translate "key" params = some "x" ∧
      String.ofList (fill params pieces) = "\x7bb\x7d" ∧
      c.translate "key" (params.erase "b") = some "\x7bb\x7d" := by
  decide +kernel

end Storefront.Catalogue
