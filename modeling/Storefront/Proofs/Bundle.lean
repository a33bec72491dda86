import Storefront.Bundle
import Storefront.Proofs.Json.Object
import Storefront.Proofs.Table

/-!
# Bundles read back

A bundle is written as an object with a field for every template, and it is read as the table that
it was written from, with or without a line break behind it (`read_write`).
-/

namespace Storefront.Bundle
open Json (Blanks Field Takes TakesAll objectText entry writeIndentedFields)

/-- The field of a template as it is written. -/
def fieldOf (e : String × String) : Field where
  before := ['\n', ' ', ' ']
  key := e.1.toList.flatMap Json.escapeChar
  afterColon := [' ']
  value := Json.literal e.2.toList
  blanks := by decide

/-- The white space in front of the closing brace. -/
def inside : Table String → List Char
  | [] => []
  | _ :: _ => ['\n']

theorem blanks_inside (t : Table String) : Blanks (inside t) := by
  cases t with
  | nil => exact .nil
  | cons e t => exact (by decide : Blanks ['\n'])

theorem text_fieldOf (k v : String) :
    (fieldOf (k, v)).text =
      "\n  ".toList ++ Json.literal k.toList ++ [':', ' '] ++ Json.literal v.toList := by
  have hbreak : "\n  ".toList = ['\n', ' ', ' '] := rfl
  rw [hbreak]
  simp only [Field.text, Field.fromQuote, Field.fromKey, fieldOf, Json.literal, List.append_assoc,
    List.cons_append, List.nil_append, List.append_nil]

theorem writeIndentedFields_eq (t : Table String) :
    writeIndentedFields t = [','].intercalate (t.map fun e => (fieldOf e).text) := by
  match t with
  | [] => rfl
  | [(k, v)] =>
    rw [writeIndentedFields, List.map_singleton, List.intercalate_singleton, text_fieldOf]
  | (k, v) :: f :: rest =>
    rw [writeIndentedFields, writeIndentedFields_eq (f :: rest)]
    simp only [List.map_cons, List.intercalate_cons_cons, text_fieldOf, List.append_assoc,
      List.singleton_append]

theorem writeIndented_eq (t : Table String) :
    Json.writeIndented t = objectText (t.map fieldOf) (inside t) := by
  cases t with
  | nil => rfl
  | cons e t =>
    rw [Json.writeIndented, writeIndentedFields_eq, objectText, List.map_map]
    rfl

theorem takes_fieldOf (t : Table String) (e : String × String) :
    Takes (entry Json.string) t (fieldOf e) (t.insert e.1 e.2) := by
  refine ⟨e.1, Json.spells_escaped e.1.toList, ?_⟩
  intro s _
  have hcolon := Json.colon_append .nil (' ' :: (Json.literal e.2.toList ++ s))
  have hstring : Json.string (' ' :: (Json.literal e.2.toList ++ s)) = .ok (e.2, s) := by
    have hread := Json.stringBody_spells (Json.spells_escaped e.2.toList) s
    rw [Json.literal_append]
    exact hread
  rw [List.nil_append] at hcolon
  simp only [Field.fromKey, fieldOf, entry, List.nil_append, List.singleton_append, hcolon, hstring,
    bind, Except.bind]

theorem takesAll_fieldOf (t new : Table String) :
    TakesAll (entry Json.string) t (new.map fieldOf) (t.insertAll new) := by
  induction new generalizing t with
  | nil => exact .nil t
  | cons e new ih => exact .cons (takes_fieldOf t e) (ih _)

/-- A bundle is read as the table that it was written from, with any white space behind it. -/
theorem read_write {t : Table String} (ht : t.Sorted) {w : List Char} (hw : Blanks w) :
    read (write t ++ String.ofList w) = .ok t := by
  obtain ⟨s, hobject, hread⟩ :=
    Json.fields_objectText (takesAll_fieldOf [] t) (blanks_inside t) w
  have htext : (write t ++ String.ofList w).toList = '{' :: s := by
    rw [write, String.toList_append, String.toList_ofList, String.toList_ofList, writeIndented_eq,
      hobject]
  have htable : Table.insertAll [] t = t := Table.ofList_eq ht
  have hempty : Json.skipBlanks w = [] := by
    have hskip := Json.skipBlanks_append hw []
    rwa [List.append_nil] at hskip
  have hfields : Json.textTable ('{' :: s) = .ok (t, w) := by
    rw [htable] at hread
    exact hread
  rw [read, htext, Json.whole, hfields]
  dsimp only [bind, Except.bind]
  rw [hempty]
  rfl

end Storefront.Bundle
