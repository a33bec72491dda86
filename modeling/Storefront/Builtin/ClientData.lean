import Storefront.Settings

/-!
# Data for the page's scripts

Templates collect values under keys, and `expression` hands them to the page's scripts: an
expression that parses a string literal, whose content is the JSON text of what was collected.
-/

namespace Storefront.ClientData

open Json (Value)

/-- The place of the collected values in the store. -/
def slot : String := "inject"

/-- What was collected so far. -/
def collected (s : Store) : Value :=
  (s.get? slot).getD .empty

/-- Adds a value under a key. -/
def inject (s : Store) (key : String) (v : Value) : Store :=
  let fields := ((s.get? slot).bind Value.object?).getD []
  s.insert slot (.object (Table.insert fields key v))

/-- The expression that evaluates to what was collected. -/
def expression (s : Store) : String :=
  String.ofList ("JSON.parse(".toList ++ Json.literal (collected s).write ++ [')'])

end Storefront.ClientData
