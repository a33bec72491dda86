import Storefront.Json.Writer

/-!
# Values as tags show them

A tag writes strings as they are, null as nothing, and arrays item by item; an object has no text
of its own. The same values decide blocks: `isTruthy` is false for everything empty and for zero.
-/

namespace Storefront.Json.Value

mutual

/-- The text that a tag writes for a value. -/
def shown : Value → List Char
  | null => []
  | bool true => ['t', 'r', 'u', 'e']
  | bool false => ['f', 'a', 'l', 's', 'e']
  | number n => n.text
  | string s => s.toList
  | array items => '[' :: (shownItems items ++ [']'])
  | object _ => "[object]".toList

/-- The texts of the items of an array, separated by commas. -/
def shownItems : List Value → List Char
  | [] => []
  | [v] => shown v
  | v :: w :: rest => shown v ++ ',' :: ' ' :: shownItems (w :: rest)

end

/-- Whether a value counts as true. A number does unless it is zero or too small for full
precision; with `includeZero` every number does. -/
def isTruthy (includeZero : Bool) : Value → Bool
  | null => false
  | bool b => b
  | number (.whole n) => includeZero || n.val != 0
  | number (.double x) => includeZero || x.isNormal
  | string s => !s.isEmpty
  | array items => !items.isEmpty
  | object fields => !fields.isEmpty

end Storefront.Json.Value
