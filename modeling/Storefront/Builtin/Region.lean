import Storefront.Settings
import Storefront.Escape

/-!
# Content regions

A region of the page is an element that carries the region's name and holds its content: the text
of a value, or the texts of all items of an array.
-/

namespace Storefront.Region

open Json (Value)

def contentText : Option Value → String
  | none => ""
  | some (.array items) => String.join (items.map Value.toText)
  | some v => v.toText

/-- The element of a region. Its name is escaped as v4 escapes, in either dialect. -/
def element (s : Settings) (name : String) : String :=
  String.ofList ("<div data-content-region=\"".toList ++ Dialect.v4.escape name.toList ++
    "\">".toList ++ (contentText (s.content.get? name)).toList ++ "</div>".toList)

end Storefront.Region
