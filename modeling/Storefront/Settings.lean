import Storefront.Translation

/-!
# Settings and store

What the storefront's helpers can read: the settings of the site and of its theme, the translator
to the current locale and the content of the page's regions. What they keep from one call to the
next, and from one rendering to the next, is the store.
-/

namespace Storefront

structure Settings where
  site : Table Json.Value := []
  theme : Table Json.Value := []
  translator : Option Translator := none
  content : Table Json.Value := []

/-- What the helpers remember. -/
abbrev Store := Table Json.Value

end Storefront
