import Storefront.Text.Blank

/-!
# Template dialects

Themes are written against one of two dialects of the template language. They differ in the
characters that an output tag escapes, in the decorator tags that only the newer one has, and in
the revisions of the artifacts that they write and accept.
-/

namespace Storefront

inductive Dialect where
  | v3
  | v4
deriving DecidableEq, Repr

namespace Dialect

/-- The tag that names the dialect. -/
def tag : Dialect → String
  | v3 => "v3"
  | v4 => "v4"

/-- The dialect that a tag selects: white space around it and the case of its letters do not
count, and every unknown tag selects v3. -/
def ofTag (tag : String) : Dialect :=
  if (Text.trim tag.toList).map Char.toLower = ['v', '4'] then v4 else v3

/-- The dialect of an optional tag. -/
def ofTag? (tag : Option String) : Dialect :=
  (tag.map ofTag).getD v3

end Dialect

end Storefront
