import Storefront.Text.Blank

/-!
# Telling artifacts from sources

A registered text is either a template's source or an artifact. `isPrecompiled` decides by the
markers alone and never parses: somewhere there is a `"compiler"` array, and after its first
closing bracket, anywhere, a `"main"` string. White space may stand around the colons. A source
that carries such markers counts as an artifact, however it continues.
-/

namespace Storefront.Artifact

open Text (isBlank)

/-- What follows `part` at the front of a text. -/
def after? : (part : List Char) → List Char → Option (List Char)
  | [], s => some s
  | _ :: _, [] => none
  | c :: part, d :: s => if c = d then after? part s else none

/-- Whether a suffix of a text, the text itself included, satisfies `p`. -/
def anySuffix (p : List Char → Bool) : List Char → Bool
  | [] => p []
  | c :: rest => p (c :: rest) || anySuffix p rest

/-- What follows a quoted name, a colon and the white space around it at the front of a text. -/
def afterName? (quoted : List Char) (s : List Char) : Option (List Char) := do
  let s ← after? quoted s
  let s ← after? [':'] (s.dropWhile isBlank)
  return s.dropWhile isBlank

/-- Whether a text starts with the field of a string named `main`. -/
def startsMain (s : List Char) : Bool :=
  match afterName? ['"', 'm', 'a', 'i', 'n', '"'] s with
  | some ('"' :: _) => true
  | _ => false

/-- What follows the array of a field named `compiler` at the front of a text. -/
def afterCompiler? (s : List Char) : Option (List Char) :=
  match afterName? ['"', 'c', 'o', 'm', 'p', 'i', 'l', 'e', 'r', '"'] s with
  | some ('[' :: rest) => after? [']'] (rest.dropWhile (· != ']'))
  | _ => none

/-- Whether a text starts with the markers of an artifact. -/
def startsMarkers (s : List Char) : Bool :=
  match afterCompiler? s with
  | some rest => anySuffix startsMain rest
  | none => false

/-- Whether a text carries the markers of an artifact. -/
def isPrecompiled (s : List Char) : Bool :=
  anySuffix startsMarkers s

end Storefront.Artifact
