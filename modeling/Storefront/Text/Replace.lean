/-!
# Replacing text

`replaceAll old new s` writes `new` in place of every occurrence of `old` in `s`, found from left
to right and without overlap. An empty `old` occurs before every character and at the end.
-/

namespace Storefront.Text

/-- Replaces occurrences of a non-empty `old`, after skipping `skip` characters of an occurrence
that has been replaced already. -/
def replaceFrom (old new : List Char) : (skip : Nat) → List Char → List Char
  | _, [] => []
  | skip + 1, _ :: rest => replaceFrom old new skip rest
  | 0, c :: rest =>
    if old.isPrefixOf (c :: rest) then new ++ replaceFrom old new (old.length - 1) rest
    else c :: replaceFrom old new 0 rest

/-- Writes `new` for every occurrence of `old`. -/
def replaceAll (old new s : List Char) : List Char :=
  if old.isEmpty then new ++ s.flatMap fun c => c :: new else replaceFrom old new 0 s

/-- Whether `part` occurs in `s`. -/
def occursIn (part : List Char) : List Char → Bool
  | [] => part.isEmpty
  | c :: rest => part.isPrefixOf (c :: rest) || occursIn part rest

end Storefront.Text
