import Storefront.FileSystem.Access

/-!
# Templates in a directory

The templates of a directory are its files with the extension `.html`, at any depth. A template is
named by the names that lead to its file, without the extension; a file that is called like the
extension is none. Where a single dot would be left of a name, there are two.
-/

namespace Storefront.FileTree

/-- The end of the names of template files. -/
def templateExtension : List Char := ['.', 'h', 't', 'm', 'l']

/-- The name of a template file without its extension, if it is one. -/
def stem? (name : String) : Option String :=
  let cs := name.toList
  let stem := cs.take (cs.length - templateExtension.length)
  if templateExtension.isSuffixOf cs ∧ stem ≠ [] then
    some (if stem = ['.'] then ".." else String.ofList stem)
  else none

/-- The template name of the file that names lead to, if it is a template. -/
def templateName? (names : List String) : Option String :=
  (names.getLast?.bind stem?).map fun stem => "/".intercalate (names.dropLast ++ [stem])

/-- The templates of a directory, each name with the file's text. Fails at the first file in the
order of `files` that is no text, with the names that lead to it. -/
def templates (t : FileTree) : Except (List String) (Table String) :=
  t.files.foldlM (fun found f =>
    match templateName? f.1, f.2 with
    | some name, .text s => .ok (found.insert name s)
    | some _, .binary _ => .error f.1
    | none, _ => .ok found) []

end Storefront.FileTree
