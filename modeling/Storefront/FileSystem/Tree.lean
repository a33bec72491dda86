import Storefront.Table

/-!
# File trees

A file tree is a file or a directory of named trees. A file holds a text, or bytes that are no text.
`files` lists the files of a tree depth first, the entries of each directory in the order of their
names.
-/

namespace Storefront

inductive FileContent where
  | text (s : String)
  /-- Bytes that are no UTF-8. -/
  | binary (bytes : ByteArray)

/-- The content of a file of the given bytes. -/
def FileContent.ofBytes (bytes : ByteArray) : FileContent :=
  match String.fromUTF8? bytes with
  | some s => text s
  | none => binary bytes

inductive FileTree where
  | file (content : FileContent)
  | directory (entries : List (String × FileTree))

namespace FileTree

def empty : FileTree := directory []

/-- The tree at the end of a way of names. -/
def get? : FileTree → List String → Option FileTree
  | t, [] => some t
  | directory entries, name :: rest => (Table.get? entries name).bind (·.get? rest)
  | file _, _ :: _ => none

/-- Puts a tree at the end of a way of names, in place of what was there. Directories on the way
are made if they are missing. -/
def put : FileTree → List String → FileTree → FileTree
  | _, [], new => new
  | directory entries, name :: rest, new =>
    directory (Table.insert entries name (((Table.get? entries name).getD empty).put rest new))
  | file _, name :: rest, new => directory [(name, empty.put rest new)]

mutual

/-- The files of a tree with the names that lead to them. -/
def files : FileTree → List (List String × FileContent)
  | file content => [([], content)]
  | directory entries => entryFiles entries

/-- The files of the entries of a directory. -/
def entryFiles : List (String × FileTree) → List (List String × FileContent)
  | [] => []
  | (name, t) :: rest => (files t).map (fun f => (name :: f.1, f.2)) ++ entryFiles rest

end

end FileTree

end Storefront
