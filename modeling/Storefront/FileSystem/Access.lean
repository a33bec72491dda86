import Storefront.FileSystem.Tree

/-!
# Reading and writing files

A file system is a tree with a working directory. Paths are texts: names with slashes between them,
where an empty name and a single dot stand for the directory that was reached, and two dots for the
one around it. A path that starts with a slash starts at the root of the tree.
-/

namespace Storefront

/-- Why a file cannot be read or written. -/
inductive FileError where
  | notFound
  | notADirectory
  | isADirectory
  | nameTooLong
  | zeroInPath
  | notText
deriving DecidableEq, Repr

def FileError.message : FileError → String
  | notFound => "No such file or directory (os error 2)"
  | notADirectory => "Not a directory (os error 20)"
  | isADirectory => "Is a directory (os error 21)"
  | nameTooLong => "File name too long (os error 36)"
  | zeroInPath => "file name contained an unexpected NUL byte"
  | notText => "stream did not contain valid UTF-8"

structure FileSystem where
  root : FileTree
  /-- The names that lead to the working directory. -/
  working : List String := []

namespace FileSystem

/-- The longest name and the longest path, in bytes. -/
def nameLimit : Nat := 255
def pathLimit : Nat := 4095

/-- The names between the slashes of a path. -/
def splitPath : List Char → List (List Char)
  | [] => [[]]
  | c :: rest =>
    if c = '/' then [] :: splitPath rest
    else
      match splitPath rest with
      | name :: names => (c :: name) :: names
      | [] => [[c]]

/-- The names of a path that can be looked up at all. -/
def names (path : String) : Except FileError (List String) :=
  if path.isEmpty then .error .notFound
  else if path.toList.contains '\x00' then .error .zeroInPath
  else if pathLimit < path.utf8ByteSize then .error .nameTooLong
  else .ok ((splitPath path.toList).map String.ofList)

/-- Where a path starts. -/
def start (fs : FileSystem) (path : String) : List String :=
  if path.toList.head? = some '/' then [] else fs.working

/-- Follows the names of a path from the place `here`. -/
def follow (fs : FileSystem) : (here : List String) → List String → Except FileError (List String)
  | here, [] => .ok here
  | here, name :: rest =>
    match fs.root.get? here with
    | some (.directory entries) =>
      if name = "" ∨ name = "." then fs.follow here rest
      else if name = ".." then fs.follow here.dropLast rest
      else if nameLimit < name.utf8ByteSize then .error .nameTooLong
      else if Table.contains entries name then fs.follow (here ++ [name]) rest
      else .error .notFound
    | some (.file _) => .error .notADirectory
    | none => .error .notFound

/-- The tree at a path. -/
def get (fs : FileSystem) (path : String) : Except FileError FileTree := do
  let here ← fs.follow (fs.start path) (← names path)
  match fs.root.get? here with
  | some t => return t
  | none => throw .notFound

def isDirectory (fs : FileSystem) (path : String) : Bool :=
  match fs.get path with
  | .ok (.directory _) => true
  | _ => false

def readText (fs : FileSystem) (path : String) : Except FileError String := do
  match ← fs.get path with
  | .file (.text s) => return s
  | .file (.binary _) => throw .notText
  | .directory _ => throw .isADirectory

/-- Writes a text to a file, which is made if it is missing; its directory has to exist. -/
def writeText (fs : FileSystem) (path text : String) : Except FileError FileSystem := do
  let all ← names path
  let some last := all.reverse.dropWhile (· = "") |>.head? | throw .isADirectory
  let front := (all.reverse.dropWhile (· = "")).tail.reverse
  let here ← fs.follow (fs.start path) front
  match fs.root.get? here with
  | some (.directory entries) =>
    if all.getLast? = some "" ∨ last = "." ∨ last = ".." then throw .isADirectory
    else if nameLimit < last.utf8ByteSize then throw .nameTooLong
    else
      match Table.get? entries last with
      | some (.directory _) => throw .isADirectory
      | _ => return { fs with root := fs.root.put (here ++ [last]) (.file (.text text)) }
  | some (.file _) => throw .notADirectory
  | none => throw .notFound

/-- A path with more names behind it. -/
def joinPath (path : String) (names : List String) : String :=
  let slash := if path.toList.getLast? = some '/' then "" else "/"
  path ++ slash ++ "/".intercalate names

end FileSystem

end Storefront
