import Storefront.Mismatch

/-!
# Why a configuration is refused

A configuration is refused if its text is malformed, and otherwise for the first problem in reading
order: a node of the wrong shape, or too much nesting. A problem with a node is reported with the
path of the node.
-/

namespace Storefront.Configuration

/-- A step from a collection to one of its nodes. -/
inductive PathStep where
  | key (name : String)
  | index (i : Nat)
  /-- The value under a key that is no scalar. -/
  | unknown
deriving DecidableEq

/-- The way from the root of a document to a node. -/
abbrev Path := List PathStep

/-- A path as text: keys behind dots and indices in brackets. -/
def Path.text (p : Path) : String :=
  p.foldl (fun s step =>
    let dotted (name : String) : String := if s.isEmpty then name else s ++ "." ++ name
    match step with
    | .key name => dotted name
    | .unknown => dotted "?"
    | .index i => s ++ "[" ++ toString i ++ "]") ""

/-- Why a configuration is refused. -/
inductive Error where
  /-- The text is not well-formed or holds several documents. -/
  | malformed
  /-- Collections nest too deep. -/
  | tooDeep
  /-- Aliases are followed too often. -/
  | tooManyAliases
  /-- A node has the wrong shape. -/
  | mismatch (path : Path) (m : Mismatch)
  /-- An integer does not fit into the data language. -/
  | outOfRange (path : Path)
deriving DecidableEq

namespace Error

/-- A reason behind the path of its node; the root has none. -/
def located (path : Path) (reason : String) : String :=
  if path.isEmpty then reason else path.text ++ ": " ++ reason

/-- What is wrong with a well-formed text. -/
def reason? : Error → Option String
  | malformed => none
  | tooDeep => some "recursion limit exceeded"
  | tooManyAliases => some "repetition limit exceeded"
  | mismatch path m => some (located path m.message)
  | outOfRange path => some (located path "JSON number out of range")

/-- The wording of an error; the syntax of a malformed text is not described. -/
def message? (e : Error) : Option String :=
  e.reason?.map ("Failed to parse renderer configuration: " ++ ·)

end Error

end Storefront.Configuration
