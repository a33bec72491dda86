import Storefront.Configuration.Error
import Storefront.Json.Value
import Storefront.Yaml.Node
import Storefront.Yaml.Schema

/-!
# Decoding documents

Decoders take nodes apart: texts, tables, values of the data language and records with known
fields. They go through a document once and stop at the first problem. Aliases are followed as they
are met, so both the depth of nesting and the number of aliases have a limit; parts that nobody
looks at are passed over and count for neither.
-/

namespace Storefront.Configuration

open Json (Value)
open Yaml (Node Document Datum)

/-- Decoding counts the aliases that it follows. -/
abbrev Decode := StateT Nat (Except Error)

namespace Decode

/-- A shape that a node does not have. -/
def unexpected (path : Path) (expected : String) : Node → Error
  | .scalar tag isPlain s =>
    match Datum.ofScalar tag isPlain s with
    | .ok d => .mismatch path (.type d.found expected)
    | .error m => .mismatch path m
  | .sequence _ _ => .mismatch path (.type .sequence expected)
  | .mapping _ _ => .mismatch path (.type .map expected)
  | .void | .reference _ => .malformed

/-- The node that an alias repeats, or the node itself. -/
def follow (d : Document) : Node → Decode Node
  | .reference n => do
    modify (· + 1)
    if 100 * d.size < (← get) then throw .tooManyAliases
    return d.anchor n
  | n => return n

/-- The text of a scalar of any kind. -/
def string (d : Document) (path : Path) (expected : String) (n : Node) : Decode String := do
  match ← follow d n with
  | .scalar _ _ s => return s
  | n => throw (unexpected path expected n)

/-- The path of the value under a key. -/
def entryPath (path : Path) : Node → Path
  | .scalar _ _ s => path ++ [.key s]
  | _ => path ++ [.unknown]

/-- The entries of a mapping. A plain scalar that is empty counts as a mapping without entries. -/
def mapping (d : Document) (path : Path) (expected : String) (n : Node) :
    Decode (List (Node × Node)) := do
  match ← follow d n with
  | .mapping _ entries => return entries
  | .scalar tag isPlain s =>
    if isPlain && s.isEmpty then return []
    else throw (unexpected path expected (.scalar tag isPlain s))
  | .void => return []
  | n => throw (unexpected path expected n)

/-- Decodes entries into a table; of a repeated key the last value counts. `key i` is what the key
of entry `i` is expected to be. -/
def table {α : Type} (d : Document) (path : Path) (key : Nat → String)
    (value : Path → Node → Decode α) (entries : List (Node × Node)) : Decode (Table α) :=
  entries.zipIdx.foldlM (fun t e => do
    let k ← string d path (key e.2) e.1.1
    return t.insert k (← value (entryPath path e.1.1) e.1.2)) []

/-- The value of a datum. Numbers that are not finite become null. -/
def ofDatum (path : Path) : Datum → Decode Value
  | .null | .infinity _ | .notANumber => return .null
  | .bool b => return .bool b
  | .integer n =>
    match Json.Integer.ofInt? n with
    | some n => return .number (.whole n)
    | none => throw (.outOfRange path)
  | .double x => return .number (.double x)
  | .text s => return .string s

/-- A node with a local tag is no value of the data language. -/
def untagged (path : Path) (tag : Option String) : Decode Unit :=
  if Datum.isLocal tag then throw (.mismatch path (.type .enum "any valid JSON value"))
  else return ()

/-- Decodes a value of the data language within the given depth. -/
def value (d : Document) : (depth : Nat) → Path → Node → Decode Value
  | depth, path, n => do
    match ← follow d n with
    | .scalar tag isPlain s =>
      untagged path tag
      match Datum.ofScalar tag isPlain s with
      | .ok datum => ofDatum path datum
      | .error m => throw (.mismatch path m)
    | .sequence tag items =>
      untagged path tag
      match depth with
      | 0 => throw .tooDeep
      | depth + 1 =>
        return .array (← items.zipIdx.mapM fun e => value d depth (path ++ [.index e.2]) e.1)
    | .mapping tag entries =>
      untagged path tag
      match depth with
      | 0 => throw .tooDeep
      | depth + 1 =>
        let key (i : Nat) : String := if i = 0 then "a string key" else "a string"
        return .object (← table d path key (value d depth) entries)
    | .void => return .null
    | .reference _ => throw .malformed

/-- Decodes the fields of a record from the entries of a mapping. `field` decodes the field of a
known name at a path into the record `r`, and is `none` for other names. -/
def record {ρ : Type} (d : Document) (path : Path)
    (field : String → Option (Path → Node → ρ → Decode ρ)) :
    (seen : List String) → List (Node × Node) → ρ → Decode ρ
  | _, [], r => return r
  | seen, (k, v) :: rest, r => do
    let name ← string d path "field identifier" k
    match field name with
    | none => record d path field seen rest r
    | some decode =>
      if seen.contains name then throw (.mismatch path (.duplicate name))
      let r ← decode (entryPath path k) v r
      record d path field (name :: seen) rest r

end Decode

end Storefront.Configuration
