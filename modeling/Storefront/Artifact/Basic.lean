import Storefront.Artifact.Compiler
import Storefront.Json.Reader

/-!
# Artifacts

An artifact is a template that was compiled ahead of time: a JSON document with the revision and
versions of its compiler, the template's source, which compiled when the artifact was written and
is compiled again when it is read, and a flag that is kept but has no meaning here. A reader
accepts the fields in any order, among fields it does not know, and the same data as an array.
-/

namespace Storefront

structure Artifact where
  revision : UInt32
  versions : String
  main : String
  useData : Bool
deriving DecidableEq, Repr

namespace Artifact

/-- The artifact that `compiler` writes for a source. -/
def ofSource (compiler : Compiler) (source : String) : Artifact :=
  ⟨compiler.revision, compiler.versions, source, true⟩

/-- The JSON text of an artifact. -/
def write (a : Artifact) : List Char :=
  "\x7b\"compiler\":[".toList ++ (toString a.revision.toNat).toList ++
    ',' :: Json.literal a.versions.toList ++
    "],\"main\":".toList ++ Json.literal a.main.toList ++
    ",\"useData\":".toList ++ (if a.useData then "true" else "false").toList ++ ['}']

def toJson (a : Artifact) : String :=
  String.ofList a.write

open Json (Reader ReadError skipBlanks)

/-- The place of the next element of an array of fixed length, or `none` at its end. -/
def element (first : Bool) (s : List Char) : Except ReadError (Option (List Char)) :=
  match skipBlanks s with
  | [] => .error (.endOfText .list)
  | c :: rest =>
    if c = ']' then .ok none
    else if first then .ok (some (c :: rest))
    else if c = ',' then
      match skipBlanks rest with
      | [] => .error (.endOfText .value)
      | d :: after => if d = ']' then .error .trailingComma else .ok (some (d :: after))
    else .error .expectedListCommaOrEnd

/-- Reads the end of an array that has all its elements. -/
def closing (s : List Char) : Except ReadError (List Char) :=
  match skipBlanks s with
  | [] => .error (.endOfText .list)
  | c :: rest =>
    if c = ']' then .ok rest
    else if c = ',' ∧ (skipBlanks rest).head? = some ']' then .error .trailingComma
    else .error .trailingCharacters

/-- Reads one element of an array, of which `count` were read before. -/
def required {α : Type} (read : Reader α) (count : Nat) (expected : String) : Reader α :=
  fun s => do
    match ← element (count == 0) s with
    | none => .error (.mismatch (.length count expected))
    | some s => read s

/-- Reads the pair of revision and versions. -/
def readCompiler : Reader (UInt32 × String) := fun s =>
  match skipBlanks s with
  | '[' :: rest => do
    let (revision, s) ← required Json.word32 0 "a tuple of size 2" rest
    let (versions, s) ← required Json.string 1 "a tuple of size 2" s
    let s ← closing s
    .ok ((revision, versions), s)
  | s => Json.unexpected "a tuple of size 2" s

/-- What is known of an artifact while its fields are read. -/
structure Draft where
  compiler : Option (UInt32 × String) := none
  main : Option String := none
  useData : Option Bool := none

/-- Reads the value of one field; a field that is known already is refused before its value. -/
def readField (d : Draft) (key : String) : Reader Draft := fun s => do
  if key = "compiler" then
    if d.compiler.isSome then .error (.mismatch (.duplicate key))
    let (_, s) ← Json.colon s
    let (v, s) ← readCompiler s
    .ok ({ d with compiler := some v }, s)
  else if key = "main" then
    if d.main.isSome then .error (.mismatch (.duplicate key))
    let (_, s) ← Json.colon s
    let (v, s) ← Json.string s
    .ok ({ d with main := some v }, s)
  else if key = "useData" then
    if d.useData.isSome then .error (.mismatch (.duplicate key))
    let (_, s) ← Json.colon s
    let (v, s) ← Json.boolean s
    .ok ({ d with useData := some v }, s)
  else
    let (_, s) ← Json.colon s
    let s ← Json.skipValue s
    .ok (d, s)

/-- The artifact of the fields that were read. -/
def Draft.finish (d : Draft) : Except ReadError Artifact :=
  match d.compiler, d.main with
  | none, _ => .error (.mismatch (.missing "compiler"))
  | _, none => .error (.mismatch (.missing "main"))
  | some (revision, versions), some main =>
    .ok ⟨revision, versions, main, d.useData.getD false⟩

/-- Reads an artifact written as an array. -/
def readElements : Reader Artifact := fun s => do
  let expected := "struct PrecompiledArtifact with 3 elements"
  let ((revision, versions), s) ← required readCompiler 0 expected s
  let (main, s) ← required Json.string 1 expected s
  match ← element false s with
  | none => do
    let s ← closing s
    .ok (⟨revision, versions, main, false⟩, s)
  | some s => do
    let (useData, s) ← Json.boolean s
    let s ← closing s
    .ok (⟨revision, versions, main, useData⟩, s)

def reader : Reader Artifact := fun s =>
  match skipBlanks s with
  | '[' :: rest => readElements rest
  | '{' :: rest => do
    let (d, s) ← Json.fields readField {} rest
    let a ← d.finish
    .ok (a, s)
  | s => Json.unexpected "struct PrecompiledArtifact" s

/-- Reads a text that is one artifact. -/
def ofJson (s : String) : Except ReadError Artifact :=
  Json.whole reader s.toList

end Artifact

end Storefront
