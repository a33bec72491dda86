import Storefront.Render.Helper
import Storefront.Render.Show
import Storefront.Json.Reader

/-!
# The helpers of the language

Conditions, loops, look-ups and comparisons that every template can use. None of them keeps a
store.
-/

namespace Storefront.Render.Language

open Json (Value)

/-- The body if the condition holds, else the other part. -/
def branch (condition : Bool) : Outcome :=
  if condition then .body else .inverse

/-- Both conditions report a missing parameter under the name of the first. -/
def condition (positive : Bool) (i : Invocation) : Except Reason Outcome := do
  let v ← i.param "if" 0
  let includeZero := match i.hash.get? "includeZero" with
    | some (.bool b) => b
    | _ => false
  return branch (v.isTruthy includeZero == positive)

/-- The names of a round: its value and, behind it, its index or key. -/
def roundNames (names : BlockNames) (value key : Value) : Table Value :=
  match names with
  | .none => []
  | .one v => [(v, value)]
  | .two v k => Table.ofList [(v, value), (k, key)]

/-- The rounds over a row of values and their keys. -/
def roundsOf (names : BlockNames) (count : Nat) (isObject : Bool) (entries : List (Value × Value)) :
    List Round :=
  entries.zipIdx.map fun ((key, value), n) =>
    { value
      locals := Table.ofList (
        [("first", .bool (n == 0)), ("last", .bool (n + 1 == count)), ("index", .ofNat n)] ++
          if isObject then [("key", key)] else [])
      names := roundNames names value key }

def each (i : Invocation) : Except Reason Outcome := do
  match ← i.param "each" 0 with
  | .array items =>
    if items.isEmpty then return .inverse
    let keys := (List.range items.length).map Value.ofNat
    return .rounds (roundsOf i.names items.length false (keys.zip items))
  | .object fields =>
    if fields.isEmpty then return .inverse
    return .rounds (roundsOf i.names fields.length true
      (fields.map fun f => (.string f.1, f.2)))
  | _ => return .inverse

def within (i : Invocation) : Except Reason Outcome := do
  let v ← i.param "with" 0
  if v.isTruthy false then
    return .within v (match i.names with
      | .one name => [(name, v)]
      | _ => [])
  else return .inverse

def lookup (i : Invocation) : Except Reason Outcome := do
  let collection ← i.param "lookup" 0
  let index ← i.param "lookup" 1
  let found : Option Value := match collection, index with
    | .array items, .number (.whole n) => if n.val < 0 then none else items[n.val.toNat]?
    | .object fields, .string key => Table.get? fields key
    | _, _ => none
  return .value (found.getD .null)

def levels : List String := ["error", "warn", "info", "debug", "trace"]

/-- Writes nothing; only the level is looked at. -/
def log (i : Invocation) : Except Reason Outcome :=
  let level := ((i.hash.get? "level").bind Value.string?).getD "info"
  if String.ofList (level.toList.map Char.toLower) ∈ levels then .ok .nothing
  else .error (.invalidLevel level)

/-- The number that a string spells, without anything around it. -/
def numberOf? (s : String) : Option Json.Number :=
  match s.toList with
  | [] => none
  | c :: rest =>
    if c = '-' ∨ c.isDigit then
      match Json.number (c :: rest) with
      | .ok (n, []) => some n
      | _ => none
    else none

/-- The order of two values, for those that have one: numbers by size whatever their kind, strings
by code points, truth values with false first; a string beside a number counts as the number that
it spells. -/
def order? : Value → Value → Option Ordering
  | .number m, .number n => some (compare m.units n.units)
  | .string s, .string t => some (compareOfLessAndEq s t)
  | .bool a, .bool b => some (compare a b)
  | .number m, .string t => (numberOf? t).map fun n => compare m.units n.units
  | .string s, .number n => (numberOf? s).map fun m => compare m.units n.units
  | _, _ => none

/-- A decision about two parameters. -/
def relation (name : String) (holds : Value → Value → Bool) (i : Invocation) :
    Except Reason Outcome := do
  let x ← i.param name 0
  let y ← i.param name 1
  return .verdict (holds x y)

def negation (i : Invocation) : Except Reason Outcome := do
  let v ← i.param "not" 0
  return .verdict (!v.isTruthy false)

/-- The size of an array or object, and the length of a string in bytes. -/
def len (i : Invocation) : Except Reason Outcome :=
  match i.params.head? with
  | none => .error (.missingNamed "len" "x")
  | some v =>
    .ok (.value (.ofNat (match v with
      | .array items => items.length
      | .object fields => fields.length
      | .string s => s.utf8ByteSize
      | _ => 0)))

/-- The helper of the language called `name`. -/
def helper? {σ : Type} : String → Option (Helper σ)
  | "if" => some (.pure (condition true))
  | "unless" => some (.pure (condition false))
  | "each" => some (.pure each)
  | "with" => some (.pure within)
  | "lookup" => some (.pure lookup)
  | "raw" => some (.pure fun _ => .ok .body)
  | "log" => some (.pure log)
  | "eq" => some (.pure (relation "eq" Value.same))
  | "ne" => some (.pure (relation "ne" fun x y => !x.same y))
  | "gt" => some (.pure (relation "gt" fun x y => order? x y == some .gt))
  | "gte" => some (.pure (relation "gte" fun x y => (order? x y).any (· != .lt)))
  | "lt" => some (.pure (relation "lt" fun x y => order? x y == some .lt))
  | "lte" => some (.pure (relation "lte" fun x y => (order? x y).any (· != .gt)))
  | "and" => some (.pure fun i => .ok (.verdict (i.params.all (·.isTruthy false))))
  | "or" => some (.pure fun i => .ok (.verdict (i.params.any (·.isTruthy false))))
  | "not" => some (.pure negation)
  | "len" => some (.pure len)
  | _ => none

end Storefront.Render.Language
