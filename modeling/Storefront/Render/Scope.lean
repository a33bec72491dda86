import Storefront.Template.Basic
import Storefront.Render.Failure

/-!
# Scopes and look-up

A rendering keeps a stack of scopes, the innermost first. A scope has a value, local variables,
the names that its block gives to values, and the parts that were defined in it. A path starts at
the root data, at a local variable, at a named value of any scope, or at the value of a scope; each
further step goes into an object by a key or into an array by an index.
-/

namespace Storefront.Render

open Json (Value)

structure Scope where
  value : Value
  locals : Table Value := []
  names : Table Value := []
  parts : Table Template := []

instance : Inhabited Scope := ⟨{ value := .null }⟩

/-- Reads an index: decimal digits below `2 ^ 64`, with an optional plus sign. -/
def index? (step : String) : Option Nat :=
  let digits := match step.toList with
    | '+' :: rest => rest
    | cs => cs
  if digits.isEmpty || !digits.all Char.isDigit then none
  else
    let n := digits.foldl (fun n c => 10 * n + (c.toNat - 48)) 0
    if n < 0x10000000000000000 then some n else none

/-- One step into a value; there is nothing inside a scalar. -/
def step (v : Value) (key : String) : Except Reason (Option Value) :=
  match v with
  | .array items =>
    match index? key with
    | some i => .ok items[i]?
    | none => .error (.invalidIndex key)
  | .object fields => .ok (Table.get? fields key)
  | _ => .ok none

/-- The value at the end of a row of steps. -/
def walk : List String → Value → Except Reason (Option Value)
  | [], v => .ok (some v)
  | key :: keys, v =>
    match step v key with
    | .ok (some w) => walk keys w
    | .ok none => .ok none
    | .error e => .error e

/-- The value that a block names `name`, the innermost block first. -/
def named? (scopes : List Scope) (name : String) : Option Value :=
  scopes.findSome? fun s => s.names.get? name

/-- The value of a path. A named value stands before data, whatever number of levels the path goes
up; the steps behind the name enter it. -/
def lookup (root : Value) (scopes : List Scope) (p : Path) : Except Reason (Option Value) :=
  match p.origin with
  | .root => walk p.keys root
  | .variable levels name => .ok (scopes[levels]?.bind fun s => s.locals.get? name)
  | .outer levels =>
    match p.keys.head?.bind (named? scopes) with
    | some v => walk p.keys.tail v
    | none =>
      match scopes[levels]? <|> scopes.head? with
      | some s => walk p.keys s.value
      | none => .ok none

/-- The part that a scope defines under `name`, the innermost scope first. -/
def part? (scopes : List Scope) (name : String) : Option Template :=
  scopes.findSome? fun s => s.parts.get? name

end Storefront.Render
