import Storefront.Template.Basic
import Storefront.Render.Failure

/-!
# Helpers

A helper is called by a tag with evaluated parameters. It may read and change a store of type `σ`,
and what it wants done with the page it says as an `Outcome`; it never writes itself. A helper that
fails leaves the store as it was.
-/

namespace Storefront.Render

open Json (Value)

/-- What a helper is called with. -/
structure Invocation where
  params : List Value
  hash : Table Value
  /-- The names that a block gives to values. -/
  names : BlockNames := .none

/-- One round of a loop. -/
structure Round where
  value : Value
  locals : Table Value
  names : Table Value

/-- What a helper wants done. -/
inductive Outcome where
  /-- A value: a tag writes it like any value, a call in parentheses has it as its value. -/
  | value (v : Value)
  /-- A decision: a block goes by it, any other tag writes it. -/
  | verdict (b : Bool)
  /-- A text that is written as it is. -/
  | text (s : String)
  | nothing
  /-- The body of the block. -/
  | body
  /-- The else part of the block. -/
  | inverse
  /-- The body in a new scope. -/
  | within (v : Value) (names : Table Value)
  /-- The body once for each round, in one new scope. -/
  | rounds (rs : List Round)

abbrev Helper (σ : Type) := Invocation → σ → Except Reason (Outcome × σ)

namespace Helper

/-- A helper without a store of its own. -/
def pure {σ : Type} (run : Invocation → Except Reason Outcome) : Helper σ := fun i s =>
  (run i).map fun o => (o, s)

/-- A helper on a part of a larger store. -/
def focus {σ τ : Type} (get : τ → σ) (set : τ → σ → τ) (h : Helper σ) : Helper τ := fun i t =>
  (h i (get t)).map fun r => (r.1, set t r.2)

end Helper

namespace Invocation

/-- The parameter at `index`, which the helper requires. -/
def param (i : Invocation) (helper : String) (index : Nat) : Except Reason Value :=
  match i.params[index]? with
  | some v => .ok v
  | none => .error (.missingParam helper index)

/-- The string at `index`, which the helper requires. -/
def text (i : Invocation) (helper : String) (index : Nat) : Except Reason String :=
  match i.params[index]?.bind Value.string? with
  | some s => .ok s
  | none => .error (.missingParam helper index)

end Invocation

/-- The value of a call in parentheses: what a helper writes there is a string. -/
def Outcome.result : Outcome → Value
  | value v => v
  | verdict b => .bool b
  | text s => .string s
  | _ => .string ""

end Storefront.Render
