import Storefront.Settings

/-!
# Template variables

Variables are kept in the store as one object. A slot that holds anything else counts as empty, and
every operation, reading included, leaves an object in it.
-/

namespace Storefront.Variable

open Json (Value Integer)

/-- The place of the variables in the store. -/
def slot : String := "variables"

/-- The variables that a store holds. -/
def view (s : Store) : Table Value :=
  ((s.get? slot).bind Value.object?).getD []

/-- The store with other variables. -/
def setView (s : Store) (vars : Table Value) : Store :=
  s.insert slot (.object vars)

def assign (s : Store) (key : String) (v : Value) : Store :=
  setView s ((view s).insert key v)

/-- The value of a variable, null if it has none. -/
def get (s : Store) (key : String) : Value × Store :=
  (((view s).get? key).getD .null, setView s (view s))

/-- The counter after `n`: it stays at the largest signed number of 64 bits. -/
def successor (n : Integer) : Integer :=
  if h : n.val < 0x7FFFFFFFFFFFFFFF then ⟨n.val + 1, by have := n.lower; omega, by omega⟩
  else ⟨0x7FFFFFFFFFFFFFFF, by decide, by decide⟩

/-- The next value of a counter. What is no signed number of 64 bits starts over at zero. -/
def next : Option Value → Integer
  | some (.number (.whole n)) => if n.val < 0x8000000000000000 then successor n else .zero
  | _ => .zero

/-- Counts a variable up. -/
def increment (s : Store) (key : String) : Integer × Store :=
  let n := next ((view s).get? key)
  (n, assign s key (.number (.whole n)))

end Storefront.Variable
