import Storefront.Table
import Storefront.Number.Shortest

/-!
# The data language

Contexts, settings, content regions and helper storage are all values of one data language. Its
numbers are either whole numbers between `-2 ^ 63` and `2 ^ 64 - 1` or floating point numbers, and
the two kinds are never equal; its objects are tables, so their keys are always in order.
-/

namespace Storefront.Json

/-- A whole number that the data language can hold. -/
structure Integer where
  val : Int
  lower : -0x8000000000000000 ≤ val
  upper : val < 0x10000000000000000
deriving DecidableEq

namespace Integer

/-- `n` as a whole number of the data language, if it is in range. -/
def ofInt? (n : Int) : Option Integer :=
  if h : -0x8000000000000000 ≤ n ∧ n < 0x10000000000000000 then some ⟨n, h.1, h.2⟩ else none

def zero : Integer := ⟨0, by decide, by decide⟩

theorem ofInt?_val (n : Integer) : ofInt? n.val = some n := by
  rw [ofInt?, dif_pos ⟨n.lower, n.upper⟩]

end Integer

inductive Number where
  | whole (n : Integer)
  | double (x : Binary64)
deriving DecidableEq

namespace Number

/-- Equality of numbers of one kind; a whole number never equals a floating point number. -/
def same : Number → Number → Bool
  | whole m, whole n => m == n
  | double x, double y => x.same y
  | _, _ => false

/-- The value in units of `2 ^ -1074`, in which every number of both kinds is whole. -/
def units : Number → Int
  | whole n => n.val * Binary64.unitsInOne
  | double x => x.signedUnits

/-- The number as text: whole numbers by their digits, floating point numbers by the shortest
digits that read back, always with a point or an exponent. -/
def text : Number → List Char
  | whole n => (toString n.val).toList
  | double x => x.text .json

end Number

/-- A value of the data language. -/
inductive Value where
  | null
  | bool (b : Bool)
  | number (n : Number)
  | string (s : String)
  | array (items : List Value)
  | object (fields : List (String × Value))

namespace Value

instance : Inhabited Value := ⟨null⟩

/-- The whole number `n`, of which no digit is lost while it is in range. -/
def ofInt (n : Int) : Value :=
  match Integer.ofInt? n with
  | some n => number (.whole n)
  | none => null

def ofNat (n : Nat) : Value :=
  ofInt n

def string? : Value → Option String
  | string s => some s
  | _ => none

def object? : Value → Option (Table Value)
  | object fields => some fields
  | _ => none

def empty : Value := object []

mutual

/-- Structural equality, numbers compared by `Number.same`. -/
def same : Value → Value → Bool
  | null, null => true
  | bool a, bool b => a == b
  | number m, number n => m.same n
  | string s, string t => s == t
  | array xs, array ys => sameItems xs ys
  | object xs, object ys => sameFields xs ys
  | _, _ => false

def sameItems : List Value → List Value → Bool
  | [], [] => true
  | x :: xs, y :: ys => same x y && sameItems xs ys
  | _, _ => false

def sameFields : List (String × Value) → List (String × Value) → Bool
  | [], [] => true
  | (k, x) :: xs, (l, y) :: ys => k == l && same x y && sameFields xs ys
  | _, _ => false

end

end Value

end Storefront.Json
