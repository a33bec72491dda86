import Storefront.Text.Quoted

/-!
# Data of the wrong shape

A decoder that expects one kind of data and meets another reports both. `Found` is what was met,
in the few details that a message shows; `Mismatch` is the whole complaint.
-/

namespace Storefront

/-- What a decoder met. -/
inductive Found where
  | null
  | unit
  | boolean (b : Bool)
  | integer (n : Int)
  /-- An integer that only fits into 128 bits. -/
  | wideInteger (n : Int)
  /-- A floating point number by its text. -/
  | floating (text : String)
  | string (s : String)
  | sequence
  | map
  /-- A tagged value. -/
  | enum
deriving DecidableEq, Repr

/-- The data found, in the words of a message. -/
def Found.describe : Found → String
  | null => "null"
  | unit => "unit value"
  | boolean b => "boolean \x60" ++ (if b then "true" else "false") ++ "\x60"
  | integer n => "integer \x60" ++ toString n ++ "\x60"
  | wideInteger n =>
    "integer \x60" ++ toString n ++ "\x60 as " ++ (if n < 0 then "i128" else "u128")
  | floating text => "floating point \x60" ++ text ++ "\x60"
  | string s => "string " ++ Text.quote s
  | sequence => "sequence"
  | map => "map"
  | enum => "enum"

/-- Why well-formed data was refused. -/
inductive Mismatch where
  | type (found : Found) (expected : String)
  | value (found : Found) (expected : String)
  | length (count : Nat) (expected : String)
  | missing (field : String)
  | duplicate (field : String)
deriving DecidableEq, Repr

def Mismatch.message : Mismatch → String
  | type found expected => "invalid type: " ++ found.describe ++ ", expected " ++ expected
  | value found expected => "invalid value: " ++ found.describe ++ ", expected " ++ expected
  | length count expected => "invalid length " ++ toString count ++ ", expected " ++ expected
  | missing field => "missing field \x60" ++ field ++ "\x60"
  | duplicate field => "duplicate field \x60" ++ field ++ "\x60"

end Storefront
