import Storefront.Json.Value
import Storefront.Text.Quoted

/-!
# Describing values

A description shows a value on one line with the kind of every part of it, for logs and for messages
to the authors of templates.
-/

namespace Storefront

namespace Json.Value

mutual

/-- A value as a description shows it, its kind in front. -/
def describe : Value → String
  | null => "Null"
  | bool b => if b then "Bool(true)" else "Bool(false)"
  | number n => "Number(" ++ String.ofList n.text ++ ")"
  | string s => "String(" ++ Text.quote s ++ ")"
  | array items => "Array [" ++ String.intercalate ", " (describeItems items) ++ "]"
  | object fields => "Object \x7b" ++ String.intercalate ", " (describeFields fields) ++ "\x7d"

def describeItems : List Value → List String
  | [] => []
  | v :: vs => describe v :: describeItems vs

def describeFields : List (String × Value) → List String
  | [] => []
  | (k, v) :: fs => (Text.quote k ++ ": " ++ describe v) :: describeFields fs

end

/-- A table as a description shows it. -/
def describeTable (t : Table Value) : String :=
  "\x7b" ++ String.intercalate ", " (describeFields t) ++ "\x7d"

end Json.Value

end Storefront
