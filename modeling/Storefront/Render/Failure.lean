import Storefront.Error
import Storefront.Template.Error

/-!
# Why a rendering fails

A rendering fails for one reason, at the place of the innermost element that has one.
-/

namespace Storefront.Render

inductive Reason where
  | helperNotFound (name : String)
  | partNotFound (name : String)
  /-- A part asks for the content of a block that was not given. -/
  | noBlockContent
  | decoratorNotFound (name : String)
  | missingParam (helper : String) (index : Nat)
  | missingNamed (helper name : String)
  | invalidParamType (expected : String)
  | blockContentRequired
  /-- A path goes into an array by a step that is no index. -/
  | invalidIndex (step : String)
  | invalidLevel (level : String)
  | templateNotFound (name : String)
  /-- What is to be run does not parse. -/
  | invalidSource (e : Template.CompileError)
deriving DecidableEq, Repr

def Reason.message : Reason → String
  | helperNotFound name => "Helper not found " ++ name
  | partNotFound name => "Partial not found " ++ name
  | noBlockContent => "Partial block cound not be found"
  | decoratorNotFound name => "Decorator not found " ++ name
  | missingParam helper index =>
    "Helper/Decorator " ++ helper ++ " param at index " ++ toString index ++
      " required but not found"
  | missingNamed helper name =>
    "Helper/Decorator " ++ helper ++ " param with name " ++ name ++ " required but not found"
  | invalidParamType expected => "Invalid param type, " ++ expected ++ " expected"
  | blockContentRequired => "Block content required"
  | invalidIndex step => "Cannot access array/vector with string index, " ++ step
  | invalidLevel level => "Invalid logging level: " ++ level
  | templateNotFound name => "Template not found " ++ name
  | invalidSource e => "Failed to parse template " ++ e.message

/-- A reason and where it arose. -/
structure Failure where
  reason : Reason
  position : Option Text.Position := none
deriving DecidableEq, Repr

namespace Failure

/-- The failure, placed at `p` unless it has a place already. -/
def at? (f : Failure) (p : Option Text.Position) : Failure :=
  { f with position := f.position <|> p }

def message (f : Failure) : String :=
  match f.position with
  | some p =>
    "Error rendering \"Unnamed template\" line " ++ toString p.line ++ ", col " ++
      toString p.column ++ ": " ++ f.reason.message
  | none => f.reason.message

end Failure

end Storefront.Render
