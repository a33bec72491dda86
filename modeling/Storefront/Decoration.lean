import Storefront.Error
import Storefront.Text.Replace

/-!
# Decorating output

A decorator turns a rendered text into another one or fails. The decorators of a chain run in the
order in which they were added, each on the output of the one before, and the first failure ends the
run.
-/

namespace Storefront

/-- A change of a rendered text, or a failure with a message. -/
abbrev Decorator := String → Except String String

namespace Decorator

/-- Puts texts around the output. -/
def wrap (before after : String) : Decorator := fun s =>
  .ok (before ++ s ++ after)

/-- Replaces all occurrences of a text. -/
def replace (old new : String) : Decorator := fun s =>
  .ok (String.ofList (Text.replaceAll old.toList new.toList s.toList))

def fail (message : String) : Decorator := fun _ =>
  .error message

/-- Fails on outputs that contain a text. -/
def failIf (part message : String) : Decorator := fun s =>
  if Text.occursIn part.toList s.toList then .error message else .ok s

end Decorator

/-- Decorators in the order of their runs. -/
abbrev DecoratorChain := List Decorator

namespace DecoratorChain

/-- Runs decorators, of which the first is the one at `index`. -/
def applyFrom (index : Nat) : DecoratorChain → String → Except Error String
  | [], s => .ok s
  | d :: rest, s =>
    match d s with
    | .ok s => applyFrom (index + 1) rest s
    | .error message => .error (.decorator index message)

def apply (chain : DecoratorChain) (s : String) : Except Error String :=
  applyFrom 0 chain s

end DecoratorChain

end Storefront
