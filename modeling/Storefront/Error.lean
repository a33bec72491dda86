/-!
# Errors of a renderer

Every operation of a renderer that fails reports one error. An error that belongs to a registered
template carries the path of its registration. An operation that runs templates may also end without
an answer, when it needs more of the stack than there is.
-/

namespace Storefront

/-- Why an operation that runs templates ends without its result. -/
inductive Halt (ε : Type) where
  /-- It fails, and reports an error. -/
  | failed (e : ε)
  /-- The stack is used up. Nothing is reported: the program itself ends. -/
  | overflow
deriving DecidableEq, Repr

namespace Halt

/-- Changes the error that is reported. -/
def map {ε ε' : Type} (f : ε → ε') : Halt ε → Halt ε'
  | failed e => failed (f e)
  | overflow => overflow

/-- An operation that runs no template either succeeds or reports an error. -/
instance {ε : Type} : MonadLift (Except ε) (Except (Halt ε)) := ⟨Except.mapError failed⟩

@[simp] theorem liftM_ok {ε α : Type} (a : α) :
    (liftM (.ok a : Except ε α) : Except (Halt ε) α) = .ok a := rfl

end Halt

inductive ErrorKind where
  | compile
  | format
  | render
  | decorator
  | notFound
deriving DecidableEq, Repr

def ErrorKind.name : ErrorKind → String
  | compile => "CompileError"
  | format => "FormatError"
  | render => "RenderError"
  | decorator => "DecoratorError"
  | notFound => "TemplateNotFoundError"

inductive Error where
  /-- A source does not compile. -/
  | compile (path : Option String) (message : String)
  /-- An artifact cannot be read or does not fit the dialect. -/
  | format (path : Option String) (message : String)
  /-- A template fails while it is run. -/
  | render (path : Option String) (message : String)
  /-- The decorator at `index` fails. -/
  | decorator (index : Nat) (message : String)
  /-- Nothing is registered under a path. -/
  | notFound (path : String)
deriving DecidableEq, Repr

namespace Error

def kind : Error → ErrorKind
  | compile _ _ => .compile
  | format _ _ => .format
  | render _ _ => .render
  | decorator _ _ => .decorator
  | notFound _ => .notFound

/-- The path that an error refers to, if any. -/
def path : Error → Option String
  | compile p _ | format p _ | render p _ => p
  | decorator _ _ => none
  | notFound p => some p

/-- The message without its label. -/
def message : Error → String
  | compile _ m | format _ m | render _ m | decorator _ m => m
  | notFound p => p

/-- The error of a template that is registered under `p`, for the kinds that name one. -/
def atPath (e : Error) (p : String) : Error :=
  match e with
  | compile _ m => compile (some p) m
  | format _ m => format (some p) m
  | render _ m => render (some p) m
  | e => e

/-- A label, the path if there is one, and the message. -/
def labelled (label : String) (path : Option String) (message : String) : String :=
  match path with
  | some p => label ++ " in '" ++ p ++ "': " ++ message
  | none => label ++ ": " ++ message

/-- The full wording of an error. -/
def display : Error → String
  | compile p m => labelled "Compile error" p m
  | format p m => labelled "Format error" p m
  | render p m => labelled "Render error" p m
  | decorator i m => "Decorator error (decorator #" ++ toString i ++ "): " ++ m
  | notFound p => "Template not found: " ++ p

end Error

end Storefront
