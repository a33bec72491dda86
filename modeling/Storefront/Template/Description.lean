import Storefront.Json.Description
import Storefront.Template.Basic

/-!
# Describing expressions

A block may be named by a call. Such a name has no text of its own, so a message shows the call in
full: every part with its kind, and all fields of a call, of which only the name and the parameters
are ever set.
-/

namespace Storefront

/-- The steps of a path, its keys behind what it starts with. -/
def Path.describeSteps (p : Path) : List String :=
  (if p.fromRoot then ["Ruled(path_root)"] else []) ++
    (if p.isMarked then ["Ruled(path_local)"] else []) ++
    List.replicate p.levels "Ruled(path_up)" ++
    p.keys.map fun key => "Named(" ++ Text.quote key ++ ")"

/-- A path as a description shows it: a local variable by its name, any other path by its steps. -/
def Path.describe (p : Path) : String :=
  match p.origin with
  | .variable levels name =>
    "Local((" ++ toString levels ++ ", " ++ Text.quote name ++ ", " ++ Text.quote p.text ++ "))"
  | _ =>
    "Relative(([" ++ String.intercalate ", " p.describeSteps ++ "], " ++ Text.quote p.text ++ "))"

namespace Expr

/-- A call as a description shows it, from the descriptions of its parts. -/
def describeCall (name : String) (params hash : List String) : String :=
  let call := Text.record "HelperTemplate"
    [("name", name),
      ("params", "[" ++ String.intercalate ", " params ++ "]"),
      ("hash", "\x7b" ++ String.intercalate ", " hash ++ "\x7d"),
      ("block_param", "None"), ("template", "None"), ("inverse", "None"),
      ("block", "false"), ("chain", "false"), ("indent_before_write", "false")]
  "Subexpression(" ++ Text.record "Subexpression" [("element", "Expression(" ++ call ++ ")")] ++ ")"

mutual

/-- An expression as a description shows it. -/
def describe : Expr → String
  | name text => "Name(" ++ Text.quote text ++ ")"
  | path p => "Path(" ++ p.describe ++ ")"
  | literal v => "Literal(" ++ v.describe ++ ")"
  | call callee params hash =>
    describeCall callee.describe (describeParams params) (describeHash hash)

def describeParams : List Expr → List String
  | [] => []
  | e :: es => describe e :: describeParams es

def describeHash : List (String × Expr) → List String
  | [] => []
  | (k, e) :: es => (Text.quote k ++ ": " ++ describe e) :: describeHash es

end

end Expr

end Storefront
