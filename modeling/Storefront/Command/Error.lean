import Storefront.Configuration.Error
import Storefront.Error
import Storefront.FileSystem.Access
import Storefront.Json.Error

/-!
# Why a command fails

A command that fails names what it was doing and, behind that, the cause. `chain` is the wording of
both, the outermost first.
-/

namespace Storefront

inductive CommandError where
  | unreadableConfiguration (path : String) (e : FileError)
  | invalidConfiguration (path : String) (e : Configuration.Error)
  | unreadableContext (path : String) (e : FileError)
  | invalidContext (path : String) (e : Json.ReadError)
  /-- A context file holds a value that is no object. -/
  | contextWithoutFields (path : String)
  | unreadableBundle (path : String) (e : FileError)
  | invalidBundle (path : String) (e : Json.ReadError)
  | unreadableTemplate (path : String) (e : FileError)
  /-- A template of the directory or bundle at a path cannot be registered. -/
  | registration (templates : String) (e : Error)
  /-- The template that is registered under a path cannot be rendered. -/
  | rendering (path : String) (e : Error)
  /-- A source cannot be rendered. -/
  | renderingSource (e : Error)
  | noDirectory (path : String)
  /-- The errors of all templates that cannot be compiled. -/
  | precompilation (errors : List Error)
  | unwritableBundle (path : String) (e : FileError)
deriving DecidableEq

namespace CommandError

/-- What failed and why. The syntax of a malformed configuration is not described. -/
def chain : CommandError → List String
  | unreadableConfiguration path e =>
    ["Failed to load configuration " ++ path, "IO error reading " ++ path ++ ": " ++ e.message]
  | invalidConfiguration path e => ("Failed to load configuration " ++ path) :: e.message?.toList
  | unreadableContext path e => ["Failed to read context file " ++ path, e.message]
  | invalidContext path e => ["Failed to parse context file " ++ path, e.message]
  | contextWithoutFields path => ["Context file " ++ path ++ " must contain a JSON object"]
  | unreadableBundle path e => ["Failed to read template bundle " ++ path, e.message]
  | invalidBundle path e => ["Failed to parse template bundle " ++ path, e.message]
  | unreadableTemplate path e => ["Failed to read template " ++ path, e.message]
  | registration templates e => ["Failed to register templates from " ++ templates, e.display]
  | rendering path e => ["Failed to render " ++ path, e.display]
  | renderingSource e => ["Failed to render template source", e.display]
  | noDirectory path => ["Template directory does not exist: " ++ path]
  | precompilation errors =>
    ["Failed to precompile " ++ toString errors.length ++ " template(s):\n  " ++
      "\n  ".intercalate (errors.map Error.display)]
  | unwritableBundle path e => ["Failed to write bundle " ++ path, e.message]

end CommandError

end Storefront
