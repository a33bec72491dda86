import Storefront.Artifact.Basic
import Storefront.Artifact.Gate
import Storefront.Builtin.Basic
import Storefront.Error
import Storefront.Escape
import Storefront.Render.Interpreter
import Storefront.Render.Language
import Storefront.Template.Compile

/-!
# Registered templates

A registry holds compiled templates by path and the helpers that its templates may call; of what
kind these are is left open, and a run is told what to make of them. A text that is registered is a
source or an artifact; the first one registered under a path stays, and later ones are not even
looked at. Preprocessing turns sources into artifacts and passes artifacts through.
-/

namespace Storefront

open Template (CompileError)
open Render (Environment Failure Helper)

/-! ### Compiling and restoring -/

/-- Why an engine refuses a text or fails to run a template. -/
inductive EngineError where
  | compile (e : CompileError)
  | unreadable (e : Json.ReadError)
  /-- The source in an artifact does not compile. -/
  | invalidBody (e : CompileError)
  | incompatible (e : Compiler.Incompatible)
  | render (f : Failure)
deriving DecidableEq

def EngineError.message : EngineError → String
  | compile e => e.message
  | unreadable e => e.message
  | invalidBody e => "invalid precompiled template body: " ++ e.message
  | incompatible e => e.message
  | render f => f.message

namespace Dialect

def compile (d : Dialect) (source : String) : Except EngineError Template :=
  (Template.compile d source).mapError .compile

/-- The artifact of a source that compiles. -/
def precompile (d : Dialect) (source : String) : Except EngineError String := do
  let _ ← d.compile source
  return (Artifact.ofSource d.compiler source).toJson

/-- The template of an artifact whose revision the dialect accepts. -/
def template (d : Dialect) (a : Artifact) : Except EngineError Template := do
  (d.compiler.check a.revision a.versions).mapError .incompatible
  (Template.compile d a.main).mapError .invalidBody

def readArtifact (text : String) : Except EngineError Artifact :=
  (Artifact.ofJson text).mapError .unreadable

/-- The template of a text that carries the markers of an artifact, `none` for a source. -/
def restore (d : Dialect) (text : String) : Except Error (Option Template) :=
  if Artifact.isPrecompiled text.toList then
    match readArtifact text >>= d.template with
    | .ok t => .ok (some t)
    | .error e => .error (.format none e.message)
  else .ok none

end Dialect

/-! ### The registry -/

/-- How many levels of parts a stack of the usual size has room for. -/
def usualDepth : Nat := 5000

/-- A registry whose helpers are of the kind `H`. -/
structure Registry (H : Type) where
  dialect : Dialect
  templates : Table Template := []
  /-- The helpers that were registered by name. -/
  helpers : Table H := []
  /-- How many levels of parts the stack has room for. -/
  depth : Nat := usualDepth

namespace Registry

variable {H : Type}

/-- The registry of a dialect without templates. -/
def empty (H : Type) (d : Dialect) (depth : Nat := usualDepth) : Registry H where
  dialect := d
  depth := depth

def isLoaded (r : Registry H) (path : String) : Bool :=
  r.templates.contains path

/-- Puts a template under a path, in place of what was there. -/
def put (r : Registry H) (path : String) (t : Template) : Registry H :=
  { r with templates := r.templates.insert path t }

def addHelper (r : Registry H) (name : String) (h : H) : Registry H :=
  { r with helpers := r.helpers.insert name h }

/-- The template of a source or an artifact. -/
def build (d : Dialect) (path text : String) : Except Error Template := do
  match ← (d.restore text).mapError (·.atPath path) with
  | some t => return t
  | none => (d.compile text).mapError fun e => .compile (some path) e.message

/-- Registers a source or an artifact under a path, unless something is registered there; tells
whether it did. -/
def add (r : Registry H) (path text : String) : Except Error (Bool × Registry H) :=
  if r.isLoaded path then .ok (false, r)
  else (build r.dialect path text).map fun t => (true, r.put path t)

/-- Registers entries in order up to the first that fails; what was registered before stays. -/
def addMany (r : Registry H) : List (String × String) → Except Error Unit × Registry H
  | [] => (.ok (), r)
  | (path, text) :: rest =>
    match r.add path text with
    | .ok (_, r) => r.addMany rest
    | .error e => (.error e, r)

/-! ### Preprocessing -/

/-- What preprocessing makes of a list of entries: artifacts by path, in the order in which they
were last stored, and the errors in the order of their entries. -/
structure Preprocessed where
  artifacts : List (String × String) := []
  errors : List Error := []

namespace Preprocessed

def isOk (p : Preprocessed) : Bool :=
  p.errors.isEmpty

/-- Stores an artifact behind all others, in place of an earlier one for its path. -/
def store (p : Preprocessed) (path artifact : String) : Preprocessed :=
  { p with artifacts := p.artifacts.filter (fun a => a.1 ≠ path) ++ [(path, artifact)] }

def reject (p : Preprocessed) (e : Error) : Preprocessed :=
  { p with errors := p.errors ++ [e] }

end Preprocessed

def preprocessEntry (d : Dialect) (p : Preprocessed) (entry : String × String) : Preprocessed :=
  let (path, text) := entry
  if Artifact.isPrecompiled text.toList then p.store path text
  else
    match d.precompile text with
    | .ok artifact => p.store path artifact
    | .error e => p.reject (.compile (some path) e.message)

/-- Preprocesses all entries, whatever fails among them. -/
def preprocessAll (r : Registry H) (entries : List (String × String)) : Preprocessed :=
  entries.foldl (preprocessEntry r.dialect) {}

/-- The artifacts of all entries, or the first error. -/
def preprocess (r : Registry H) (entries : List (String × String)) :
    Except Error (List (String × String)) :=
  let p := r.preprocessAll entries
  match p.errors with
  | e :: _ => .error e
  | [] => .ok p.artifacts

/-! ### Running -/

variable {σ : Type}

/-- The environment of a run: registered helpers hide the language's own of the same name. `bind`
makes a helper of a registered one. -/
def environment (r : Registry H) (bind : String → H → Helper σ) (data : Json.Value) :
    Environment σ where
  escape := r.dialect.escape
  helper? name :=
    match r.helpers.get? name with
    | some h => some (bind name h)
    | none => Render.Language.helper? name
  templates := r.templates
  root := data
  depth := r.depth

def run (r : Registry H) (bind : String → H → Helper σ) (t : Template) (data : Json.Value)
    (store : σ) : Except (Halt EngineError) String × σ :=
  let (result, store) := (r.environment bind data).render t store
  (result.mapError (·.map .render), store)

/-- Runs the template that is registered under a path. -/
def execute (r : Registry H) (bind : String → H → Helper σ) (path : String) (data : Json.Value)
    (store : σ) : Except (Halt EngineError) String × σ :=
  match r.templates.get? path with
  | some t => r.run bind t data store
  | none => (.error (.failed (.render { reason := .templateNotFound path })), store)

/-- Parses and runs a source, whatever the dialect. -/
def runSource (r : Registry H) (bind : String → H → Helper σ) (source : String) (data : Json.Value)
    (store : σ) : Except (Halt EngineError) String × σ :=
  match Template.parse source.toList with
  | .ok t => r.run bind t data store
  | .error e => (.error (.failed (.render { reason := .invalidSource e })), store)

/-- Compiles a source and, if it compiles, runs it without registering it. The run does not use what
was compiled. -/
def executeSource (r : Registry H) (bind : String → H → Helper σ) (source : String)
    (data : Json.Value) (store : σ) : Except (Halt EngineError) String × σ :=
  match r.dialect.compile source with
  | .ok _ => r.runSource bind source data store
  | .error e => (.error (.failed e), store)

end Registry

end Storefront
