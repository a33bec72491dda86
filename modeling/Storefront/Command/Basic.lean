import Storefront.Bundle
import Storefront.Command.Error
import Storefront.Configuration.Basic
import Storefront.FileSystem.Templates

/-!
# Commands

A command renders one template of a directory or bundle, renders a source, or turns a directory into
a bundle. It reads the files that its options name, in a fixed order, and stops at the first
problem; a command that fails leaves all files as they were.
-/

namespace Storefront

open Json (Value)

structure RenderOptions where
  /-- The file of the context. -/
  context : Option String := none
  /-- The file of the configuration. -/
  configuration : Option String := none
  /-- A dialect tag in place of the configuration's. -/
  engine : Option String := none
deriving DecidableEq

inductive Command where
  /-- Writes the bundle of a directory to a file, or prints it. -/
  | precompile (directory : String) (output engine : Option String)
  /-- Renders the template under a path; the templates are a directory or a bundle. -/
  | render (path templates : String) (options : RenderOptions)
  | renderString (source : String) (options : RenderOptions)
deriving DecidableEq

namespace FileSystem

/-- The templates of the directory at a path. -/
def loadDirectory (fs : FileSystem) (path : String) : Except CommandError (Table String) :=
  match fs.get path with
  | .ok t => t.templates.mapError fun names => .unreadableTemplate (joinPath path names) .notText
  | .error e => .error (.unreadableTemplate path e)

/-- The templates of the bundle at a path. -/
def loadBundle (fs : FileSystem) (path : String) : Except CommandError (Table String) := do
  let text ← (fs.readText path).mapError (.unreadableBundle path)
  (Bundle.read text).mapError (.invalidBundle path)

/-- The templates of the directory or bundle at a path. -/
def loadTemplates (fs : FileSystem) (path : String) : Except CommandError (Table String) :=
  if fs.isDirectory path then fs.loadDirectory path else fs.loadBundle path

def loadConfiguration (fs : FileSystem) (path : String) : Except CommandError Configuration := do
  let text ← (fs.readText path).mapError (.unreadableConfiguration path)
  (Configuration.read text).mapError (.invalidConfiguration path)

def loadContext (fs : FileSystem) (path : String) : Except CommandError (Table Value) := do
  let text ← (fs.readText path).mapError (.unreadableContext path)
  match ← (Value.read text).mapError (.invalidContext path) with
  | .object fields => return fields
  | _ => throw (.contextWithoutFields path)

end FileSystem

namespace RenderOptions

/-- The renderer that the options ask for. -/
def renderer (o : RenderOptions) (fs : FileSystem) : Except CommandError (Renderer Builtin) := do
  let c ← match o.configuration with
    | some path => fs.loadConfiguration path
    | none => pure {}
  match o.engine with
  | some tag => return .ofConfiguration { c with dialect := .ofTag tag }
  | none => return .ofConfiguration c

/-- The context that the options name; without one it is empty. -/
def readContext (o : RenderOptions) (fs : FileSystem) : Except CommandError (Table Value) :=
  match o.context with
  | some path => fs.loadContext path
  | none => .ok []

end RenderOptions

/-- A renderer with more templates. -/
def Renderer.addAll {H : Type} (r : Renderer H) (templates : Table String) :
    Except Error (Renderer H) :=
  match r.registry.addMany templates with
  | (.ok (), registry) => .ok { r with registry }
  | (.error e, _) => .error e

namespace Command

/-- The text of the template under a path. -/
def renderPath (fs : FileSystem) (path templates : String) (o : RenderOptions) :
    Except (Halt CommandError) String := do
  let r ← o.renderer fs
  let context ← o.readContext fs
  let loaded ← fs.loadTemplates templates
  let r ← show Except CommandError _ from (r.addAll loaded).mapError (.registration templates)
  (r.render path context).1.mapError (·.map (.rendering path))

/-- The text of a source. -/
def renderSource (fs : FileSystem) (source : String) (o : RenderOptions) :
    Except (Halt CommandError) String := do
  let r ← o.renderer fs
  let context ← o.readContext fs
  (r.renderString source context).1.mapError (·.map .renderingSource)

/-- The bundle of the directory at a path. -/
def buildBundle (fs : FileSystem) (directory : String) (engine : Option String) :
    Except CommandError String := do
  if !fs.isDirectory directory then throw (.noDirectory directory)
  let templates ← fs.loadDirectory directory
  let r : Renderer Builtin := .new [] [] (.ofTag? engine)
  let p := r.registry.preprocessAll templates
  if p.isOk then return Bundle.write (Table.ofList p.artifacts)
  else throw (.precompilation p.errors)

/-- Runs a command: the text that it prints, if any, or why it ends without, and the files after
it. -/
def run (fs : FileSystem) : Command → Except (Halt CommandError) (Option String) × FileSystem
  | .precompile directory output engine =>
    match buildBundle fs directory engine, output with
    | .ok bundle, some path =>
      match fs.writeText path bundle with
      | .ok fs => (.ok none, fs)
      | .error e => (.error (.failed (.unwritableBundle path e)), fs)
    | .ok bundle, none => (.ok (some bundle), fs)
    | .error e, _ => (.error (.failed e), fs)
  | .render path templates o => ((renderPath fs path templates o).map some, fs)
  | .renderString source o => ((renderSource fs source o).map some, fs)

end Command

end Storefront
