import Storefront.Registry
import Storefront.Decoration

/-!
# Renderers

A renderer joins a registry, which has the storefront's helpers, with the settings and the store
that the helpers share, and the decorators of its output. A registered template is rendered with its
path in the context, and in both forms of rendering the context names the locale if there is a
translator.
-/

namespace Storefront

open Json (Value)

structure Renderer (H : Type) where
  registry : Registry H
  decorators : DecoratorChain := []
  settings : Settings := {}
  store : Store := []

namespace Renderer

variable {H : Type} [Registrable H]

/-- A renderer with all helpers of the storefront and nothing else. -/
def new (site theme : Table Value) (d : Dialect) (depth : Nat := usualDepth) : Renderer H where
  registry :=
    Builtin.all.foldl (fun r b => r.addHelper b.name (Registrable.ofBuiltin b)) (.empty H d depth)
  settings := { site, theme }

/-- The context key of the path that is rendered. -/
def templateKey : String := "template"

/-- The context key of the current locale. -/
def localeKey : String := "locale_name"

/-- The data of a rendering. -/
def augment (r : Renderer H) (path : Option String) (context : Table Value) : Value :=
  let context : Table Value := match path with
    | some p => context.insert templateKey (.string p)
    | none => context
  .object (match r.settings.translator with
    | some t => context.insert localeKey (.string t.locale)
    | none => context)

/-- The helpers as this renderer's settings make them. -/
def bind (r : Renderer H) (_ : String) (h : H) : Render.Helper Store :=
  Registrable.helper h r.settings

/-- Renders the template that is registered under a path and decorates its text. -/
def render (r : Renderer H) (path : String) (context : Table Value) :
    Except (Halt Error) String × Renderer H :=
  if r.registry.isLoaded path then
    let (result, store) := r.registry.execute r.bind path (r.augment (some path) context) r.store
    let r := { r with store }
    match result with
    | .ok text => ((r.decorators.apply text).mapError .failed, r)
    | .error e => (.error (e.map fun e => .render (some path) e.message), r)
  else (.error (.failed (.notFound path)), r)

/-- Renders a source that is not registered; its text is not decorated. -/
def renderString (r : Renderer H) (source : String) (context : Table Value) :
    Except (Halt Error) String × Renderer H :=
  match r.registry.dialect.compile source with
  | .error e => (.error (.failed (.compile none e.message)), r)
  | .ok _ =>
    let (result, store) := r.registry.executeSource r.bind source (r.augment none context) r.store
    (result.mapError (·.map fun e => .render none e.message), { r with store })

end Renderer

end Storefront
