import Storefront.Renderer
import Storefront.Json.Description

/-!
# Describing a renderer

A one-line description for logs: the dialect and size of the registry, the number of decorators
and the settings in full. Of the store nothing is shown.
-/

namespace Storefront

/-- The settings as a description shows them, the rest of the helpers' state left out. -/
def Settings.describe (s : Settings) : String :=
  let locale := match s.translator with
    | some t => "Some(" ++ Text.quote t.locale ++ ")"
    | none => "None"
  "HelperContext \x7b site_settings: " ++ Json.Value.describeTable s.site ++
    ", theme_settings: " ++ Json.Value.describeTable s.theme ++ ", locale: " ++ locale ++
    ", content: " ++ Json.Value.describeTable s.content ++ ", .. \x7d"

def Renderer.describe {H : Type} (r : Renderer H) : String :=
  let version := match r.registry.dialect with
    | .v3 => "V3"
    | .v4 => "V4"
  let engine := Text.record "TemplateEngine"
    [("version", version), ("partials", toString r.registry.templates.length)]
  Text.record "Renderer"
    [("registry", Text.record "TemplateRegistry" [("engine", engine)]),
      ("decorators", Text.record "DecoratorChain" [("len", toString r.decorators.length)]),
      ("helper_context", r.settings.describe)]

end Storefront
