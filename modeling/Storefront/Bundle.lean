import Storefront.Json.Reader
import Storefront.Json.Writer

/-!
# Bundles

A bundle is a JSON object of texts: templates by path, each a source or an artifact.
-/

namespace Storefront.Bundle

/-- Reads a bundle; of a repeated path the last text counts. -/
def read (text : String) : Except Json.ReadError (Table String) :=
  Json.whole Json.textTable text.toList

/-- Writes a bundle with one template a line. -/
def write (templates : Table String) : String :=
  String.ofList (Json.writeIndented templates)

end Storefront.Bundle
