import Storefront.Json.Writer
import Storefront.Text.Replace

/-!
# Translations

A translator looks keys up in one locale. The one that comes with the storefront is a catalogue of
messages. A message may name parameters in braces; the parameters are put in one after another in
the order of their names, each into the text that the ones before have left.
-/

namespace Storefront

open Json (Value)

/-- A source of translations to one locale. -/
structure Translator where
  locale : String
  /-- The text for a key with the given parameters, `none` if the key is unknown. -/
  translate (key : String) (params : Table Value) : Option String

/-- The messages of one locale, by key. -/
structure Catalogue where
  locale : String
  messages : Table String
deriving DecidableEq

namespace Catalogue

/-- How a message names a parameter. -/
def placeholder (name : String) : List Char :=
  '{' :: (name.toList ++ ['}'])

/-- Puts the parameters into a text, one after another. -/
def interpolate (params : Table Value) (text : List Char) : List Char :=
  params.foldl (fun text p => Text.replaceAll (placeholder p.1) p.2.toText.toList text) text

/-- The message under `key` with its parameters, if there is one. -/
def translate (c : Catalogue) (key : String) (params : Table Value) : Option String :=
  (c.messages.get? key).map fun message => String.ofList (interpolate params message.toList)

def translator (c : Catalogue) : Translator where
  locale := c.locale
  translate := c.translate

end Catalogue

end Storefront
