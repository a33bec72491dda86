import Storefront.Configuration.Decode
import Storefront.Renderer

/-!
# Configurations

A configuration names the dialect, the settings and the catalogue of a renderer. It is written in
YAML, and since JSON parses as YAML, in JSON as well. Every part may be left out, and parts of other
names are ignored.
-/

namespace Storefront

open Json (Value)
open Yaml (Node Document Datum)

structure Configuration where
  dialect : Dialect := .v3
  site : Table Value := []
  theme : Table Value := []
  translations : Option Catalogue := none

namespace Configuration

open Decode

/-- How deep the collections of a document may nest. -/
def nestingLimit : Nat := 128

/-- How deep the collections below a setting may nest: the document and its settings count, too. -/
def settingDepth : Nat := nestingLimit - 2

def readSettings (d : Document) (path : Path) (n : Node) : Decode (Table Value) := do
  let entries ← mapping d path "a map" n
  table d path (fun _ => "a string") (value d settingDepth) entries

def readMessages (d : Document) (path : Path) (n : Node) : Decode (Table String) := do
  let entries ← mapping d path "a map" n
  table d path (fun _ => "a string") (fun path => string d path "a string") entries

/-- What of a catalogue has been decoded. -/
structure Draft where
  locale : Option String := none
  messages : Table String := []

def catalogueField (d : Document) : String → Option (Path → Node → Draft → Decode Draft)
  | "locale" => some fun path n c => return { c with locale := ← string d path "a string" n }
  | "messages" => some fun path n c => return { c with messages := ← readMessages d path n }
  | _ => none

/-- Decodes a catalogue, which must name its locale. -/
def readCatalogue (d : Document) (path : Path) (n : Node) : Decode Catalogue := do
  let entries ← mapping d path "struct TranslationsConfig" n
  let c ← record d path (catalogueField d) [] entries {}
  match c.locale with
  | some locale => return ⟨locale, c.messages⟩
  | none => throw (.mismatch path (.missing "locale"))

/-- Whether a node stands for an absent part. -/
def isAbsent : Node → Decode Bool
  | .scalar tag isPlain s =>
    if !isPlain then return false
    else if tag.isNone then return s.isEmpty || (Datum.null? s).isSome
    else if tag = some (Datum.coreTag "null") then
      if (Datum.null? s).isSome then return true
      else throw (.mismatch [] (.value (.string s) "null"))
    else return false
  | .void => return true
  | _ => return false

/-- Decodes a catalogue that may be absent. -/
def readTranslations (d : Document) (path : Path) (n : Node) : Decode (Option Catalogue) := do
  let n ← follow d n
  if ← isAbsent n then return none else return some (← readCatalogue d path n)

/-- The parts of a configuration. -/
def part (d : Document) : String → Option (Path → Node → Configuration → Decode Configuration)
  | "engine" => some fun path n c =>
    return { c with dialect := .ofTag (← string d path "a string" n) }
  | "site_settings" => some fun path n c => return { c with site := ← readSettings d path n }
  | "theme_settings" => some fun path n c => return { c with theme := ← readSettings d path n }
  | "translations" => some fun path n c =>
    return { c with translations := ← readTranslations d path n }
  | _ => none

def ofDocument (d : Document) : Decode Configuration := do
  let entries ← mapping d [] "struct RendererConfig" d.root
  record d [] (part d) [] entries {}

/-- Reads a configuration. A text of nothing but white space is the default one. -/
def read (s : String) : Except Error Configuration :=
  let text := s.toList
  if text.all Text.isBlank then .ok {}
  else
    match Document.read? text with
    | some d => ((ofDocument d).run 0).map Prod.fst
    | none => .error .malformed

end Configuration

def Renderer.ofConfiguration {H : Type} [Registrable H] (c : Configuration) : Renderer H :=
  let r : Renderer H := .new c.site c.theme c.dialect
  { r with settings := { r.settings with translator := c.translations.map Catalogue.translator } }

end Storefront
