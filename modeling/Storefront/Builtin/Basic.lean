import Storefront.Builtin.Asset
import Storefront.Builtin.Variable
import Storefront.Builtin.ClientData
import Storefront.Builtin.Region
import Storefront.Render.Helper

/-!
# The storefront's helpers

Each helper is one of the operations on settings and store, called by a template with a key, a path
or a name. Other helpers may be registered beside them (`Registrable`).
-/

namespace Storefront

open Render
open Json (Value)

inductive Builtin where
  | lang
  | region
  | cdn
  | assignVar
  | getVar
  | incrementVar
  | inject
  | jsContext
deriving DecidableEq, Repr

namespace Builtin

def all : List Builtin :=
  [lang, region, cdn, assignVar, getVar, incrementVar, inject, jsContext]

def name : Builtin → String
  | lang => "lang"
  | region => "region"
  | cdn => "cdn"
  | assignVar => "assignVar"
  | getVar => "getVar"
  | incrementVar => "incrementVar"
  | inject => "inject"
  | jsContext => "jsContext"

def ofName? (name : String) : Option Builtin :=
  all.find? fun b => b.name = name

/-- The text for a key in the current locale; a key without message stands for itself. -/
def translation (s : Settings) (i : Invocation) : Except Reason Outcome := do
  let key ← i.text "lang" 0
  match s.translator with
  | none => return .nothing
  | some t => return .text ((t.translate key i.hash).getD key)

def regionElement (s : Settings) (i : Invocation) : Except Reason Outcome :=
  match (i.hash.get? "name").bind Value.string? with
  | some name => .ok (.text (Region.element s name))
  | none => .error (.missingNamed "region" "name")

def assetAddress (s : Settings) (i : Invocation) : Except Reason Outcome := do
  let path ← i.text "cdn" 0
  return .text (String.ofList (Asset.resolve s path.toList))

/-- The parameter at `index`, null if there is none. -/
def optionalParam (i : Invocation) (index : Nat) : Value :=
  i.params[index]?.getD .null

/-- The helper of a renderer with the given settings. -/
def helper (s : Settings) : Builtin → Helper Store
  | lang => .pure (translation s)
  | region => .pure (regionElement s)
  | cdn => .pure (assetAddress s)
  | assignVar => fun i store => do
    let key ← i.text "assignVar" 0
    return (.nothing, Variable.assign store key (optionalParam i 1))
  | getVar => fun i store => do
    let key ← i.text "getVar" 0
    let (v, store) := Variable.get store key
    return (.value v, store)
  | incrementVar => fun i store => do
    let key ← i.text "incrementVar" 0
    let (n, store) := Variable.increment store key
    return (.value (.number (.whole n)), store)
  | inject => fun i store => do
    let key ← i.text "inject" 0
    return (.nothing, ClientData.inject store key (optionalParam i 1))
  | jsContext => fun _ store => .ok (.text (ClientData.expression store), store)

end Builtin

/-! ### Registered helpers -/

/-- What can be registered as a helper: the helpers of the storefront, and maybe others. -/
class Registrable (H : Type) where
  ofBuiltin : Builtin → H
  /-- The helper of a renderer with the given settings. -/
  helper : H → Settings → Helper Store
  helper_ofBuiltin : ∀ b settings, helper (ofBuiltin b) settings = b.helper settings

/-- No helpers but the storefront's own. -/
@[default_instance]
instance : Registrable Builtin where
  ofBuiltin b := b
  helper b settings := b.helper settings
  helper_ofBuiltin _ _ := rfl

/-- Any helper that works on a renderer's settings and store. -/
instance : Registrable (Settings → Helper Store) where
  ofBuiltin b settings := b.helper settings
  helper h := h
  helper_ofBuiltin _ _ := rfl

end Storefront
