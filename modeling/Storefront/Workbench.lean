import Storefront.Registry

/-!
# Workbenches

A workbench is a registry by itself, without settings: a helper that is registered on it gets a
store of its own, which starts empty and is shared with no other helper.
-/

namespace Storefront

structure Workbench (H : Type) where
  registry : Registry H
  /-- The stores of the registered helpers, by the names of the helpers. -/
  stores : Table Store := []

namespace Workbench

variable {H : Type} [Registrable H]

/-- Registers a helper with an empty store. -/
def addHelper (w : Workbench H) (name : String) (h : H) : Workbench H :=
  { w with registry := w.registry.addHelper name h, stores := w.stores.insert name [] }

/-- A registered helper on its own store. -/
def bind (name : String) (h : H) : Render.Helper (Table Store) :=
  (Registrable.helper h {}).focus (fun stores => (stores.get? name).getD [])
    (fun stores store => stores.insert name store)

def putSource (w : Workbench H) (path source : String) : Except EngineError (Workbench H) :=
  (w.registry.dialect.compile source).map fun t => { w with registry := w.registry.put path t }

def putArtifact (w : Workbench H) (path artifact : String) : Except EngineError (Workbench H) := do
  let t ← w.registry.dialect.template (← Dialect.readArtifact artifact)
  return { w with registry := w.registry.put path t }

def execute (w : Workbench H) (path : String) (data : Json.Value) :
    Except (Halt EngineError) String × Workbench H :=
  let (result, stores) := w.registry.execute bind path data w.stores
  (result, { w with stores })

def executeSource (w : Workbench H) (source : String) (data : Json.Value) :
    Except (Halt EngineError) String × Workbench H :=
  let (result, stores) := w.registry.executeSource bind source data w.stores
  (result, { w with stores })

end Workbench

end Storefront
