import Storefront.Proofs.Builtin.Slots
import Storefront.Proofs.Registry.Bindings
import Storefront.Proofs.Session.Run

/-!
# Renderings touch the slots of the store only

A rendering changes nothing of the store but the slots of the helpers, whatever it renders and
however it ends, and it looks at nothing else of the store: from two stores that agree on the slots
it gives the same answer and leaves the slots equal (`rendering_slots`). Both come from one pair of
runs that every helper keeps in step.
-/

namespace Storefront

open Json (Value)
open Render
open Store (Agree Evolves KeepsKeys InStep slots)

namespace Renderer

variable {s t : Store}

/-- What a rendering may do to the store. It starts from `s` and from `t`, which agree on the
slots, and `x` and `y` are its answers with the renderers that it leaves. -/
structure SlotsOnly (s t : Store) (x y : Except (Halt Error) String × Renderer Builtin) : Prop where
  answer : x.1 = y.1
  frame : ∀ key, key ∉ slots → x.2.store.get? key = s.get? key
  keeps : ∀ key ∈ slots, KeepsKeys (s.get? key) (x.2.store.get? key)
  agree : ∀ key ∈ slots, x.2.store.get? key = y.2.store.get? key

theorem SlotsOnly.of_inStep {x y : Except (Halt Error) String × Renderer Builtin}
    (answer : x.1 = y.1)
    (h : InStep s x.2.store y.2.store) : SlotsOnly s t x y :=
  ⟨answer, h.evolves.frame, h.evolves.slot, h.agree⟩

theorem render_slotsOnly (r : Renderer Builtin) (h : Agree s t) (path : String)
    (context : Table Value) :
    SlotsOnly s t ({ r with store := s }.render path context)
      ({ r with store := t }.render path context) := by
  have hst : InStep s s t := ⟨h, .refl s⟩
  have hrun := r.registry.execute_alike (fun _ => Builtin.helperRel_helper r.settings s) path
    (r.augment (some path) context) hst
  cases hl : r.registry.isLoaded path with
  | false =>
    rw [render_unloaded (r := { r with store := s }) hl,
      render_unloaded (r := { r with store := t }) hl]
    exact .of_inStep rfl hst
  | true =>
    rw [render_loaded (r := { r with store := s }) hl,
      render_loaded (r := { r with store := t }) hl]
    exact .of_inStep (congrArg (r.outcome path) hrun.answer) hrun.store

theorem renderString_slotsOnly (r : Renderer Builtin) (h : Agree s t) (source : String)
    (context : Table Value) :
    SlotsOnly s t ({ r with store := s }.renderString source context)
      ({ r with store := t }.renderString source context) := by
  have hst : InStep s s t := ⟨h, .refl s⟩
  have hrun := r.registry.executeSource_alike
    (fun _ => Builtin.helperRel_helper r.settings s) source
    (r.augment none context) hst
  cases hc : r.registry.dialect.compile source with
  | error e =>
    rw [renderString_refused (r := { r with store := s }) hc,
      renderString_refused (r := { r with store := t }) hc]
    exact .of_inStep rfl hst
  | ok template =>
    rw [renderString_compiled (r := { r with store := s }) hc,
      renderString_compiled (r := { r with store := t }) hc]
    exact .of_inStep (congrArg (Except.mapError _) hrun.answer) hrun.store

/-- Renderings read and write two slots of the store only. Whatever is rendered and however it
ends, everything else in the store stays as it is, an object in a slot keeps its keys, and a slot
without an object stays what it is or becomes an object; and from a store with the same slots comes
the same answer, with the same slots again. -/
theorem rendering_slots (r : Renderer Builtin) (h : Agree s t) :
    (∀ path context, SlotsOnly s t ({ r with store := s }.render path context)
      ({ r with store := t }.render path context)) ∧
    ∀ source context, SlotsOnly s t ({ r with store := s }.renderString source context)
      ({ r with store := t }.renderString source context) :=
  ⟨r.render_slotsOnly h, r.renderString_slotsOnly h⟩

/-- A page that counts under a name of its own and then fails, from two stores that differ in what
no helper looks at. -/
theorem rendering_slots_counter :
    let page := "\x7b\x7bcount \"n\"\x7d\x7d\x7b\x7b> none\x7d\x7d"
    let r := ((new [] [] .v4).step (.registerHelper "count" .incrementVar)).2
    let s : Store := [("theirs", .bool true), ("variables", .object [("n", .null)])]
    let t : Store := [("variables", .object [("n", .null)])]
    Agree s t ∧ SlotsOnly s t ({ r with store := s }.renderString page [])
      ({ r with store := t }.renderString page []) := by
  intro page r s t
  have hagree : Agree s t := by
    intro key hkey
    rcases List.mem_cons.1 hkey with rfl | hkey
    · rfl
    · rw [List.mem_singleton.1 hkey]
      rfl
  exact ⟨hagree, (rendering_slots r hagree).2 page []⟩

end Renderer

end Storefront
