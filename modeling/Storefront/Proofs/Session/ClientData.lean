import Storefront.Proofs.Builtin.ClientData
import Storefront.Proofs.Session.Calls

/-!
# What a session hands over to the page's scripts

The values that pages collect for their scripts are kept over all renderings of a session. Wherever
a page writes them, it hands over exactly what was in the slot at the start of the session and what
was added to it by then (`client_data_transmitted`).
-/

namespace Storefront.Renderer

open Json (Value IsExact)
open Render
open Builtin (Call Runs)
open ClientData (ExactSlot HandsOver addingCall added? helpers injection? slot)

theorem handsOver_session (r : Renderer Builtin) {steps : List (Step Builtin)}
    {before after : List Call} {c : Call}
    (hsteps : ∀ s ∈ steps, s.writesTo slot = false)
    (hcalls : r.transcript steps = before ++ c :: after) (hc : c.builtin = .jsContext)
    (hstart : ExactSlot (r.store.get? slot))
    (hadded : ∀ e ∈ before.filterMap added?, IsExact e.2) :
    ∃ text, c.outcome = .text text ∧
      HandsOver (r.store.get? slot) (before.filterMap added?) text := by
  have hruns := runs_session ClientData.acts_of_does id r steps hsteps
  rw [hcalls] at hruns
  exact ClientData.handsOver_of_runs hruns hc hstart hadded

theorem get?_session (r : Renderer Builtin) {steps : List (Step Builtin)} {key : String}
    (hkey : key ≠ slot)
    (hsteps : ∀ s ∈ steps, s.writesTo key = false)
    (hcalls : ∀ c ∈ r.transcript steps, c.builtin ∈ helpers) :
    (r.session steps).2.store.get? key = r.store.get? key := by
  have hruns := runs_session (Call.Does.spares · key) id r steps hsteps
  exact hruns.eq_of_spares fun c hc => ClientData.slot?_ne_of_mem_helpers (hcalls c hc) hkey

/-- The page's scripts receive exactly what was injected. Whatever a store holds, if no floating
point number is in its slot for client data: injections of such values under any keys never fail,
and the expression that is written then calls `JSON.parse` with one string literal, whose content
decodes to the object that was in the slot, or to the empty one if there was none, with every
injected key set to its last value. Without an injection it decodes to what was in the slot. No
other key of the store changes. And it makes no difference over how many renderings the calls are
spread, and what else the pages call: in a session in which nothing else writes to the slot, each
expression hands over what the calls before it injected. -/
theorem client_data_transmitted :
    (∀ (settings : Settings) (s : Store) (is : List Invocation) (j : Invocation),
      ExactSlot (s.get? slot) → (∀ i ∈ is, ∃ e, injection? i = some e ∧ IsExact e.2) →
      ∃ s' text, Runs Call.Does s (is.map (addingCall settings) ++
          [⟨.jsContext, settings, j, .text text⟩]) s' ∧
        HandsOver (s.get? slot) (is.filterMap injection?) text ∧
        ∀ key, key ≠ slot → s'.get? key = s.get? key) ∧
    (∀ (r : Renderer Builtin) (steps : List (Step Builtin)) (before : List Call) (c : Call)
      (after : List Call),
      (∀ s ∈ steps, s.writesTo slot = false) → r.transcript steps = before ++ c :: after →
      c.builtin = .jsContext → ExactSlot (r.store.get? slot) →
      (∀ e ∈ before.filterMap added?, IsExact e.2) →
      ∃ text, c.outcome = .text text ∧
        HandsOver (r.store.get? slot) (before.filterMap added?) text) ∧
    ∀ (r : Renderer Builtin) (steps : List (Step Builtin)) (key : String), key ≠ slot →
      (∀ s ∈ steps, s.writesTo key = false) →
      (∀ c ∈ r.transcript steps, c.builtin ∈ helpers) →
      (r.session steps).2.store.get? key = r.store.get? key :=
  ⟨fun _ _ _ j hs his => ClientData.exists_runs_handsOver hs his j,
    fun r _ _ _ _ hsteps hcalls hc hstart hadded =>
      r.handsOver_session hsteps hcalls hc hstart hadded,
    fun r _ _ hkey hsteps hcalls => r.get?_session hkey hsteps hcalls⟩

/-- A value that is kept from before, a name that one page injects and another one replaces, and the
expression that this page writes. -/
theorem client_data_transmitted_pages :
    let page := "\x7b\x7binject \"name\" \"Mug\"\x7d\x7d"
    let source := "\x7b\x7binject \"name\" \"Cup\"\x7d\x7d\x7b\x7bjsContext\x7d\x7d"
    let kept : Value := .object [("id", .number (.whole .zero))]
    let r : Renderer Builtin := { new [] [] .v4 with store := [("inject", kept), ("mine", .null)] }
    let steps : List (Step Builtin) :=
      [.add [("page", page)], .render "page" [], .renderString source []]
    let i : Invocation := { params := [.string "name", .string "Mug"], hash := [] }
    (∃ s' text, Runs Call.Does r.store [addingCall {} i, ⟨.jsContext, {}, i, .text text⟩] s' ∧
      HandsOver (some kept) [("name", .string "Mug")] text) ∧
    (∃ before c after text, r.transcript steps = before ++ c :: after ∧ before.length = 2 ∧
      c.outcome = .text text ∧ HandsOver (some kept) (before.filterMap added?) text) ∧
    (r.session steps).2.store.get? "mine" = some .null := by
  intro page source kept r steps i
  obtain ⟨hcalls, hsession, hframe⟩ := client_data_transmitted
  have hkept : IsExact kept := .object (by decide) (List.forall_mem_singleton.2 (.whole _))
  have hslot : ExactSlot (r.store.get? slot) := by
    rintro v ⟨⟩
    exact hkept
  have hi : ∀ j ∈ [i], ∃ e, injection? j = some e ∧ IsExact e.2 :=
    List.forall_mem_singleton.2 ⟨_, rfl, .string "Mug"⟩
  refine ⟨?_, ?_, ?_⟩
  · obtain ⟨s', text, hruns, hover, -⟩ := hcalls {} r.store [i] i hslot hi
    exact ⟨s', text, hruns, hover⟩
  · have hwrites : (r.transcript steps)[2]?.map (·.builtin) = some .jsContext := by decide +kernel
    have hstrings : ∀ e ∈ ((r.transcript steps).take 2).filterMap added?, e.2.string?.isSome := by
      decide +kernel
    obtain ⟨c, hc, hjsContext⟩ := Option.map_eq_some_iff.1 hwrites
    obtain ⟨hlt, hget⟩ := List.getElem?_eq_some_iff.1 hc
    have hsplit : r.transcript steps =
        (r.transcript steps).take 2 ++ c :: (r.transcript steps).drop 3 := by
      rw [← hget, ← List.drop_eq_getElem_cons hlt, List.take_append_drop]
    have hexact : ∀ e ∈ ((r.transcript steps).take 2).filterMap added?, IsExact e.2 := by
      intro e he
      have hstring := hstrings e he
      cases hv : e.2 with
      | string s => exact .string s
      | _ =>
        rw [hv] at hstring
        cases hstring
    obtain ⟨text, htext, hover⟩ :=
      hsession r steps _ c _ (by decide) hsplit hjsContext hslot hexact
    exact ⟨_, c, _, text, hsplit, List.length_take_of_le hlt.le, htext, hover⟩
  · exact hframe r steps "mine" (by decide) (by decide) (by decide +kernel)

end Storefront.Renderer
