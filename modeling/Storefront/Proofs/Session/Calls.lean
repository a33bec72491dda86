import Storefront.Proofs.Builtin.Calls
import Storefront.Proofs.Registry.Bindings
import Storefront.Proofs.Session.Run

/-!
# The calls of a session

The calls that templates make are written down by helpers that do what the storefront's helpers do.
That changes neither the answer of a rendering nor the store (`Renderer.execute_transcribing`), so
what a session does to one key of the store, or to what is told by it, is what its calls do there,
in their order and over all its renderings (`runs_session`), unless a step writes to the key
itself.
-/

namespace Storefront

open Json (Value)
open Render
open Builtin (Call Runs)

/-- A store, and the calls that were made with it. -/
structure Transcript where
  store : Store
  calls : List Call := []

namespace Transcript

/-- The helpers of the storefront, which write down every call that has an outcome. -/
def transcribing (settings : Settings) (_ : String) (b : Builtin) : Helper Transcript := fun i t =>
  (b.helper settings i t.store).map fun (o, store) =>
    (o, { store, calls := t.calls ++ [⟨b, settings, i, o⟩] })

/-- A transcript that belongs to a store, and whose calls lead there from `start`. -/
structure Tracks (start : Store) (s : Store) (t : Transcript) : Prop where
  store : t.store = s
  runs : Runs Call.Does start t.calls s

theorem helperRel_transcribing (start : Store) (settings : Settings) (name : String) (b : Builtin) :
    HelperRel (Tracks start) (b.helper settings) (transcribing settings name b) := by
  rintro i _ ⟨s, calls⟩ ⟨rfl, hcalls⟩
  unfold callHelper transcribing
  dsimp only at hcalls ⊢
  cases hrun : b.helper settings i s with
  | error e => exact .error e ⟨rfl, hcalls⟩
  | ok result =>
    obtain ⟨o, s'⟩ := result
    exact .ok rfl ⟨rfl, hcalls.append (.single hrun)⟩

end Transcript

/-- The step itself puts something under a key of the store, or removes what is there. -/
def Step.writesTo (key : String) : Step Builtin → Bool
  | put k _ | remove k => k = key
  | _ => false

namespace Renderer

open Registry (EndsAlike)
open Transcript (Tracks transcribing helperRel_transcribing)

variable (r : Renderer Builtin)

/-- Writing down the calls changes neither the answer nor the store. -/
theorem execute_transcribing (path : String) (data : Value) :
    EndsAlike (Tracks r.store) (r.registry.execute r.bind path data r.store)
      (r.registry.execute (transcribing r.settings) path data { store := r.store }) :=
  r.registry.execute_alike (helperRel_transcribing _ r.settings) path data ⟨rfl, .nil _⟩

theorem executeSource_transcribing (source : String) (data : Value) :
    EndsAlike (Tracks r.store) (r.registry.executeSource r.bind source data r.store)
      (r.registry.executeSource (transcribing r.settings) source data { store := r.store }) :=
  r.registry.executeSource_alike (helperRel_transcribing _ r.settings) source data ⟨rfl, .nil _⟩

/-- The calls that a step makes. -/
def transcriptAt : Step Builtin → List Call
  | .render path context =>
    (r.registry.execute (transcribing r.settings) path (r.augment (some path) context)
      { store := r.store }).2.calls
  | .renderString source context =>
    (r.registry.executeSource (transcribing r.settings) source (r.augment none context)
      { store := r.store }).2.calls
  | _ => []

/-- The calls that a session makes. -/
def transcript (r : Renderer Builtin) : List (Step Builtin) → List Call
  | [] => []
  | s :: rest => r.transcriptAt s ++ (r.step s).2.transcript rest

variable {σ : Type} {f : Store → σ} {key : String} {act : Call → σ → σ → Prop}

theorem runs_step (hact : ∀ {c s s'}, c.Does s s' → act c (f s) (f s'))
    (hf : ∀ {s s' : Store}, s'.get? key = s.get? key → f s' = f s) {s : Step Builtin}
    (h : s.writesTo key = false) :
    Runs act (f r.store) (r.transcriptAt s) (f (r.step s).2.store) := by
  cases s with
  | render path context =>
    have hruns := (r.execute_transcribing path (r.augment (some path) context)).store.runs
    rw [← r.render_store path context] at hruns
    exact hruns.map f hact
  | renderString source context =>
    have hruns := (r.executeSource_transcribing source (r.augment none context)).store.runs
    rw [← r.renderString_store source context] at hruns
    exact hruns.map f hact
  | put k v =>
    have hput : f (r.store.insert k v) = f r.store :=
      hf (by rw [Table.get?_insert, if_neg (of_decide_eq_false h)])
    show Runs act _ [] (f (r.store.insert k v))
    rw [hput]
    exact .nil _
  | remove k =>
    have hremove : f (r.store.erase k) = f r.store :=
      hf (by rw [Table.get?_erase, if_neg (of_decide_eq_false h)])
    show Runs act _ [] (f (r.store.erase k))
    rw [hremove]
    exact .nil _
  | _ => exact .nil _

theorem runs_session (hact : ∀ {c s s'}, c.Does s s' → act c (f s) (f s'))
    (hf : ∀ {s s' : Store}, s'.get? key = s.get? key → f s' = f s) (r : Renderer Builtin)
    (steps : List (Step Builtin)) (h : ∀ s ∈ steps, s.writesTo key = false) :
    Runs act (f r.store) (r.transcript steps) (f (r.session steps).2.store) := by
  induction steps generalizing r with
  | nil => exact .nil _
  | cons s rest ih =>
    have hstep := r.runs_step hact hf (h s List.mem_cons_self)
    exact hstep.append (ih (r.step s).2 fun s' hs' => h s' (List.mem_cons_of_mem s hs'))

end Renderer

end Storefront
