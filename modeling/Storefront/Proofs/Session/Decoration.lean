import Storefront.Proofs.Session.Run
import Mathlib.Data.List.DropRight

/-!
# Decorators only change texts that are rendered

Leaving out the steps that add or remove decorators changes nothing but the answers of renderings
by path, not even the store (`session_plain`). And such an answer is the one without decorators,
passed through the decorators that were added since they were last removed (`decorators_follow`).
-/

namespace Storefront

open Json (Value)

namespace DecoratorChain

/-- Passes a text through decorators from left to right, up to the first that fails. -/
def through (chain : DecoratorChain) (s : String) : Except String String :=
  chain.foldlM (fun s d => d s) s

/-- The answer of a rendering without decorators, and the answer with those of a chain. -/
inductive Follows (chain : DecoratorChain) : Answer → Answer → Prop where
  | failed (e : Error) : Follows chain (.failed e) (.failed e)
  | overflow : Follows chain .overflow .overflow
  | text {s t : String} (passes : through chain s = .ok t) : Follows chain (.text s) (.text t)
  /-- The decorator behind `before` is the first that fails. -/
  | stopped {s t message : String} {before after : DecoratorChain} {d : Decorator}
      (split : chain = before ++ d :: after) (passes : through before s = .ok t)
      (fails : d t = .error message) :
      Follows chain (.text s) (.failed (.decorator before.length message))

theorem through_cons {d : Decorator} {s t : String} (h : d s = .ok t) (rest : DecoratorChain) :
    through (d :: rest) s = through rest t := by
  rw [through, List.foldlM_cons, h]
  rfl

theorem applyFrom_cases (index : Nat) (chain : DecoratorChain) (s : String) :
    (∃ t, through chain s = .ok t ∧ applyFrom index chain s = .ok t) ∨
      ∃ before d after t message, chain = before ++ d :: after ∧ through before s = .ok t ∧
        d t = .error message ∧
        applyFrom index chain s = .error (.decorator (index + before.length) message) := by
  induction chain generalizing index s with
  | nil => exact .inl ⟨s, rfl, rfl⟩
  | cons d rest ih =>
    cases hd : d s with
    | error message =>
      refine .inr ⟨[], d, rest, s, message, rfl, rfl, hd, ?_⟩
      rw [applyFrom, hd]
      rfl
    | ok u =>
      have hnext : applyFrom index (d :: rest) s = applyFrom (index + 1) rest u := by
        rw [applyFrom, hd]
      rw [hnext, through_cons hd]
      rcases ih (index + 1) u with h | ⟨before, d', after, t, message, rfl, hpass, hfail, happly⟩
      · exact .inl h
      · refine .inr ⟨d :: before, d', after, t, message, rfl, ?_, hfail, ?_⟩
        · rw [through_cons hd, hpass]
        · rw [happly, List.length_cons, Nat.add_assoc, Nat.add_comm 1]

theorem follows_apply (chain : DecoratorChain) (s : String) :
    Follows chain (.text s) (.ofText ((apply chain s).mapError .failed)) := by
  rcases applyFrom_cases 0 chain s with
    ⟨t, hpass, happly⟩ | ⟨before, d, after, t, message, hsplit, hpass, hfail, happly⟩
  · rw [apply, happly]
    exact .text hpass
  · rw [apply, happly, Nat.zero_add]
    exact .stopped hsplit hpass hfail

end DecoratorChain

namespace Step

variable {H : Type}

/-- The step adds a decorator or removes them all. -/
def isDecoration : Step H → Bool
  | addDecorator _ | resetDecorators => true
  | _ => false

def isReset : Step H → Bool
  | resetDecorators => true
  | _ => false

/-- The decorator that a step adds. -/
def decorator? : Step H → Option Decorator
  | addDecorator d => some d
  | _ => none

/-- The steps that are left without those about decorators. -/
def undecorated (steps : List (Step H)) : List (Step H) :=
  steps.filter (!·.isDecoration)

theorem undecorated_append_cons {s : Step H} (hs : s.isDecoration = false)
    (before after : List (Step H)) :
    undecorated (before ++ s :: after) = undecorated before ++ s :: undecorated after := by
  simp [undecorated, hs]

/-- The decorators that were added since they were last removed. -/
def addedSinceReset (steps : List (Step H)) : DecoratorChain :=
  (steps.rtakeWhile (!·.isReset)).filterMap decorator?

theorem addedSinceReset_concat (steps : List (Step H)) (s : Step H) :
    addedSinceReset (steps ++ [s]) = match s with
      | addDecorator d => addedSinceReset steps ++ [d]
      | resetDecorators => []
      | _ => addedSinceReset steps := by
  unfold addedSinceReset
  rw [List.rtakeWhile_concat]
  cases s <;> simp [isReset, decorator?]

example (d e : Decorator) :
    addedSinceReset (H := Builtin) [.addDecorator d, .resetDecorators, .addDecorator e, .locale] =
      [e] := rfl

end Step

namespace Renderer

variable {H : Type} [Registrable H]

open DecoratorChain (Follows follows_apply)
open Step (undecorated addedSinceReset)

/-- The renderer without its decorators. -/
def plain (r : Renderer H) : Renderer H :=
  { r with decorators := [] }

theorem render_plain (r : Renderer H) (path : String) (context : Table Value) :
    Follows r.decorators (.ofText (r.plain.render path context).1)
        (.ofText (r.render path context).1) ∧
      (r.plain.render path context).2 = (r.render path context).2.plain := by
  cases hl : r.registry.isLoaded path with
  | false =>
    rw [render_unloaded hl, render_unloaded (r := r.plain) hl]
    exact ⟨.failed _, rfl⟩
  | true =>
    rw [render_loaded hl, render_loaded (r := r.plain) hl]
    have hrun : r.plain.registry.execute r.plain.bind path (r.plain.augment (some path) context)
        r.plain.store =
          r.registry.execute r.bind path (r.augment (some path) context) r.store := rfl
    rw [hrun]
    generalize r.registry.execute _ _ _ _ = x
    obtain ⟨result, store⟩ := x
    refine ⟨?_, rfl⟩
    cases result with
    | ok text => exact follows_apply r.decorators text
    | error e =>
      cases e with
      | failed e => exact .failed _
      | overflow => exact .overflow

theorem renderString_plain (r : Renderer H) (source : String) (context : Table Value) :
    r.plain.renderString source context =
      ((r.renderString source context).1, (r.renderString source context).2.plain) := by
  cases hc : r.registry.dialect.compile source with
  | error e => rw [renderString_refused hc, renderString_refused (r := r.plain) hc]
  | ok t =>
    rw [renderString_compiled hc, renderString_compiled (r := r.plain) hc]
    rfl

/-! ### Steps and sessions -/

theorem session_decorators {r : Renderer H} (hr : r.decorators = []) (steps : List (Step H)) :
    (r.session steps).2.decorators = addedSinceReset steps := by
  induction steps using List.reverseRecOn with
  | nil => exact hr
  | append_singleton steps s ih =>
    rw [session_append, Step.addedSinceReset_concat, ← ih]
    exact step_decorators _ s

theorem step_plain (r : Renderer H) (s : Step H) :
    (r.step s).2.plain = if s.isDecoration then r.plain else (r.plain.step s).2 := by
  cases s with
  | render path context => exact (render_plain r path context).2.symm
  | renderString source context =>
    exact (congrArg Prod.snd (renderString_plain r source context)).symm
  | _ => rfl

/-- Up to its decorators, a renderer ends up as it would without the steps about decorators. -/
theorem session_plain (r : Renderer H) (steps : List (Step H)) :
    (r.session steps).2.plain = (r.plain.session (undecorated steps)).2 := by
  induction steps generalizing r with
  | nil => rfl
  | cons s rest ih =>
    rw [session_cons, ih, step_plain]
    cases h : s.isDecoration <;> simp [undecorated, h, session_cons]

/-- Decorators come after everything else. Leaving out the steps that add or remove them changes
neither the store at any step nor any answer but those of renderings by path: such an answer is the
failure of the rendering, or else its text passed in order through the decorators that were added
since they were last removed, up to the first that fails. -/
theorem decorators_follow (site theme : Table Value) (dialect : Dialect) (depth : Nat)
    (before : List (Step H)) (s : Step H) (after : List (Step H)) :
    let start := new site theme dialect depth
    let answer? := (start.session (before ++ s :: after)).1[before.length]?
    let plain? := (start.session (undecorated (before ++ s :: after))).1[
      (undecorated before).length]?
    (start.session (before ++ [s])).2.store =
        (start.session (undecorated (before ++ [s]))).2.store ∧
      match s with
      | .addDecorator _ | .resetDecorators => answer? = some .done
      | .render _ _ => ∃ plain answer, plain? = some plain ∧ answer? = some answer ∧
          Follows (addedSinceReset before) plain answer
      | _ => ∃ answer, plain? = some answer ∧ answer? = some answer := by
  intro start answer? plain?
  have hplain (steps : List (Step H)) :
      (start.session steps).2.plain = (start.session (undecorated steps)).2 :=
    session_plain start steps
  have hanswer : answer? = some ((start.session before).2.step s).1 :=
    session_getElem? start before s after
  have hplain? (hs : s.isDecoration = false) :
      plain? = some ((start.session before).2.plain.step s).1 := by
    have hget := session_getElem? start (undecorated before) s (undecorated after)
    rwa [← Step.undecorated_append_cons hs, ← hplain before] at hget
  refine ⟨congrArg (·.store) (hplain (before ++ [s])), ?_⟩
  cases s with
  | addDecorator d => exact hanswer
  | resetDecorators => exact hanswer
  | render path context =>
    refine ⟨_, _, hplain? rfl, hanswer, ?_⟩
    rw [← session_decorators (r := start) rfl before]
    exact (render_plain _ path context).1
  | renderString source context =>
    refine ⟨_, hplain? rfl, hanswer.trans ?_⟩
    rw [step, step, renderString_plain]
  | _ => exact ⟨_, hplain? rfl, hanswer⟩

end Renderer

end Storefront
