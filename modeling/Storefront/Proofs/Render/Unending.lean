import Storefront.Proofs.Render.DecoratorFree
import Storefront.Proofs.Render.Texts

/-!
# Parts that call each other without end

A template that starts with a call of a part does nothing else before that part has ended. So where
a part is called that starts like this, and the part that it calls does, and so on, every run goes
one level deeper until the stack is used up, however large it is (`Environment.render_unending`).
-/

namespace Storefront.Render

open Run

variable {σ α β : Type} {env : Environment σ} {P : Template → Prop}

/-- From the state `s` the run ends in an overflow. -/
def Exhausts (m : Run σ α) (s : State σ) : Prop :=
  ∃ s', m s = .error .overflow s'

namespace Exhausts

variable {m : Run σ α} {s s' : State σ} {a : α} {f : α → Run σ β}

theorem bind (h : Exhausts m s) (f : α → Run σ β) : Exhausts (m >>= f) s := by
  obtain ⟨s', h⟩ := h
  refine ⟨s', ?_⟩
  show EStateM.bind m f s = .error .overflow s'
  unfold EStateM.bind
  rw [h]

theorem of_bind_ok (hm : m s = .ok a s') (hf : Exhausts (f a) s') : Exhausts (m >>= f) s := by
  unfold Exhausts
  rw [bind_ok hm]
  exact hf

theorem placed (h : Exhausts m s) (position : Option Text.Position) :
    Exhausts (Run.placed position m) s := by
  obtain ⟨s', h⟩ := h
  refine ⟨s', ?_⟩
  unfold Run.placed
  rw [h]
  rfl

end Exhausts

/-- The name of the part that a template starts with, if it starts with a call that has a name and
no parameters. -/
def firstPart? : Template → Option String
  | .part _ (.call (.name name) [] []) :: _ => some name
  | _ => none

theorem firstPart?_eq_some_iff {t : Template} {name : String} :
    firstPart? t = some name ↔
      ∃ place rest, t = .part place (.call (.name name) [] []) :: rest := by
  constructor
  · intro h
    unfold firstPart? at h
    split at h
    · cases h
      exact ⟨_, _, rfl⟩
    · cases h
  · rintro ⟨_, _, rfl⟩
    rfl

/-- Every template in `P` starts with a part for which the environment has a template that is in `P`
again. -/
def Environment.Unending (env : Environment σ) (P : Template → Prop) : Prop :=
  ∀ t, P t → ∃ name t', firstPart? t = some name ∧ name ≠ "@partial-block" ∧
    env.templates.get? name = some t' ∧ P t'

theorem exhausts_runPart {template : Run σ Unit}
    (htemplate : ∀ s : State σ, s.NoParts → Exhausts template s) (place : Placement)
    (i : Invocation) {s : State σ} (hs : s.NoParts) :
    Exhausts (runPart place i none template) s := by
  rw [runPart_none]
  refine .of_bind_ok rfl (.of_bind_ok rfl (.bind ?_ _))
  refine .of_bind_ok rfl (.of_bind_ok rfl (.of_bind_ok rfl (.bind (htemplate _ ?_) _)))
  exact List.forall_mem_cons.2 ⟨rfl, hs⟩

/-- Where no scope defines a part, a call of a part goes on with the template that the environment
has for it. -/
theorem exhausts_partTag {visit : Template → Run σ Unit} {name : String} {t : Template}
    (hname : name ≠ "@partial-block") (hget : env.templates.get? name = some t)
    (hvisit : ∀ s : State σ, s.NoParts → Exhausts (visit t) s) (place : Placement) {s : State σ}
    (hs : s.NoParts) :
    Exhausts (partTag env visit place (.call (.name name) [] []) none) s := by
  have hinvocation : invocation env (.call (.name name) [] []) .none s =
      .ok (name, { params := [], hash := [] }) s := rfl
  refine .of_bind_ok hinvocation (.of_bind_ok rfl (.of_bind_ok rfl ?_))
  rw [if_neg hname]
  refine .of_bind_ok rfl ?_
  dsimp only
  rw [part?_eq_none hs name, hget]
  refine Exhausts.bind (m := runPart place _ none (visit t)) ?_ _
  exact exhausts_runPart hvisit place _ hs

theorem exhausts_runTemplate (h : env.Unending P) (depth : Nat) {t : Template} (ht : P t)
    {s : State σ} (hs : s.NoParts) : Exhausts (runTemplate env depth t) s := by
  induction depth generalizing t s with
  | zero => exact ⟨s, rfl⟩
  | succ depth ih =>
    obtain ⟨name, t', hfirst, hname, hget, ht'⟩ := h t ht
    obtain ⟨place, rest, rfl⟩ := firstPart?_eq_some_iff.1 hfirst
    have hpart := exhausts_partTag hname hget (fun s hs => ih ht' hs) place hs
    exact (hpart.placed place.position).bind _

/-- A run of parts that call each other without end overflows every stack. -/
theorem Environment.render_unending (h : env.Unending P) {t : Template} (ht : P t) (store : σ) :
    (env.render t store).1 = .error .overflow := by
  obtain ⟨s', hrun⟩ := exhausts_runTemplate h (env.depth + 1) ht
    (s := { store, scopes := [{ value := env.root }] }) (by simp [State.NoParts])
  rw [render, hrun]

end Storefront.Render
