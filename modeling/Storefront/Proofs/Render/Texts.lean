import Storefront.Render.Interpreter

/-!
# Texts that helpers write

`CallsHelper` lists the ways in which an element calls a helper for its output: as a tag with
parameters, as a bare name, as a value that is missing, or as a block. Where the outcome of the call
is a text, the page grows by exactly that text, whatever the environment escapes and however the
page is indented (`CallsHelper.writes_text`).
-/

namespace Storefront.Render

open Run

/-! ### Computations that succeed -/

theorem bind_ok {ε σ α β : Type} {m : EStateM ε σ α} {s s' : σ} {a : α} (h : m s = .ok a s')
    (f : α → EStateM ε σ β) : (m >>= f) s = f a s' := by
  show EStateM.bind m f s = f a s'
  unfold EStateM.bind
  rw [h]

variable {σ : Type} {env : Environment σ} {h : Helper σ} {i : Invocation} {s s' : State σ}
variable {text : String} {store : σ} {e : Element}

theorem placed_ok {α : Type} {position : Option Text.Position} {m : Run σ α} {a : α}
    (hm : m s = .ok a s') : placed position m s = .ok a s' := by
  unfold placed
  rw [hm]

theorem callHelper_ok (hcall : h i s.store = .ok (.text text, store)) :
    evaluate (fun _ => callHelper h i) s = .ok (.text text) { s with store } := by
  unfold evaluate callHelper
  dsimp only
  rw [hcall]

/-! ### Pages -/

theorem Page.text_put (p : Page) (s : List Char) : (p.put s).text = p.text ++ String.ofList s :=
  rfl

theorem Page.text_leave (p before : Page) : (p.leave before).text = p.text := by
  unfold Page.leave
  split <;> rfl

/-! ### Calls -/

/-- An element calls the helper `h` for its output. The call is made in the state `s'`, which the
evaluation of its parameters leaves. -/
inductive CallsHelper (env : Environment σ) (h : Helper σ) (i : Invocation) (s s' : State σ) :
    Element → Prop where
  | tag {place : Placement} {escaped : Bool} {call : Expr} {name : String}
    (parameters : call.isBare = false)
    (invocation : invocation env call .none s = .ok (name, i) s')
    (resolve : env.resolve name "helperMissing" = .ok h) :
    CallsHelper env h i s s' (.value place escaped call)
  /-- A bare name that is the name of a helper. -/
  | bare {place : Placement} {escaped : Bool} {call : Expr} {name name' : String} {s₁ : State σ}
    (bare : call.isBare)
    (callee : evaluate (fun scopes => evalName env scopes call.callee) s = .ok name s₁)
    (known : (env.helper? name).isSome)
    (invocation : invocation env call .none s₁ = .ok (name', i) s')
    (resolve : env.resolve name' "helperMissing" = .ok h) :
    CallsHelper env h i s s' (.value place escaped call)
  /-- A value that is missing, with a helper that stands in for missing values. -/
  | missing {place : Placement} {escaped : Bool} {call : Expr} {name name' : String}
    {s₁ s₂ : State σ}
    (bare : call.isBare)
    (callee : evaluate (fun scopes => evalName env scopes call.callee) s = .ok name s₁)
    (unknown : (env.helper? name).isSome = false)
    (value : evaluate (fun scopes => eval env scopes call.callee) s₁ = .ok none s₂)
    (standIn : env.helper? "helperMissing" = some h)
    (invocation : invocation env call .none s₂ = .ok (name', i) s') :
    CallsHelper env h i s s' (.value place escaped call)
  | block {place : Placement} {call : Expr} {names : BlockNames} {body inverse : List Element}
    {name : String}
    (invocation : invocation env call names s = .ok (name, i) s')
    (resolve : env.resolve name "blockHelperMissing" = .ok h) :
    CallsHelper env h i s s' (.block place call names body inverse)

theorem asHelper_text (hcall : h i s'.store = .ok (.text text, store)) (standalone : Bool)
    {write : Outcome → Run σ Unit} (hwrite : write (.text text) = put text.toList) :
    ∃ page, asHelper standalone (do
        let o ← evaluate fun _ => callHelper h i
        write o) s' = .ok () { s' with store, page } ∧
      page.text = s'.page.text ++ text := by
  refine ⟨((s'.page.enterHelper standalone).put text.toList).leave s'.page, ?_, ?_⟩
  · let entered : State σ := { s' with page := s'.page.enterHelper standalone }
    have hevaluate : evaluate (fun _ => callHelper h i) entered =
        .ok (.text text) { entered with store } := callHelper_ok hcall
    have hrun : (do
        let o ← evaluate fun _ => callHelper h i
        write o) entered = .ok () { entered with store, page := entered.page.put text.toList } := by
      rw [bind_ok hevaluate, hwrite]
      rfl
    exact (bind_ok rfl _).trans ((bind_ok rfl _).trans ((bind_ok hrun _).trans rfl))
  · rw [Page.text_leave, Page.text_put, String.ofList_toList]
    rfl

theorem resolve_ok {name standIn : String} (hresolve : env.resolve name standIn = .ok h)
    (s : State σ) :
    (settled ((env.resolve name standIn).mapError fun reason => .failed { reason }) :
      Run σ (Helper σ)) s = .ok h s := by
  rw [hresolve]
  rfl

theorem helperTag_text {escape : List Char → List Char} {call : Expr} {name : String}
    (hinvocation : invocation env call .none s = .ok (name, i) s')
    (hresolve : env.resolve name "helperMissing" = .ok h)
    (hcall : h i s'.store = .ok (.text text, store)) :
    ∃ page, helperTag env escape call s = .ok () { s' with store, page } ∧
      page.text = s'.page.text ++ text := by
  have hwrite : writeOutcome escape (.text text) = (put text.toList : Run σ Unit) := rfl
  obtain ⟨page, hrun, htext⟩ := asHelper_text hcall false hwrite
  refine ⟨page, ?_, htext⟩
  unfold helperTag
  rw [bind_ok hinvocation]
  dsimp only
  rw [bind_ok (resolve_ok hresolve s')]
  exact hrun

theorem valueTag_text {escaped : Bool} {call : Expr} {place : Placement}
    (hcalls : CallsHelper env h i s s' (.value place escaped call))
    (hcall : h i s'.store = .ok (.text text, store)) :
    ∃ page, valueTag env escaped call s = .ok () { s' with store, page } ∧
      page.text = s'.page.text ++ text := by
  unfold valueTag
  dsimp only
  cases hcalls with
  | tag hparameters hinvocation hresolve =>
    rw [if_neg (by rw [hparameters]; exact Bool.false_ne_true)]
    exact helperTag_text hinvocation hresolve hcall
  | bare hbare hcallee hknown hinvocation hresolve =>
    rw [if_pos hbare, bind_ok hcallee, if_pos hknown]
    exact helperTag_text hinvocation hresolve hcall
  | missing hbare hcallee hunknown hvalue hstandIn hinvocation =>
    rw [if_pos hbare, bind_ok hcallee, hunknown, if_neg Bool.false_ne_true, bind_ok hvalue,
      hstandIn]
    dsimp only
    rw [bind_ok hinvocation]
    dsimp only
    rw [bind_ok (callHelper_ok hcall)]
    refine ⟨s'.page.put text.toList, rfl, ?_⟩
    rw [Page.text_put, String.ofList_toList]

theorem blockTag_text {call : Expr} {names : BlockNames} {name : String} {body inverse : Run σ Unit}
    (hinvocation : invocation env call names s = .ok (name, i) s')
    (hresolve : env.resolve name "blockHelperMissing" = .ok h)
    (hcall : h i s'.store = .ok (.text text, store)) (standalone : Bool) :
    ∃ page, blockTag env standalone call names body inverse s = .ok () { s' with store, page } ∧
      page.text = s'.page.text ++ text := by
  unfold blockTag
  rw [bind_ok hinvocation]
  dsimp only
  rw [bind_ok (resolve_ok hresolve s')]
  exact asHelper_text hcall standalone rfl

theorem CallsHelper.writes_text (hcalls : CallsHelper env h i s s' e)
    (hcall : h i s'.store = .ok (.text text, store)) (visit : Template → Run σ Unit) :
    ∃ page, runElement env visit e s = .ok () { s' with store, page } ∧
      page.text = s'.page.text ++ text := by
  cases e with
  | value place escaped call =>
    obtain ⟨page, hrun, htext⟩ := valueTag_text hcalls hcall
    refine ⟨page, ?_, htext⟩
    rw [runElement]
    exact placed_ok hrun
  | block place call names body inverse =>
    cases hcalls with
    | block hinvocation hresolve =>
      obtain ⟨page, hrun, htext⟩ := blockTag_text hinvocation hresolve hcall place.standalone
      refine ⟨page, ?_, htext⟩
      rw [runElement]
      exact placed_ok hrun
  | _ => cases hcalls

end Storefront.Render
