import Storefront.Proofs.Template.Compile

/-!
# Decorators at any depth

`allElements` lists the elements of a template at every depth, in the order of the source. Searching
a template for its first decorator is searching this list (`firstDecorator_eq`), so v3 compiles
exactly what v4 compiles to a template without decorators (`compile_v3_eq_ok_iff`).
-/

namespace Storefront.Template

mutual

/-- The elements of a template at every depth: a block stands before its body, and its body before
its else part. -/
def allElements : List Element → List Element
  | [] => []
  | e :: rest => e :: (innerElements e ++ allElements rest)

/-- The elements inside an element. -/
def innerElements : Element → List Element
  | .block _ _ _ body inverse => allElements body ++ allElements inverse
  | .decoratorBlock _ _ body => allElements body
  | .partBlock _ _ body => allElements body
  | _ => []

end

/-- Whether a decorator is a block; `none` for an element that is no decorator. -/
def decorator? : Element → Option Bool
  | .decorator _ _ => some false
  | .decoratorBlock _ _ _ => some true
  | _ => none

/-- No element is a decorator, at any depth. -/
def DecoratorFree (t : Template) : Prop :=
  ∀ e ∈ allElements t, decorator? e = none

mutual

theorem firstDecorator_eq : ∀ t, firstDecorator t = (allElements t).findSome? decorator?
  | [] => by simp [firstDecorator, allElements]
  | e :: rest => by
    have he := decoratorIn_eq e
    have hrest := firstDecorator_eq rest
    rw [firstDecorator, he, hrest, allElements, ← List.cons_append, List.findSome?_append,
      Option.or_eq_orElse]
    rfl

theorem decoratorIn_eq : ∀ e, decoratorIn e = (e :: innerElements e).findSome? decorator?
  | .text _ => rfl
  | .value _ _ _ => rfl
  | .block _ _ _ body inverse => by
    have hbody := firstDecorator_eq body
    have hinverse := firstDecorator_eq inverse
    rw [decoratorIn, hbody, hinverse, innerElements]
    simp [List.findSome?_cons, decorator?, List.findSome?_append]
  | .decorator _ _ => rfl
  | .decoratorBlock _ _ _ => rfl
  | .part _ _ => rfl
  | .partBlock _ _ body => by
    have hbody := firstDecorator_eq body
    rw [decoratorIn, hbody, innerElements]
    simp [List.findSome?_cons, decorator?]

end

variable {source : String} {t : Template}

theorem firstDecorator_eq_none_iff : firstDecorator t = none ↔ DecoratorFree t := by
  rw [firstDecorator_eq, List.findSome?_eq_none_iff]
  rfl

theorem compile_v3_of_none (hp : parse source.toList = .ok t) (h : firstDecorator t = none) :
    compile .v3 source = .ok t := by
  rw [compile_v3, hp]
  dsimp only [bind, Except.bind]
  rw [h]

theorem compile_v3_of_some {isBlock : Bool} (hp : parse source.toList = .ok t)
    (h : firstDecorator t = some isBlock) :
    compile .v3 source = .error (.decoratorTag isBlock) := by
  rw [compile_v3, hp]
  dsimp only [bind, Except.bind]
  rw [h]

theorem compile_v3_eq_ok_iff :
    compile .v3 source = .ok t ↔ parse source.toList = .ok t ∧ DecoratorFree t := by
  rw [← firstDecorator_eq_none_iff]
  constructor
  · intro h
    have hp : parse source.toList = .ok t := (compile_v4 source).symm.trans (compile_v4_of_v3 h)
    refine ⟨hp, ?_⟩
    cases hfirst : firstDecorator t with
    | none => rfl
    | some isBlock => simp [compile_v3_of_some hp hfirst] at h
  · rintro ⟨hp, hnone⟩
    exact compile_v3_of_none hp hnone

end Storefront.Template
