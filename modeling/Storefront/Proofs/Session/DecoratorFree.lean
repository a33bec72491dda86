import Storefront.Proofs.Registry.Outcome
import Storefront.Proofs.Render.DecoratorFree
import Storefront.Proofs.Session.Precedence

/-!
# No decorators in v3

Whatever a v3 renderer registers, a source or an artifact, is compiled by v3. So no template in its
table ever holds a decorator, and a source is run only if its template holds none, in which case
nothing that its run calls holds one either (`decorator_free`).
-/

namespace Storefront

open Json (Value)
open Template (CompileError DecoratorFree)

variable {source : String} {t : Template}

theorem Dialect.Makes.decoratorFree {text : String} (h : v3.Makes text t) : DecoratorFree t := by
  have hbuild : Registry.build v3 "" text = .ok t := (Registry.build_eq_ok_iff "").2 h
  obtain ⟨source, hsource⟩ := Registry.exists_compile_of_build hbuild
  exact (Template.compile_v3_eq_ok_iff.1 hsource).2

namespace Renderer

variable {H : Type} [Registrable H]

/-- Renders the template of a source as `renderString` does, but with `alarm` in place of every
template with a decorator that is called. -/
def renderWatched (r : Renderer H) (t : Template) (context : Table Value)
    (alarm : Render.Run Store Unit) : Except (Halt Error) String × Renderer H :=
  let x := (r.registry.environment r.bind (r.augment none context)).renderGuarded alarm t r.store
  (x.1.mapError (·.map fun f => .render none f.message), { r with store := x.2 })

variable {r : Renderer H}

theorem session_decoratorFree (site theme : Table Value) (depth : Nat) (steps : List (Step H))
    {path : String}
    (h : ((new site theme .v3 depth).session steps).2.registry.templates.get? path = some t) :
    DecoratorFree t := by
  rw [new_session_get?, Registry.firstMade?_eq_some_iff] at h
  obtain ⟨before, text, after, -, hmakes, -⟩ := h
  exact hmakes.decoratorFree

theorem renderString_parse_error (hd : r.registry.dialect = .v3) {e : CompileError}
    (h : Template.parse source.toList = .error e) (context : Table Value) :
    r.renderString source context = (.error (.failed (.compile none e.message)), r) := by
  have hc : r.registry.dialect.compile source = .error (.compile e) := by
    rw [hd, Dialect.compile, Template.compile_v3, h]
    rfl
  exact renderString_refused hc context

theorem renderString_decorator (hd : r.registry.dialect = .v3)
    (h : Template.parse source.toList = .ok t) (ht : ¬ DecoratorFree t) (context : Table Value) :
    ∃ isBlock, r.renderString source context =
      (.error (.failed (.compile none (CompileError.decoratorTag isBlock).message)), r) := by
  rw [← Template.firstDecorator_eq_none_iff] at ht
  obtain ⟨isBlock, hfirst⟩ := Option.ne_none_iff_exists'.1 ht
  have hc : r.registry.dialect.compile source = .error (.compile (.decoratorTag isBlock)) := by
    rw [hd, Dialect.compile, Template.compile_v3_of_some h hfirst]
    rfl
  exact ⟨isBlock, renderString_refused hc context⟩

theorem renderString_decoratorFree (hd : r.registry.dialect = .v3)
    (htable : ∀ path t, r.registry.templates.get? path = some t → DecoratorFree t)
    (h : Template.parse source.toList = .ok t) (ht : DecoratorFree t) (context : Table Value)
    (alarm : Render.Run Store Unit) :
    r.renderString source context = r.renderWatched t context alarm := by
  have hc : r.registry.dialect.compile source = .ok t := by
    rw [hd, Dialect.compile_eq_ok_iff, Template.compile_v3_eq_ok_iff]
    exact ⟨h, ht⟩
  rw [renderString_compiled hc, renderWatched, Render.Environment.renderGuarded_eq htable alarm ht,
    Registry.executeSource_compiled hc]
  dsimp only [Registry.run]
  generalize (r.registry.environment r.bind (r.augment none context)).render t r.store = x
  obtain ⟨result, store⟩ := x
  cases result with
  | ok s => rfl
  | error e => cases e <;> rfl

/-- In v3 no decorator is ever registered or run. After any session, no template in the table holds
one, at any depth; and a source whose template holds one is refused before anything is run, while
any other is run without a template that holds one being called, so that an alarm at such templates
makes no difference. -/
theorem decorator_free (site theme : Table Value) (depth : Nat) (steps : List (Step H)) :
    let r := ((new site theme .v3 depth).session steps).2
    (∀ path t, r.registry.templates.get? path = some t → DecoratorFree t) ∧
    ∀ source context, match Template.parse source.toList with
      | .error e => r.renderString source context = (.error (.failed (.compile none e.message)), r)
      | .ok t =>
        if DecoratorFree t then
          ∀ alarm, r.renderString source context = r.renderWatched t context alarm
        else
          ∃ isBlock, r.renderString source context =
            (.error (.failed (.compile none (CompileError.decoratorTag isBlock).message)), r) := by
  intro r
  have hd : r.registry.dialect = .v3 := session_dialect _ steps
  have htable (path : String) (t : Template) (h : r.registry.templates.get? path = some t) :
      DecoratorFree t :=
    session_decoratorFree site theme depth steps h
  refine ⟨htable, fun source context => ?_⟩
  cases h : Template.parse source.toList with
  | error e => exact renderString_parse_error hd h context
  | ok t =>
    by_cases ht : DecoratorFree t
    · simp only [if_pos ht]
      exact renderString_decoratorFree hd htable h ht context
    · simp only [if_neg ht]
      exact renderString_decorator hd h ht context

/-- A page with an else is registered; a source with a decorator in its else is not run. -/
theorem decorator_free_page :
    let page := "\x7b\x7b#if a\x7d\x7dx\x7b\x7belse\x7d\x7dy\x7b\x7b/if\x7d\x7d"
    let source := "\x7b\x7b#if a\x7d\x7d\x7b\x7belse\x7d\x7d\x7b\x7b* x\x7d\x7d\x7b\x7b/if\x7d\x7d"
    let r := ((new [] [] .v3).session [.add [("page", page)]]).2
    (∃ t, r.registry.templates.get? "page" = some t ∧ DecoratorFree t) ∧
      ∃ isBlock, r.renderString source [] =
        (.error (.failed (.compile none (CompileError.decoratorTag isBlock).message)), r) := by
  intro page source r
  have h := decorator_free [] [] usualDepth [.add [("page", page)]]
  constructor
  · have hpage : (r.registry.templates.get? "page").isSome := by decide +kernel
    obtain ⟨t, ht⟩ := Option.isSome_iff_exists.1 hpage
    exact ⟨t, ht, h.1 "page" t ht⟩
  · have hparse :
        (Template.parse source.toList).toOption.any fun t => !decide (DecoratorFree t) := by
      decide +kernel
    have hsource := h.2 source []
    cases hp : Template.parse source.toList with
    | error e => simp [hp, Except.toOption] at hparse
    | ok t =>
      have ht : ¬ DecoratorFree t := by simpa [hp, Except.toOption] using hparse
      simpa only [hp, if_neg ht] using hsource

end Renderer

end Storefront
