import Storefront.Proofs.Registry.Restore
import Storefront.Proofs.Template.Decorators

/-!
# What v3 accepts

v3 compiles what v4 compiles, less the templates with a decorator. Of a template with decorators it
names the first one in the order of the source, which `IsFirstDecorator` finds in the list of all
elements: what stands before it, at whatever depth, is no decorator. The two directions are
`compile_v3_eq_ok_iff` and `compile_v3_of_isFirstDecorator`, and `v3_accepts` joins them for an
engine.
-/

namespace Storefront

namespace Template

variable {source : String} {t : Template} {isBlock : Bool}

/-- An element of a template, at whatever depth, is a decorator, and no element before it in the
order of the source is one. `isBlock` tells whether it is a block. -/
def IsFirstDecorator (t : Template) (isBlock : Bool) : Prop :=
  ∃ before e after, allElements t = before ++ e :: after ∧ decorator? e = some isBlock ∧
    ∀ x ∈ before, decorator? x = none

/-- How messages write the tag of a decorator. -/
def decoratorSyntax (isBlock : Bool) : String :=
  if isBlock then "\x7b\x7b#* ...\x7d\x7d" else "\x7b\x7b* ...\x7d\x7d"

theorem firstDecorator_eq_some_iff :
    firstDecorator t = some isBlock ↔ t.IsFirstDecorator isBlock := by
  rw [firstDecorator_eq, List.findSome?_eq_some_iff]
  rfl

theorem exists_isFirstDecorator (h : ¬ DecoratorFree t) :
    ∃ isBlock, t.IsFirstDecorator isBlock := by
  rw [← firstDecorator_eq_none_iff] at h
  obtain ⟨isBlock, hfirst⟩ := Option.ne_none_iff_exists'.1 h
  exact ⟨isBlock, firstDecorator_eq_some_iff.1 hfirst⟩

theorem compile_v3_of_isFirstDecorator (hp : parse source.toList = .ok t)
    (h : t.IsFirstDecorator isBlock) : compile .v3 source = .error (.decoratorTag isBlock) :=
  compile_v3_of_some hp (firstDecorator_eq_some_iff.2 h)

theorem message_decoratorTag (isBlock : Bool) :
    (CompileError.decoratorTag isBlock).message =
      "decorator syntax '" ++ decoratorSyntax isBlock ++ "' requires the v4 engine" := by
  cases isBlock <;> rfl

end Template

namespace Dialect

open Template (DecoratorFree decoratorSyntax)

/-- v3 compiles a source to a template exactly if v4 does and the template has no decorator at any
depth. It refuses what v4 refuses for the same reason, and of a template with decorators it names
the first one in the order of the source, a block before its body and its body before its else
part. -/
theorem v3_accepts (source : String) :
    (∀ t, v3.compile source = .ok t ↔ v4.compile source = .ok t ∧ DecoratorFree t) ∧
    (∀ e, v4.compile source = .error e → v3.compile source = .error e) ∧
    ∀ t, v4.compile source = .ok t → ¬ DecoratorFree t →
      ∃ isBlock, t.IsFirstDecorator isBlock ∧
        ∃ e, v3.compile source = .error (.compile e) ∧
          e.message = "decorator syntax '" ++ decoratorSyntax isBlock ++
            "' requires the v4 engine" := by
  refine ⟨fun t => ?_, fun e h => ?_, fun t h hfree => ?_⟩
  · rw [compile_eq_ok_iff, compile_eq_ok_iff, Template.compile_v3_eq_ok_iff, Template.compile_v4]
  · obtain ⟨c, hc, rfl⟩ := mapError_eq_error_iff.1 h
    exact mapError_eq_error_iff.2 ⟨c, Template.compile_v3_of_v4_error hc, rfl⟩
  · have hp : Template.parse source.toList = .ok t := by
      rwa [compile_eq_ok_iff, Template.compile_v4] at h
    obtain ⟨isBlock, hfirst⟩ := Template.exists_isFirstDecorator hfree
    have hc := Template.compile_v3_of_isFirstDecorator hp hfirst
    exact ⟨isBlock, hfirst, .decoratorTag isBlock, mapError_eq_error_iff.2 ⟨_, hc, rfl⟩,
      Template.message_decoratorTag isBlock⟩

/-- A decorator block in a chained else, with a decorator in its body and one behind the block that
is no block itself. -/
theorem v3_accepts_chained :
    let source := "\x7b\x7b#if a\x7d\x7dx\x7b\x7belse if b\x7d\x7d\x7b\x7b#* c\x7d\x7d" ++
      "\x7b\x7b* d\x7d\x7d\x7b\x7b/c\x7d\x7d\x7b\x7b/if\x7d\x7d\x7b\x7b* e\x7d\x7d"
    ∃ t, (v4.compile source = .ok t ∧ ¬ DecoratorFree t) ∧ t.IsFirstDecorator true ∧
      ∃ e, v3.compile source = .error (.compile e) ∧
        e.message = "decorator syntax '\x7b\x7b#* ...\x7d\x7d' requires the v4 engine" := by
  intro source
  have hparse : (Template.parse source.toList).toOption.any fun t =>
      Template.firstDecorator t = some true := by
    decide +kernel
  cases hp : Template.parse source.toList with
  | error e => simp [hp, Except.toOption] at hparse
  | ok t =>
    have hfirst : Template.firstDecorator t = some true := by
      simpa [hp, Except.toOption] using hparse
    have h4 : v4.compile source = .ok t := by rw [compile_eq_ok_iff, Template.compile_v4, hp]
    have hfree : ¬ DecoratorFree t := by
      rw [← Template.firstDecorator_eq_none_iff, hfirst]
      exact nofun
    obtain ⟨isBlock, hblock, e, he, hmessage⟩ := (v3_accepts source).2.2 t h4 hfree
    obtain rfl : isBlock = true := by
      rw [← Template.firstDecorator_eq_some_iff, hfirst] at hblock
      exact (Option.some.inj hblock).symm
    exact ⟨t, ⟨h4, hfree⟩, hblock, e, he, hmessage⟩

end Dialect

end Storefront
