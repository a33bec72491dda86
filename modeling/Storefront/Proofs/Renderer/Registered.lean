import Storefront.Proofs.Registry.Restore
import Storefront.Proofs.Session.Run

/-!
# A registered source renders as the source itself

Rendering a registered template runs what was compiled when it was added, and rendering a source
compiles it anew. Without decorators the two come to the same (`registered_source`), whatever the
source does: it may call parts, itself among them, and write to the store before it fails.
-/

namespace Storefront

open Json (Value)
open Artifact (isPrecompiled)

namespace Registry

variable {H : Type} {r : Registry H} {path source : String} {t : Template}

theorem addMany_source (hnew : r.isLoaded path = false) (hraw : isPrecompiled source.toList = false)
    (hcompile : r.dialect.compile source = .ok t) :
    r.addMany [(path, source)] = (.ok (), r.put path t) := by
  have hadd : r.add path source = .ok (true, r.put path t) := by
    rw [add_unloaded hnew, build_of_compile path hraw hcompile]
    rfl
  rw [addMany_cons_ok hadd, addMany_nil]

theorem get?_put (r : Registry H) (path : String) (t : Template) :
    (r.put path t).templates.get? path = some t := by
  rw [put, Table.get?_insert, if_pos rfl]

theorem isLoaded_put (r : Registry H) (path : String) (t : Template) :
    (r.put path t).isLoaded path := by
  rw [isLoaded, Table.contains, get?_put]
  rfl

theorem execute_put {σ : Type} (bind : String → H → Render.Helper σ)
    (hcompile : r.dialect.compile source = .ok t) (data : Value) (store : σ) :
    (r.put path t).execute bind path data store =
      (r.put path t).executeSource bind source data store := by
  have hcompile : (r.put path t).dialect.compile source = .ok t := hcompile
  rw [execute, get?_put, executeSource_compiled hcompile]

end Registry

namespace Renderer

variable {H : Type}

/-- Two renderings that come to the same: they leave one renderer, and either both give one text,
or both fail while running, with one message, or neither has an answer. `p` and `q` are the paths
that the errors name. -/
inductive SameOutcome (p q : Option String) :
    Except (Halt Error) String × Renderer H → Except (Halt Error) String × Renderer H → Prop where
  | text (s : String) (r : Renderer H) : SameOutcome p q (.ok s, r) (.ok s, r)
  | failure (message : String) (r : Renderer H) :
      SameOutcome p q (.error (.failed (.render p message)), r)
        (.error (.failed (.render q message)), r)
  | overflow (r : Renderer H) : SameOutcome p q (.error .overflow, r) (.error .overflow, r)

variable [Registrable H] {r : Renderer H} {path source : String} {t : Template}

theorem renderings_agree (hchain : r.decorators = []) (hloaded : r.registry.isLoaded path)
    (hcompile : r.registry.dialect.compile source = .ok t) (context : Table Value)
    (hrun : ∀ data, r.registry.execute r.bind path data r.store =
      r.registry.executeSource r.bind source data r.store) :
    SameOutcome (some path) none (r.render path context)
      (r.renderString source (context.insert templateKey (.string path))) := by
  -- Naming the path in the context is what rendering by path does itself.
  have haugment : r.augment none (context.insert templateKey (.string path)) =
      r.augment (some path) context := rfl
  rw [render_loaded hloaded, renderString_compiled hcompile, haugment, hrun]
  generalize r.registry.executeSource r.bind source _ r.store = x
  obtain ⟨result, store⟩ := x
  cases result with
  | error e =>
    cases e with
    | failed e => exact .failure e.message _
    | overflow => exact .overflow _
  | ok s =>
    have happly : r.outcome path (.ok s) = .ok s := by
      rw [outcome, hchain]
      rfl
    dsimp only
    rw [happly]
    exact .text s _

/-- Adding a source that compiles under a new path succeeds, and from then on, without decorators,
rendering the path and rendering the source with the path in its context come to the same: one
text, or a failure with one message, and one store. -/
theorem registered_source (hchain : r.decorators = []) (hnew : r.registry.isLoaded path = false)
    (hraw : isPrecompiled source.toList = false)
    (hcompile : r.registry.dialect.compile source = .ok t) (context : Table Value) :
    (r.step (.add [(path, source)])).1 = .done ∧
      let r' := (r.step (.add [(path, source)])).2
      SameOutcome (some path) none (r'.render path context)
        (r'.renderString source (context.insert templateKey (.string path))) := by
  have hstep : r.step (.add [(path, source)]) =
      (.done, { r with registry := r.registry.put path t }) := by
    rw [step, Registry.addMany_source hnew hraw hcompile]
  let r' : Renderer H := { r with registry := r.registry.put path t }
  have hloaded : r'.registry.isLoaded path := Registry.isLoaded_put ..
  have hrun (data : Value) : r'.registry.execute r'.bind path data r'.store =
      r'.registry.executeSource r'.bind source data r'.store :=
    Registry.execute_put _ hcompile data _
  rw [hstep]
  exact ⟨rfl, renderings_agree (r := r') hchain hloaded hcompile context hrun⟩

/-- A page that shows its path, writes to the store and then fails by a part that is not there. -/
theorem registered_source_failure :
    let page := "\x7b\x7btemplate\x7d\x7d\x7b\x7bassignVar \"n\" 1\x7d\x7d\x7b\x7b> none\x7d\x7d"
    let message := "Error rendering \"Unnamed template\" line 1, col 32: Partial not found none"
    let r : Renderer Builtin := new [] [] .v3
    let r' := (r.step (.add [("page", page)])).2
    let x := r'.render "page" [("n", .null)]
    let x' := r'.renderString page [("n", .null), (templateKey, .string "page")]
    (x.1 = .error (.failed (.render (some "page") message)) ∧
      (Value.object x.2.store).toJson = "\x7b\"variables\":\x7b\"n\":1\x7d\x7d") ∧
    (r.step (.add [("page", page)])).1 = .done ∧ SameOutcome (some "page") none x x' := by
  intro page message r r' x x'
  have hcompile : ∃ t, Dialect.v3.compile page = .ok t := Dialect.exists_of_isOk (by decide +kernel)
  obtain ⟨t, ht⟩ := hcompile
  refine ⟨by decide +kernel, ?_⟩
  exact registered_source (r := r) (t := t) rfl rfl (by decide) ht [("n", .null)]

end Renderer

end Storefront
