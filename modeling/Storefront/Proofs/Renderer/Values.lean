import Storefront.Proofs.Render.Show
import Storefront.Proofs.Render.Texts
import Storefront.Proofs.Renderer.Source

/-!
# Values that a page shows

A tag in three braces writes a value as it is. On a page that is not indented the value makes up the
text of the page (`Environment.render_plain`), and it is found in the context unless a helper has
its name. The tag needs no decorator, so both dialects compile it to the same template.
-/

namespace Storefront

open Json (Value)
open Render

namespace Render

variable {σ : Type} {env : Environment σ} {s : State σ} {p : Path} {v : Value}

theorem Page.indented_nil (s : List Char) : Page.indented [] s = s := by
  induction s with
  | nil => rfl
  | cons c s ih =>
    unfold Page.indented
    rw [ih, List.nil_append, ite_self]

theorem Page.text_write {page : Page} (h : page.indent = none) (s : List Char) :
    (page.write s).text = page.text ++ String.ofList s := by
  unfold Page.write
  cases s with
  | nil => exact String.append_empty.symm
  | cons c s =>
    rw [h]
    simp [Page.indented_nil]

/-- A path that is found, and that no helper has as its name, is written as it is. -/
theorem valueTag_path (hhelper : env.helper? p.text = none)
    (hlookup : lookup env.root s.scopes p = .ok (some v)) :
    valueTag env false (.call (.path p) [] []) s =
      .ok () { s with page := s.page.write v.shown } := by
  have hname : Run.evaluate (fun scopes => evalName env scopes (.path p)) s = .ok p.text s := rfl
  have hvalue : Run.evaluate (fun scopes => eval env scopes (.path p)) s = .ok (some v) s := by
    have heval : eval env s.scopes (.path p) s.store = .ok (some v) s.store := by
      show settled (lookup env.root s.scopes p) s.store = _
      rw [hlookup]
      rfl
    unfold Run.evaluate
    dsimp only
    rw [heval]
  unfold valueTag
  rw [if_pos (by rfl)]
  show (Run.evaluate (fun scopes => evalName env scopes (.path p)) >>= _) s = _
  rw [bind_ok hname, hhelper]
  show (Run.evaluate (fun scopes => eval env scopes (.path p)) >>= _) s = _
  rw [bind_ok hvalue]
  rfl

theorem Environment.render_plain {place : Placement} (hhelper : env.helper? p.text = none)
    (hlookup : lookup env.root [{ value := env.root }] p = .ok (some v)) (store : σ) :
    env.render [.value place false (.call (.path p) [] [])] store =
      (.ok (String.ofList v.shown), store) := by
  let start : State σ := { store, scopes := [{ value := env.root }] }
  let page : Page := start.page.write v.shown
  have helement (visit : Template → Run σ Unit) :
      runElement env visit (.value place false (.call (.path p) [] [])) start =
        .ok () { start with page } := by
    rw [runElement]
    exact placed_ok (valueTag_path hhelper hlookup)
  have hrun : runTemplate env (env.depth + 1) [.value place false (.call (.path p) [] [])] start =
      .ok () { start with page } := by
    rw [runTemplate, runElements, bind_ok (helement _), runElements]
    rfl
  have htext : page.text = String.ofList v.shown := by
    rw [Page.text_write rfl]
    exact String.empty_append
  rw [Environment.render, hrun]
  dsimp only
  rw [htext]

end Render

/-! ### The tag -/

/-- A source that shows the value that is called `x`. -/
def valueSource : String :=
  "\x7b\x7b\x7bx\x7d\x7d\x7d"

/-- The path in that source. -/
def valuePath : Path where
  text := "x"
  fromRoot := false
  isMarked := false
  levels := 0
  keys := ["x"]

/-- The template is nothing but that tag. -/
def isValueTag : Template → Bool
  | [.value _ false (.call (.path p) [] [])] => decide (p = valuePath)
  | _ => false

theorem exists_of_isValueTag {t : Template} (h : isValueTag t) :
    ∃ place, t = [.value place false (.call (.path valuePath) [] [])] := by
  unfold isValueTag at h
  split at h
  · next place p =>
    obtain rfl := of_decide_eq_true h
    exact ⟨place, rfl⟩
  · cases h

theorem exists_parse_valueSource : ∃ place, Template.parse valueSource.toList =
    .ok [.value place false (.call (.path valuePath) [] [])] := by
  have hparse : (Template.parse valueSource.toList).toOption.any isValueTag := by
    decide +kernel
  cases hp : Template.parse valueSource.toList with
  | error e => simp [hp, Except.toOption] at hparse
  | ok t =>
    obtain ⟨place, rfl⟩ := exists_of_isValueTag (by simpa [hp, Except.toOption] using hparse)
    exact ⟨place, rfl⟩

theorem exists_compile_valueSource (d : Dialect) : ∃ place, d.compile valueSource =
    .ok [.value place false (.call (.path valuePath) [] [])] := by
  obtain ⟨place, hparse⟩ := exists_parse_valueSource
  refine ⟨place, (Dialect.compile_eq_ok_iff ..).2 ?_⟩
  cases d with
  | v3 => rw [Template.compile_v3, hparse]; rfl
  | v4 => rw [Template.compile_v4, hparse]

theorem lookup_valuePath {fields : Table Value} {v : Value} (h : fields.get? "x" = some v) :
    lookup (.object fields) [{ value := .object fields }] valuePath = .ok (some v) := by
  show walk ["x"] (.object fields) = _
  rw [walk, step, h]
  rfl

namespace Renderer

variable {H : Type} [Registrable H] {r : Renderer H} {context : Table Value} {v : Value}

omit [Registrable H] in
theorem exists_augment (hvalue : context.get? "x" = some v) :
    ∃ fields : Table Value, r.augment none context = .object fields ∧ fields.get? "x" = some v := by
  refine ⟨_, rfl, ?_⟩
  cases r.settings.translator with
  | none => exact hvalue
  | some t =>
    dsimp only
    rw [Table.get?_insert, if_neg (by decide), hvalue]

theorem renderString_valueSource (hhelper : r.registry.helpers.get? "x" = none)
    (hvalue : context.get? "x" = some v) :
    r.renderString valueSource context = (.ok (String.ofList v.shown), r) := by
  obtain ⟨fields, haugment, hfield⟩ := exists_augment (r := r) hvalue
  obtain ⟨place, hcompile⟩ := exists_compile_valueSource r.registry.dialect
  have hname : (r.registry.environment r.bind (.object fields)).helper? valuePath.text = none := by
    simp only [Registry.environment, valuePath, hhelper]
    rfl
  rw [renderString_compiled hcompile, Registry.executeSource_compiled hcompile, haugment,
    Registry.run, Environment.render_plain hname (lookup_valuePath hfield)]
  rfl

/-- The tag writes a text for every value and changes nothing. That is the text that stands for the
value in running text exactly for strings, null, truth values and numbers, and for arrays with at
most one item in which, at any depth, nothing but truth values and numbers stands. All other arrays
and all objects stand in running text in their JSON form, which a tag does not write. -/
theorem shows_text_iff (hhelper : r.registry.helpers.get? "x" = none)
    (hvalue : context.get? "x" = some v) :
    r.renderString valueSource context = (.ok (String.ofList v.shown), r) ∧
      (r.renderString valueSource context = (.ok v.toText, r) ↔ v.printsAlike) := by
  have hrender := renderString_valueSource hhelper hvalue
  refine ⟨hrender, ?_⟩
  rw [hrender, Prod.mk.injEq, Except.ok.injEq, eq_comm, Value.toText_eq_iff]
  exact and_iff_left rfl

/-- A number in two arrays, for a renderer that puts its locale into the context. -/
theorem shows_text_iff_nested :
    let translator := some (Catalogue.translator ⟨"en-US", []⟩)
    let r : Renderer Builtin := { new [] [] .v3 with settings := { translator } }
    let v : Value := .array [.array [.ofInt (-1)]]
    let context : Table Value := [(localeKey, .null), ("x", v)]
    (r.registry.helpers.get? "x" = none ∧ context.get? "x" = some v) ∧
      r.renderString valueSource context = (.ok "[[-1]]", r) := by
  intro translator r v context
  have hhelper : r.registry.helpers.get? "x" = none := rfl
  have hvalue : context.get? "x" = some v := rfl
  have htext : v.toText = "[[-1]]" := by decide
  have halike : v.printsAlike := by decide
  have hrender := (shows_text_iff hhelper hvalue).2.2 halike
  rw [htext] at hrender
  exact ⟨⟨hhelper, hvalue⟩, hrender⟩

/-- A tag separates the items of an array by a space, and JSON does not. -/
theorem not_shows_text_array :
    let r : Renderer Builtin := new [] [] .v4
    let v : Value := .array [.ofInt 1, .ofInt 2]
    (r.renderString valueSource [("x", v)]).1 = .ok "[1, 2]" ∧ v.toText = "[1,2]" := by
  intro r v
  have hvalue : Table.get? [("x", v)] "x" = some v := rfl
  have hrender := renderString_valueSource (r := r) rfl hvalue
  have hshown : String.ofList v.shown = "[1, 2]" := by decide
  rw [hrender, hshown]
  exact ⟨rfl, by decide⟩

end Renderer

end Storefront
