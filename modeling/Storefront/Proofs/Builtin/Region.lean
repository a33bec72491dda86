import Storefront.Proofs.Artifact.Gate
import Storefront.Proofs.Render.Texts
import Storefront.Proofs.Unescape
import Storefront.Renderer

/-!
# The name of a region in its element

The element of a region carries the region's name as an attribute. Whatever the name is, the
attribute ends at its own closing quote, and reading its entities gives the name
(`quotedValue?_element`). That follows from what escaping promises, which `escaping_safe` states for
both dialects together with what a page shows of it: the element is put on the page as it is,
whatever the dialect of the page escapes.
-/

namespace Storefront

open Json (Value)
open Render

namespace Region

/-- Reads an attribute in double quotes: its value, and what follows the closing quote. `opening` is
what stands in front of the value, its opening quote included. -/
def quotedValue? (opening s : List Char) : Option (List Char × List Char) := do
  let s ← Artifact.after? opening s
  let rest ← Artifact.after? ['"'] (s.dropWhile (· != '"'))
  return (s.takeWhile (· != '"'), rest)

/-- What stands in front of a region's name. -/
def opening : List Char :=
  "<div data-content-region=\"".toList

/-- What stands behind a region's name and its closing quote. -/
def remainder (s : Settings) (name : String) : List Char :=
  '>' :: ((contentText (s.content.get? name)).toList ++ "</div>".toList)

theorem quotedValue?_append {value : List Char} (h : '"' ∉ value) (opening rest : List Char) :
    quotedValue? opening (opening ++ (value ++ '"' :: rest)) = some (value, rest) := by
  obtain ⟨htake, hdrop⟩ := Text.takeWhile_dropWhile_ne h rest
  rw [quotedValue?, Artifact.after?_append]
  show (Artifact.after? ['"'] ((value ++ '"' :: rest).dropWhile (· != '"'))).bind
    (fun r => some ((value ++ '"' :: rest).takeWhile (· != '"'), r)) = some (value, rest)
  rw [hdrop, htake]
  rfl

theorem toList_element (s : Settings) (name : String) :
    (element s name).toList =
      opening ++ (Dialect.v4.escape name.toList ++ '"' :: remainder s name) := by
  have hclosing : "\">".toList = ['"', '>'] := by decide
  unfold element opening remainder
  simp only [String.toList_ofList, hclosing, List.append_assoc, List.cons_append, List.nil_append]

/-- The attribute of a region's element ends at its own closing quote. -/
theorem quotedValue?_element (s : Settings) (name : String) :
    quotedValue? opening (element s name).toList =
      some (Dialect.v4.escape name.toList, remainder s name) := by
  have hquote : '"' ∉ Dialect.v4.escape name.toList :=
    (escapesSafely .v4).safe name.toList '"' (by decide)
  rw [toList_element, quotedValue?_append hquote]

theorem helper_region {s : Settings} {i : Invocation} {name : String}
    (h : i.hash.get? "name" = some (.string name)) (store : Store) :
    Builtin.region.helper s i store = .ok (.text (element s name), store) := by
  have hname : (i.hash.get? "name").bind Value.string? = some name := by
    rw [h]
    rfl
  show (Builtin.regionElement s i).map (fun o => (o, store)) = _
  rw [Builtin.regionElement, hname]
  rfl

/-- Escaping is safe and loses nothing, in either dialect: an escaped text holds no character that
could leave a text or an attribute and no ampersand but those of the dialect's entities, escaping
goes piece by piece, and one reader recovers every text. v4 escapes as v3 does and then the equals
signs, of which it leaves none. So whatever name a region is called with and whatever its content
is, the text that the helper writes has an attribute that ends at the quote in front of the content
and whose entities read as the name; and a page of either dialect takes that text as it is. -/
theorem escaping_safe {H : Type} [Registrable H] :
    (∀ d : Dialect, d.EscapesSafely) ∧
    (∀ s, Dialect.v4.escape s = Text.replaceAll ['='] equalsEntity (Dialect.v3.escape s) ∧
      '=' ∉ Dialect.v4.escape s) ∧
    ∀ (r : Renderer H) (i : Invocation) (name : String), i.hash.get? "name" = some (.string name) →
      ∃ text value,
        quotedValue? opening text.toList = some (value, remainder r.settings name) ∧
        unescape value = name.toList ∧
        (∀ store, Builtin.region.helper r.settings i store = .ok (.text text, store)) ∧
        ∀ data e s s', CallsHelper (r.registry.environment r.bind data)
            (Builtin.region.helper r.settings) i s s' e →
          ∀ visit, ∃ page,
            runElement (r.registry.environment r.bind data) visit e s = .ok () { s' with page } ∧
            page.text = s'.page.text ++ text := by
  refine ⟨escapesSafely, fun s => ⟨escape_v4_eq s, ?_⟩, fun r i name hname => ?_⟩
  · exact not_mem_escape (by decide) List.mem_cons_self s
  · refine ⟨element r.settings name, _, quotedValue?_element r.settings name,
      unescape_escape .v4 name.toList, helper_region hname, fun data e s s' hcalls visit => ?_⟩
    exact hcalls.writes_text (helper_region hname s'.store) visit

/-- A name with quotes, an entity and an equals sign, on a page of v3. -/
theorem escaping_safe_quotes :
    let name := "a\" b=\"&quot;"
    let content : Table Value := [(name, .string "\"</div>")]
    let r : Renderer Builtin := { Renderer.new [] [] .v3 with settings := { content } }
    let env := r.registry.environment r.bind .null
    let i : Invocation := { params := [], hash := [("name", .string name)] }
    let s : State Store := { store := [], scopes := [{ value := .null }] }
    let call : Expr := .call (.name "region") [] [("name", .literal (.string name))]
    let e : Element := .value ⟨none, false, none⟩ true call
    (i.hash.get? "name" = some (.string name) ∧
      CallsHelper env (Builtin.region.helper r.settings) i s s e) ∧
    ∃ text value, quotedValue? opening text.toList = some (value, remainder r.settings name) ∧
      unescape value = name.toList ∧
      ∀ visit, ∃ page, runElement env visit e s = .ok () { s with page } ∧ page.text = text := by
  intro name content r env i s call e
  have hname : i.hash.get? "name" = some (.string name) := rfl
  have hcalls : CallsHelper env (Builtin.region.helper r.settings) i s s e :=
    .tag rfl rfl rfl
  obtain ⟨text, value, hquoted, hvalue, -, hpage⟩ := escaping_safe.2.2 r i name hname
  refine ⟨⟨hname, hcalls⟩, text, value, hquoted, hvalue, fun visit => ?_⟩
  obtain ⟨page, hrun, htext⟩ := hpage .null e s s hcalls visit
  exact ⟨page, hrun, htext.trans String.empty_append⟩

end Region

end Storefront
