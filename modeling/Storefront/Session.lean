import Storefront.Renderer

/-!
# Sessions

Everything that can be done with a renderer is a step, and every step has an answer. A session is
a list of steps on one renderer. What a session answers behind an overflow, at which the program
ends, is nobody's to see.
-/

namespace Storefront

open Json (Value)

/-- What can be done with a renderer, with `H` for the kind of the helpers that are registered. -/
inductive Step (H : Type) where
  | add (entries : List (String × String))
  | isLoaded (path : String)
  | render (path : String) (context : Table Value)
  | renderString (source : String) (context : Table Value)
  | preprocess (entries : List (String × String))
  | preprocessAll (entries : List (String × String))
  | setTranslator (translator : Option Translator)
  | locale
  | setContent (content : Table Value)
  | content
  | region (name : String)
  | setSite (settings : Table Value)
  | setTheme (settings : Table Value)
  | site
  | theme
  | siteSetting (key : String)
  | themeSetting (key : String)
  | storage
  | put (key : String) (value : Value)
  | remove (key : String)
  | addDecorator (d : Decorator)
  | resetDecorators
  | engine
  | registerHelper (name : String) (h : H)

inductive Answer where
  | done
  | flag (b : Bool)
  | text (s : String)
  | texts (ts : List (String × String))
  /-- A value, or nothing. -/
  | value (v : Option Value)
  | preprocessed (p : Registry.Preprocessed)
  | failed (e : Error)
  /-- There is no answer: the stack is used up. -/
  | overflow

/-- The answer of an operation that yields a text. -/
def Answer.ofText : Except (Halt Error) String → Answer
  | .ok s => .text s
  | .error (.failed e) => .failed e
  | .error .overflow => .overflow

namespace Renderer

variable {H : Type} [Registrable H]

def onSettings (r : Renderer H) (f : Settings → Settings) : Renderer H :=
  { r with settings := f r.settings }

def step (r : Renderer H) : Step H → Answer × Renderer H
  | .add entries =>
    let (result, registry) := r.registry.addMany entries
    (match result with
      | .ok () => .done
      | .error e => .failed e, { r with registry })
  | .isLoaded path => (.flag (r.registry.isLoaded path), r)
  | .render path context =>
    let (result, r) := r.render path context
    (.ofText result, r)
  | .renderString source context =>
    let (result, r) := r.renderString source context
    (.ofText result, r)
  | .preprocess entries =>
    (match r.registry.preprocess entries with
      | .ok artifacts => .texts artifacts
      | .error e => .failed e, r)
  | .preprocessAll entries => (.preprocessed (r.registry.preprocessAll entries), r)
  | .setTranslator translator => (.done, r.onSettings fun s => { s with translator })
  | .locale => (.value (r.settings.translator.map fun t => .string t.locale), r)
  | .setContent content => (.done, r.onSettings fun s => { s with content })
  | .content => (.value (some (.object r.settings.content)), r)
  | .region name => (.value (r.settings.content.get? name), r)
  | .setSite site => (.done, r.onSettings fun s => { s with site })
  | .setTheme theme => (.done, r.onSettings fun s => { s with theme })
  | .site => (.value (some (.object r.settings.site)), r)
  | .theme => (.value (some (.object r.settings.theme)), r)
  | .siteSetting key => (.value (r.settings.site.get? key), r)
  | .themeSetting key => (.value (r.settings.theme.get? key), r)
  | .storage => (.value (some (.object r.store)), r)
  | .put key v => (.value (r.store.get? key), { r with store := r.store.insert key v })
  | .remove key => (.value (r.store.get? key), { r with store := r.store.erase key })
  | .addDecorator d => (.done, { r with decorators := r.decorators ++ [d] })
  | .resetDecorators => (.done, { r with decorators := [] })
  | .engine => (.text r.registry.dialect.tag, r)
  | .registerHelper name h => (.done, { r with registry := r.registry.addHelper name h })

/-- Takes steps in order: their answers, and the renderer after them. -/
def session (r : Renderer H) : List (Step H) → List Answer × Renderer H
  | [] => ([], r)
  | s :: rest =>
    let (answer, r) := r.step s
    let (answers, r) := r.session rest
    (answer :: answers, r)

end Renderer

end Storefront
