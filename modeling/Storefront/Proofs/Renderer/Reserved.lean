import Storefront.Proofs.Session.Run
import Storefront.Proofs.Table

/-!
# The keys that a rendering sets itself

A rendering sets some keys of its context: the path, if it renders what is registered there, and the
locale, if there is a catalogue. What a caller puts under these keys is overwritten before anything
reads it, so two contexts that differ there only become the same data (`augment_eq`), and no
template can tell them apart, in one rendering or over a whole session (`reserved_keys`).
-/

namespace Storefront

open Json (Value)

namespace Table

variable {α : Type} {keys : List String} {key : String} {t t' : Table α}

/-- Two tables that differ in nothing but what stands under `keys`. -/
structure DifferAt (keys : List String) (t t' : Table α) : Prop where
  sorted : t.Sorted
  sorted' : t'.Sorted
  get : ∀ key, key ∉ keys → t.get? key = t'.get? key

theorem DifferAt.eq (h : DifferAt [] t t') : t = t' :=
  h.sorted.ext h.sorted' fun key => h.get key List.not_mem_nil

theorem DifferAt.insert (h : DifferAt (key :: keys) t t') (v : α) :
    DifferAt keys (t.insert key v) (t'.insert key v) where
  sorted := h.sorted.insert key v
  sorted' := h.sorted'.insert key v
  get := by
    intro other hother
    rw [get?_insert, get?_insert]
    split
    · rfl
    · next hne =>
      refine h.get other ?_
      rw [List.mem_cons]
      rintro (rfl | hmem)
      · exact hne rfl
      · exact hother hmem

end Table

namespace Renderer

open Table (DifferAt)

variable {H : Type} {r : Renderer H} {path : Option String} {c c' : Table Value}

/-- The keys that a rendering sets itself; `path` is that of the template, if it is registered. -/
def reserved (r : Renderer H) (path : Option String) : List String :=
  (if path.isSome then [templateKey] else []) ++
    if r.settings.translator.isSome then [localeKey] else []

theorem augment_eq (h : DifferAt (r.reserved path) c c') :
    r.augment path c = r.augment path c' := by
  unfold augment
  unfold reserved at h
  cases path with
  | none =>
    cases htranslator : r.settings.translator with
    | none =>
      rw [htranslator] at h
      rw [h.eq]
    | some t =>
      rw [htranslator] at h
      exact congrArg Value.object (h.insert _).eq
  | some path =>
    cases htranslator : r.settings.translator with
    | none =>
      rw [htranslator] at h
      exact congrArg Value.object (h.insert _).eq
    | some t =>
      rw [htranslator] at h
      exact congrArg Value.object ((h.insert _).insert _).eq

variable [Registrable H]

theorem render_eq {path : String} (h : DifferAt (r.reserved (some path)) c c') :
    r.render path c = r.render path c' := by
  rw [render, render, augment_eq h]

theorem renderString_eq (h : DifferAt (r.reserved none) c c') (source : String) :
    r.renderString source c = r.renderString source c' := by
  rw [renderString, renderString, augment_eq h]

/-! ### Sessions -/

/-- Two steps of which a renderer cannot tell one from the other: they are the same, or the same
rendering with contexts that differ in reserved keys only. -/
inductive SameRequest (r : Renderer H) : Step H → Step H → Prop where
  | same (s : Step H) : SameRequest r s s
  | render {path : String} {c c' : Table Value} (h : DifferAt (r.reserved (some path)) c c') :
      SameRequest r (.render path c) (.render path c')
  | renderString {c c' : Table Value} (source : String) (h : DifferAt (r.reserved none) c c') :
      SameRequest r (.renderString source c) (.renderString source c')

/-- Two sessions that consist of the same requests, each to the renderer as it is by then. -/
inductive SameRequests : Renderer H → List (Step H) → List (Step H) → Prop where
  | nil (r : Renderer H) : SameRequests r [] []
  | cons {r : Renderer H} {s s' : Step H} {rest rest' : List (Step H)} (h : SameRequest r s s')
      (hrest : SameRequests (r.step s).2 rest rest') : SameRequests r (s :: rest) (s' :: rest')

theorem SameRequest.step_eq {s s' : Step H} (h : SameRequest r s s') : r.step s = r.step s' := by
  cases h with
  | same => rfl
  | render h => rw [step, step, render_eq h]
  | renderString source h => rw [step, step, renderString_eq h]

theorem SameRequests.session_eq {steps steps' : List (Step H)} (h : SameRequests r steps steps') :
    r.session steps = r.session steps' := by
  induction h with
  | nil => rfl
  | cons h _ ih => rw [session_cons, session_cons, ← h.step_eq, ih]

/-- What a context has under the keys that a rendering sets itself makes no difference. Contexts
that differ in nothing but the path and, if there is a translator, the locale are rendered alike
with every registered template, and contexts that differ in nothing but the locale with every
source: one text or one error, and one renderer after it. So a whole session has the same answers
and ends in the same renderer, whatever its callers put there. -/
theorem reserved_keys (r : Renderer H) :
    (∀ path c c', DifferAt (r.reserved (some path)) c c' → r.render path c = r.render path c') ∧
    (∀ source c c', DifferAt (r.reserved none) c c' →
      r.renderString source c = r.renderString source c') ∧
    ∀ steps steps', SameRequests r steps steps' → r.session steps = r.session steps' :=
  ⟨fun _ _ _ h => render_eq h, fun source _ _ h => renderString_eq h source,
    fun _ _ h => h.session_eq⟩

/-- Callers that pass a path and a locale of their own, against callers that pass nothing. -/
theorem reserved_keys_spoofed :
    let translator := some (Catalogue.translator ⟨"en", []⟩)
    let r : Renderer Builtin := { new [] [] .v4 with settings := { translator } }
    let page := "\x7b\x7btemplate\x7d\x7d in \x7b\x7blocale_name\x7d\x7d"
    let locale : Table Value := [(localeKey, .string "xx")]
    let both : Table Value := [(localeKey, .string "xx"), (templateKey, .string "other")]
    (DifferAt (r.reserved (some "page")) both [] ∧ DifferAt (r.reserved none) locale []) ∧
      r.render "page" both = r.render "page" [] ∧
      r.renderString page locale = r.renderString page [] ∧
      r.session [.add [("page", page)], .render "page" both] =
        r.session [.add [("page", page)], .render "page" []] := by
  intro translator r page locale both
  have hlocale : DifferAt (r.reserved none) locale [] := by
    refine ⟨by decide, .nil, ?_⟩
    intro key hkey
    have hne : localeKey ≠ key := fun heq => hkey (heq ▸ List.mem_singleton_self _)
    exact if_neg hne
  have hboth : DifferAt (r.reserved (some "page")) both [] := by
    refine ⟨by decide, .nil, ?_⟩
    intro key hkey
    have hnot : key ∉ [templateKey, localeKey] := hkey
    rw [List.mem_pair, not_or] at hnot
    rw [Table.get?_cons, if_neg (Ne.symm hnot.2), Table.get?_cons, if_neg (Ne.symm hnot.1)]
  obtain ⟨hrender, hrenderString, hsession⟩ := reserved_keys r
  exact ⟨⟨hboth, hlocale⟩, hrender "page" both [] hboth, hrenderString page locale [] hlocale,
    hsession _ _ (.cons (.same _) (.cons (.render hboth) (.nil _)))⟩

end Renderer

end Storefront
