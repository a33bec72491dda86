import Storefront.Proofs.Registry.Restore
import Storefront.Proofs.Session.Run

/-!
# The first registration wins

`reached` lists the entries that a session gets to, in order: an entry is left out only if an
earlier one of its own addition failed. What is registered under a path is made from the first of
them for that path of which a template can be made (`session_get?`); so it is never replaced or
removed, and a path without such an entry is the one case in which a rendering finds nothing
(`first_registration_wins`).
-/

namespace Storefront

/-- A text makes a template: an artifact by being restored, a source by being compiled. -/
def Dialect.Makes (d : Dialect) (text : String) (t : Template) : Prop :=
  d.restore text = .ok (some t) ∨ d.restore text = .ok none ∧ d.compile text = .ok t

namespace Registry

/-- The entries that an addition gets to: all of them up to the first that fails. -/
def reached (r : Registry H) : List (String × String) → List (String × String)
  | [] => []
  | (path, text) :: rest =>
    (path, text) :: match r.add path text with
      | .ok (_, r) => r.reached rest
      | .error _ => []

/-- The template that an entry makes for a path, if the entry is for that path. -/
def madeFor? (d : Dialect) (path : String) : String × String → Option Template
  | (q, text) => if q = path then (build d path text).toOption else none

/-- The template of the first entry for a path of which one can be made. -/
def firstMade? (d : Dialect) (path : String) (entries : List (String × String)) :
    Option Template :=
  entries.findSome? (madeFor? d path)

variable {d : Dialect} {r : Registry H} {path : String}

theorem build_eq_ok_iff (path : String) {text : String} {t : Template} :
    build d path text = .ok t ↔ d.Makes text t := by
  unfold build Dialect.Makes
  cases d.restore text with
  | error e =>
    constructor
    · intro h
      cases h
    · rintro (h | ⟨h, -⟩) <;> cases h
  | ok o =>
    cases o with
    | some t' =>
      constructor
      · intro h
        rw [show t' = t from Except.ok.inj h]
        exact .inl rfl
      · rintro (h | ⟨h, -⟩)
        · cases h
          rfl
        · cases h
    | none =>
      constructor
      · intro h
        cases hc : d.compile text with
        | error e =>
          rw [hc] at h
          cases h
        | ok t' =>
          rw [hc] at h
          exact .inr ⟨rfl, congrArg Except.ok (Except.ok.inj h)⟩
      · rintro (h | ⟨-, h⟩)
        · cases h
        · rw [h]
          rfl

theorem toOption_build_eq_some_iff {text : String} {t : Template} :
    (build d path text).toOption = some t ↔ d.Makes text t := by
  rw [← build_eq_ok_iff path]
  cases build d path text <;> simp [Except.toOption]

theorem madeFor?_eq_some_iff {q text : String} {t : Template} :
    madeFor? d path (q, text) = some t ↔ q = path ∧ d.Makes text t := by
  by_cases hq : q = path
  · rw [madeFor?, if_pos hq, toOption_build_eq_some_iff]
    exact ⟨fun h => ⟨hq, h⟩, And.right⟩
  · rw [madeFor?, if_neg hq]
    exact ⟨nofun, fun h => absurd h.1 hq⟩

theorem firstMade?_eq_some_iff {entries : List (String × String)} {t : Template} :
    firstMade? d path entries = some t ↔
      ∃ before text after, entries = before ++ (path, text) :: after ∧ d.Makes text t ∧
        ∀ earlier t', (path, earlier) ∈ before → ¬ d.Makes earlier t' := by
  unfold firstMade?
  rw [List.findSome?_eq_some_iff]
  constructor
  · rintro ⟨before, ⟨q, text⟩, after, rfl, hmade, hnone⟩
    obtain ⟨rfl, hmakes⟩ := madeFor?_eq_some_iff.1 hmade
    refine ⟨before, text, after, rfl, hmakes, ?_⟩
    intro earlier t' hmem h
    have hsome := madeFor?_eq_some_iff.2 ⟨Eq.refl q, h⟩
    rw [hnone _ hmem] at hsome
    cases hsome
  · rintro ⟨before, text, after, rfl, hmakes, hnone⟩
    refine ⟨before, (path, text), after, rfl, madeFor?_eq_some_iff.2 ⟨rfl, hmakes⟩, ?_⟩
    rintro ⟨q, earlier⟩ hmem
    rw [Option.eq_none_iff_forall_ne_some]
    intro t' hmade
    obtain ⟨rfl, h⟩ := madeFor?_eq_some_iff.1 hmade
    exact hnone earlier t' hmem h

theorem exists_firstMade?_iff {entries : List (String × String)} :
    (∃ t, firstMade? d path entries = some t) ↔
      ∃ text t, (path, text) ∈ entries ∧ d.Makes text t := by
  rw [← Option.isSome_iff_exists, firstMade?, List.findSome?_isSome_iff]
  constructor
  · rintro ⟨⟨q, text⟩, hmem, hsome⟩
    obtain ⟨t, hmade⟩ := Option.isSome_iff_exists.1 hsome
    obtain ⟨rfl, hmakes⟩ := madeFor?_eq_some_iff.1 hmade
    exact ⟨text, t, hmem, hmakes⟩
  · rintro ⟨text, t, hmem, hmakes⟩
    refine ⟨(path, text), hmem, ?_⟩
    rw [madeFor?_eq_some_iff.2 ⟨rfl, hmakes⟩]
    rfl

/-! ### One addition -/

theorem firstMade?_cons (d : Dialect) (path : String) (entry : String × String)
    (rest : List (String × String)) :
    firstMade? d path (entry :: rest) = (madeFor? d path entry).or (firstMade? d path rest) := by
  unfold firstMade?
  rw [List.findSome?_cons]
  cases madeFor? d path entry <;> rfl

theorem firstMade?_append (d : Dialect) (path : String) (first second : List (String × String)) :
    firstMade? d path (first ++ second) = (firstMade? d path first).or (firstMade? d path second) :=
  List.findSome?_append

theorem reached_cons_ok {q text : String} {b : Bool} {r' : Registry H}
    (h : r.add q text = .ok (b, r')) (rest : List (String × String)) :
    r.reached ((q, text) :: rest) = (q, text) :: r'.reached rest := by
  rw [reached, h]

theorem reached_cons_error {q text : String} {e : Error} (h : r.add q text = .error e)
    (rest : List (String × String)) : r.reached ((q, text) :: rest) = [(q, text)] := by
  rw [reached, h]

/-- An addition keeps what is registered, and otherwise registers what the first entry that can be
made makes. -/
theorem addMany_get? (r : Registry H) (entries : List (String × String)) (path : String) :
    (r.addMany entries).2.templates.get? path =
      (r.templates.get? path).or (firstMade? r.dialect path (r.reached entries)) := by
  induction entries generalizing r with
  | nil => simp [reached, firstMade?]
  | cons entry rest ih =>
    obtain ⟨q, text⟩ := entry
    cases hl : r.isLoaded q with
    | true =>
      have hadd := add_loaded hl text
      rw [addMany_cons_ok hadd, reached_cons_ok hadd, ih, firstMade?_cons, madeFor?]
      split
      · subst q
        obtain ⟨t, ht⟩ := isLoaded_iff.1 hl
        rw [ht, Option.some_or, Option.some_or]
      · rw [Option.none_or]
    | false =>
      have hnone := isLoaded_eq_false_iff.1 hl
      have hadd := add_unloaded hl text
      cases hb : build r.dialect q text with
      | error e =>
        rw [hb] at hadd
        rw [addMany_cons_error hadd, reached_cons_error hadd, firstMade?_cons, madeFor?]
        split
        · subst q
          rw [hb, hnone]
          rfl
        · exact Option.or_none.symm
      | ok t =>
        rw [hb] at hadd
        have hget : (r.put q t).templates.get? path =
            if q = path then some t else r.templates.get? path := Table.get?_insert ..
        rw [addMany_cons_ok hadd, reached_cons_ok hadd, ih, firstMade?_cons, madeFor?, hget]
        split
        · subst q
          rw [hb, hnone]
          rfl
        · rw [Option.none_or]
          rfl

theorem addMany_skip (h : r.isLoaded path) (before : List (String × String)) (text : String)
    (after : List (String × String)) :
    r.addMany (before ++ (path, text) :: after) = r.addMany (before ++ after) := by
  induction before generalizing r with
  | nil => exact addMany_cons_ok (add_loaded h text) after
  | cons head before ih =>
    obtain ⟨q, other⟩ := head
    rw [List.cons_append, List.cons_append]
    cases hadd : r.add q other with
    | error e => rw [addMany_cons_error hadd, addMany_cons_error hadd]
    | ok result =>
      obtain ⟨b, r'⟩ := result
      rw [addMany_cons_ok hadd, addMany_cons_ok hadd]
      refine ih ?_
      obtain ⟨t, ht⟩ := isLoaded_iff.1 h
      have hget := addMany_get? r [(q, other)] path
      rw [addMany_cons_ok hadd, addMany_nil, ht, Option.some_or] at hget
      exact isLoaded_iff.2 ⟨t, hget⟩

theorem mem_reached_iff {entries : List (String × String)} {entry : String × String} :
    entry ∈ r.reached entries ↔
      ∃ before after, entries = before ++ entry :: after ∧ (r.addMany before).1 = .ok () := by
  induction entries generalizing r with
  | nil => simp [reached]
  | cons head rest ih =>
    obtain ⟨q, text⟩ := head
    cases hadd : r.add q text with
    | error e =>
      rw [reached_cons_error hadd, List.mem_singleton]
      constructor
      · rintro rfl
        exact ⟨[], rest, rfl, rfl⟩
      · rintro ⟨before, after, heq, hok⟩
        cases before with
        | nil => exact (List.cons.inj heq).1.symm
        | cons _ before =>
          obtain ⟨rfl, -⟩ := List.cons.inj heq
          rw [addMany_cons_error hadd] at hok
          cases hok
    | ok result =>
      obtain ⟨b, r'⟩ := result
      rw [reached_cons_ok hadd, List.mem_cons, ih]
      constructor
      · rintro (rfl | ⟨before, after, rfl, hok⟩)
        · exact ⟨[], rest, rfl, rfl⟩
        · refine ⟨(q, text) :: before, after, rfl, ?_⟩
          rw [addMany_cons_ok hadd, hok]
      · rintro ⟨before, after, heq, hok⟩
        cases before with
        | nil => exact .inl (List.cons.inj heq).1.symm
        | cons _ before =>
          obtain ⟨rfl, rfl⟩ := List.cons.inj heq
          rw [addMany_cons_ok hadd] at hok
          exact .inr ⟨before, after, rfl, hok⟩

end Registry

namespace Renderer

open Json (Value)

variable {H : Type} [Registrable H] {r : Renderer H} {path : String}

/-- The entries that a step gets to. -/
def reachedAt (r : Renderer H) : Step H → List (String × String)
  | .add entries => r.registry.reached entries
  | _ => []

/-- The entries that a session gets to. -/
def reached (r : Renderer H) : List (Step H) → List (String × String)
  | [] => []
  | s :: rest => r.reachedAt s ++ (r.step s).2.reached rest

theorem step_get? (r : Renderer H) (s : Step H) (path : String) :
    (r.step s).2.registry.templates.get? path =
      (r.registry.templates.get? path).or
        (Registry.firstMade? r.registry.dialect path (r.reachedAt s)) := by
  rw [step_templates]
  cases s with
  | add entries => exact Registry.addMany_get? r.registry entries path
  | _ => exact Option.or_none.symm

omit [Registrable H] in
theorem mem_reachedAt_iff {s : Step H} {entry : String × String} :
    entry ∈ r.reachedAt s ↔ ∃ before after, s = .add (before ++ entry :: after) ∧
      (r.registry.addMany before).1 = .ok () := by
  cases s with
  | add entries => simp only [reachedAt, Registry.mem_reached_iff, Step.add.injEq]
  | _ => simp [reachedAt]

/-- What is registered after a session: what was registered before it, or else what the first entry
makes that the session gets to and that can be made. -/
theorem session_get? (r : Renderer H) (steps : List (Step H)) (path : String) :
    (r.session steps).2.registry.templates.get? path =
      (r.registry.templates.get? path).or
        (Registry.firstMade? r.registry.dialect path (r.reached steps)) := by
  induction steps generalizing r with
  | nil => exact Option.or_none.symm
  | cons s rest ih =>
    rw [session_cons, ih, step_dialect, step_get?, reached, Registry.firstMade?_append,
      Option.or_assoc]

theorem mem_reached_iff {steps : List (Step H)} {entry : String × String} :
    entry ∈ r.reached steps ↔
      ∃ first before after second, steps = first ++ .add (before ++ entry :: after) :: second ∧
        ((r.session first).2.registry.addMany before).1 = .ok () := by
  induction steps generalizing r with
  | nil => simp [reached]
  | cons s rest ih =>
    rw [reached, List.mem_append, ih, mem_reachedAt_iff]
    constructor
    · rintro (⟨before, after, rfl, hok⟩ | ⟨first, before, after, second, rfl, hok⟩)
      · exact ⟨[], before, after, rest, rfl, hok⟩
      · exact ⟨s :: first, before, after, second, rfl, hok⟩
    · rintro ⟨first, before, after, second, heq, hok⟩
      cases first with
      | nil =>
        obtain ⟨rfl, rfl⟩ := List.cons.inj heq
        exact .inl ⟨before, after, rfl, hok⟩
      | cons _ first =>
        obtain ⟨rfl, rfl⟩ := List.cons.inj heq
        exact .inr ⟨first, before, after, second, rfl, hok⟩

theorem session_get?_of_get? {t : Template} (h : r.registry.templates.get? path = some t)
    (steps : List (Step H)) : (r.session steps).2.registry.templates.get? path = some t := by
  rw [session_get?, h, Option.some_or]

/-! ### Renderings -/

theorem applyFrom_ne_notFound (chain : DecoratorChain) (index : Nat) (text q : String) :
    chain.applyFrom index text ≠ .error (.notFound q) := by
  induction chain generalizing index text with
  | nil => exact nofun
  | cons d rest ih =>
    rw [DecoratorChain.applyFrom]
    split
    · exact ih _ _
    · exact nofun

theorem render_ne_notFound (h : r.registry.isLoaded path) (context : Table Value) (q : String) :
    (r.render path context).1 ≠ .error (.failed (.notFound q)) := by
  rw [render_loaded h]
  dsimp only
  cases (r.registry.execute r.bind path (r.augment (some path) context) r.store).1 with
  | ok text =>
    intro he
    obtain ⟨e, happly, hfailed⟩ := mapError_eq_error_iff.1 he
    cases hfailed
    exact applyFrom_ne_notFound _ _ _ q happly
  | error e =>
    cases e <;> exact nofun

theorem render_eq_notFound_iff {context : Table Value} {q : String} :
    (r.render path context).1 = .error (.failed (.notFound q)) ↔
      q = path ∧ r.registry.isLoaded path = false := by
  cases h : r.registry.isLoaded path with
  | true => exact ⟨fun he => absurd he (render_ne_notFound h context q), fun he => nomatch he.2⟩
  | false =>
    rw [render_unloaded h]
    constructor
    · intro he
      obtain rfl : path = q := Error.notFound.inj (Halt.failed.inj (Except.error.inj he))
      exact ⟨rfl, rfl⟩
    · rintro ⟨rfl, -⟩
      rfl

/-! ### From a new renderer on -/

theorem new_session_get? (site theme : Table Value) (d : Dialect) (depth : Nat)
    (steps : List (Step H)) (path : String) :
    ((new site theme d depth).session steps).2.registry.templates.get? path =
      Registry.firstMade? d path ((new site theme d depth).reached steps) := by
  rw [session_get?, new_templates, new_dialect]
  rfl

/-- Over a whole session, the first entry for a path that is reached and of which a template can be
made decides what is registered there: nothing replaces or removes it, later entries for the path
are skipped, and a rendering finds nothing exactly if there is no such entry. -/
theorem first_registration_wins (site theme : Table Value) (d : Dialect) (depth : Nat)
    (steps : List (Step H)) (path : String) :
    let start := new site theme d depth
    let r := (start.session steps).2
    (r.registry.isLoaded path ↔
      ∃ first before text after second t,
        steps = first ++ .add (before ++ (path, text) :: after) :: second ∧
          ((start.session first).2.registry.addMany before).1 = .ok () ∧ d.Makes text t) ∧
    (∀ t, r.registry.templates.get? path = some t ↔
      ∃ before text after, start.reached steps = before ++ (path, text) :: after ∧
        d.Makes text t ∧ ∀ earlier t', (path, earlier) ∈ before → ¬ d.Makes earlier t') ∧
    (∀ t later, r.registry.templates.get? path = some t →
      (r.session later).2.registry.templates.get? path = some t) ∧
    (r.registry.isLoaded path → ∀ before text after,
      r.step (.add (before ++ (path, text) :: after)) = r.step (.add (before ++ after))) ∧
    ∀ context q, (r.render path context).1 = .error (.failed (.notFound q)) ↔
      q = path ∧ r.registry.isLoaded path = false := by
  intro start r
  have hget : r.registry.templates.get? path = Registry.firstMade? d path (start.reached steps) :=
    new_session_get? site theme d depth steps path
  refine ⟨?_, ?_, ?_, ?_, ?_⟩
  · rw [Registry.isLoaded_iff, hget, Registry.exists_firstMade?_iff]
    constructor
    · rintro ⟨text, t, hmem, hmakes⟩
      obtain ⟨first, before, after, second, heq, hok⟩ := mem_reached_iff.1 hmem
      exact ⟨first, before, text, after, second, t, heq, hok, hmakes⟩
    · rintro ⟨first, before, text, after, second, t, heq, hok, hmakes⟩
      exact ⟨text, t, mem_reached_iff.2 ⟨first, before, after, second, heq, hok⟩, hmakes⟩
  · intro t
    rw [hget, Registry.firstMade?_eq_some_iff]
  · exact fun t later ht => session_get?_of_get? ht later
  · intro hl before text after
    rw [step, step, Registry.addMany_skip hl]
  · exact fun context q => render_eq_notFound_iff

/-- A second text for a path, even a malformed one, is skipped. -/
theorem first_registration_wins_malformed :
    let r : Renderer Builtin :=
      ((new [] [] .v4).session [.add [("page", "Hello"), ("page", "\x7b\x7b#if")]]).2
    r.registry.isLoaded "page" ∧ r.step (.add [("page", "\x7b\x7b")]) = r.step (.add []) := by
  have h := first_registration_wins (H := Builtin) [] [] .v4 usualDepth
    [.add [("page", "Hello"), ("page", "\x7b\x7b#if")]] "page"
  have hsource : Dialect.v4.restore "Hello" = .ok none := Dialect.restore_raw .v4 (by decide)
  obtain ⟨t, ht⟩ : ∃ t, Dialect.v4.compile "Hello" = .ok t := ⟨_, rfl⟩
  have hl := h.1.2 ⟨[], [], "Hello", _, [], t, rfl, rfl, .inr ⟨hsource, ht⟩⟩
  exact ⟨hl, h.2.2.2.1 hl [] "\x7b\x7b" []⟩

end Renderer

end Storefront
