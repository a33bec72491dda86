import Storefront.Proofs.Registry.Order
import Storefront.Proofs.Registry.Preprocessed
import Storefront.Proofs.Table

/-!
# Preprocessing against adding

Sources can be added as they are, or preprocessed and then added as artifacts. Of several entries
for one path the first counts when they are added, and the rest are not looked at; when they are
preprocessed every entry has to compile, and the last one counts. So the two ways agree unless an
entry repeats a path with another source, and `preprocess_agrees` tells them apart in that case.
-/

namespace Storefront

open Artifact (isPrecompiled)
open Table (mem_of_get? exists_get?_of_mem)

/-- The template of a source that compiles. -/
def Dialect.compiled? (d : Dialect) (source : String) : Option Template :=
  (d.compile source).toOption

/-- All sources in `before` compile, and the next one, for `path`, does not. -/
structure Dialect.FailsAfter (d : Dialect) (before : List (String × String)) (path text : String)
    (e : Error) : Prop where
  compiles : ∀ entry ∈ before, ∃ t, d.compile entry.2 = .ok t
  fails : ∃ c, d.compile text = .error c ∧ e = .compile (some path) c.message

namespace Registry

/-- Preprocessing entries fails as adding them fails, and what it makes of them is registered as
they are. -/
structure Agrees {H : Type} (r : Registry H) (entries : List (String × String)) : Prop where
  failure : ∀ e, r.preprocess entries = .error e ↔ (r.addMany entries).1 = .error e
  templates : ∀ artifacts, r.preprocess entries = .ok artifacts →
    (r.addMany artifacts).1 = .ok () ∧ ∀ path,
      (r.addMany artifacts).2.templates.get? path = (r.addMany entries).2.templates.get? path

variable {H : Type} {d : Dialect} {r : Registry H} {path text : String} {e : Error}
variable {before after entries artifacts : List (String × String)}

/-! ### Entries of a path -/

theorem get?_reverse
    (hone : ∀ path text text', (path, text) ∈ entries → (path, text') ∈ entries → text = text')
    (path : String) : Table.get? entries.reverse path = Table.get? entries path := by
  cases hfirst : Table.get? entries path with
  | none =>
    rw [Option.eq_none_iff_forall_ne_some]
    intro text htext
    obtain ⟨first, hsome⟩ := exists_get?_of_mem (List.mem_reverse.1 (mem_of_get? htext))
    rw [hfirst] at hsome
    cases hsome
  | some text =>
    have hmem := mem_of_get? hfirst
    obtain ⟨last, hsome⟩ := exists_get?_of_mem (List.mem_reverse.2 hmem)
    rw [hsome, hone path last text (List.mem_reverse.1 (mem_of_get? hsome)) hmem]

/-! ### Sources -/

theorem toOption_build_raw (hraw : isPrecompiled text.toList = false) :
    (build d path text).toOption = d.compiled? text := by
  rw [build, d.restore_raw hraw, Dialect.compiled?]
  cases d.compile text <;> rfl

theorem rejects_raw_iff (hraw : isPrecompiled text.toList = false) :
    d.Rejects path text e ↔
      ∃ c, d.compile text = .error c ∧ e = .compile (some path) c.message := by
  rw [← build_eq_error_iff, build, d.restore_raw hraw]
  cases d.compile text with
  | ok t =>
    constructor
    · intro h
      cases h
    · rintro ⟨c, hc, -⟩
      cases hc
  | error c =>
    constructor
    · intro h
      exact ⟨c, rfl, (Except.error.inj h).symm⟩
    · rintro ⟨_, hc, rfl⟩
      cases hc
      rfl

theorem prepare_raw (hraw : isPrecompiled text.toList = false) :
    d.prepare text = d.precompile text := by
  rw [Dialect.prepare, hraw]
  rfl

theorem refusal?_raw (hraw : isPrecompiled text.toList = false) :
    refusal? d (path, text) = some e ↔
      ∃ c, d.compile text = .error c ∧ e = .compile (some path) c.message := by
  rw [refusal?, prepare_raw hraw]
  cases h : d.compile text with
  | ok t =>
    rw [Dialect.precompile_of_compile h]
    constructor
    · intro h
      cases h
    · rintro ⟨c, hc, -⟩
      cases hc
  | error c =>
    rw [Dialect.precompile_of_error h]
    constructor
    · intro h
      exact ⟨c, rfl, (Option.some.inj h).symm⟩
    · rintro ⟨_, hc, rfl⟩
      cases hc
      rfl

theorem refusal?_raw_eq_none_iff (hraw : isPrecompiled text.toList = false) :
    refusal? d (path, text) = none ↔ ∃ t, d.compile text = .ok t := by
  rw [refusal?, prepare_raw hraw]
  cases h : d.compile text with
  | ok t =>
    rw [Dialect.precompile_of_compile h]
    exact ⟨fun _ => ⟨t, rfl⟩, fun _ => rfl⟩
  | error c =>
    rw [Dialect.precompile_of_error h]
    constructor
    · intro h
      cases h
    · rintro ⟨t, ht⟩
      cases ht

/-! ### Adding to an empty registry -/

theorem get?_addMany_empty (hok : ((empty H d).addMany entries).1 = .ok ()) (path : String) :
    ((empty H d).addMany entries).2.templates.get? path =
      (Table.get? entries path).bind fun text => (build d path text).toOption := by
  have hbuilt := addMany_eq_ok_iff.1 hok path
  have hempty : (empty H d).templates.get? path = none := rfl
  rw [addMany_get?, reached_of_ok hok, hempty, Option.none_or]
  show firstMade? d path entries = _
  clear hok hempty
  induction entries with
  | nil => rfl
  | cons entry rest ih =>
    obtain ⟨q, other⟩ := entry
    rw [firstMade?_cons, madeFor?, Table.get?_cons]
    by_cases hq : q = path
    · subst hq
      obtain ⟨t, ht⟩ := hbuilt other (if_pos rfl) rfl
      have ht : build d q other = .ok t := ht
      simp [ht, Except.toOption]
    · rw [if_neg hq, if_neg hq, Option.none_or]
      refine ih ?_
      intro text hget
      exact hbuilt text ((if_neg hq).trans hget)

theorem isLoaded_addMany_empty (hok : ((empty H d).addMany entries).1 = .ok ())
    (hmem : (path, text) ∈ entries) : ((empty H d).addMany entries).2.isLoaded path := by
  obtain ⟨first, hfirst⟩ := exists_get?_of_mem hmem
  obtain ⟨t, ht⟩ := addMany_eq_ok_iff.1 hok path first hfirst rfl
  have ht : build d path first = .ok t := ht
  refine isLoaded_iff.2 ⟨t, ?_⟩
  rw [get?_addMany_empty hok, hfirst]
  simp [ht, Except.toOption]

section
variable (hraw : ∀ entry ∈ entries, isPrecompiled entry.2.toList = false)
include hraw

theorem addMany_compiled (h : ∀ entry ∈ entries, ∃ t, d.compile entry.2 = .ok t) :
    ((empty H d).addMany entries).1 = .ok () := by
  refine addMany_eq_ok_iff.2 ?_
  intro path text hget _
  have hmem := mem_of_get? hget
  obtain ⟨t, ht⟩ := h _ hmem
  exact ⟨t, build_of_compile path (hraw _ hmem) ht⟩

/-! ### Failures -/

theorem preprocess_raw_eq_error_iff :
    (empty H d).preprocess entries = .error e ↔
      ∃ before path text after, entries = before ++ (path, text) :: after ∧
        d.FailsAfter before path text e := by
  have hrefused : ∀ path text, (path, text) ∈ entries →
      (refusal? d (path, text) = some e ↔
        ∃ c, d.compile text = .error c ∧ e = .compile (some path) c.message) :=
    fun _ _ hmem => refusal?_raw (hraw _ hmem)
  have hkept : ∀ entry ∈ entries,
      (refusal? d entry = none ↔ ∃ t, d.compile entry.2 = .ok t) :=
    fun _ hmem => refusal?_raw_eq_none_iff (hraw _ hmem)
  rw [preprocess_eq_error_iff, List.findSome?_eq_some_iff]
  constructor
  · rintro ⟨before, ⟨path, text⟩, after, rfl, hfails, hbefore⟩
    refine ⟨before, path, text, after, rfl, ?_, (hrefused path text (by simp)).1 hfails⟩
    intro entry hmem
    exact (hkept entry (by simp [hmem])).1 (hbefore entry hmem)
  · rintro ⟨before, path, text, after, rfl, hbefore, hfails⟩
    refine ⟨before, (path, text), after, rfl, (hrefused path text (by simp)).2 hfails, ?_⟩
    intro entry hmem
    exact (hkept entry (by simp [hmem])).2 (hbefore entry hmem)

theorem compiles_of_preprocess (h : (empty H d).preprocess entries = .ok artifacts) :
    ∀ entry ∈ entries, ∃ t, d.compile entry.2 = .ok t := by
  rintro ⟨path, text⟩ hmem
  exact (refusal?_raw_eq_none_iff (hraw _ hmem)).1 ((preprocess_eq_ok_iff.1 h).1 _ hmem)

/-- The first source that does not compile makes the addition fail, unless it repeats a path. -/
theorem stopsAt_of_failsAfter (hsplit : entries = before ++ (path, text) :: after)
    (h : d.FailsAfter before path text e) (hnew : path ∉ before.map Prod.fst) :
    (empty H d).StopsAt before path text e := by
  subst hsplit
  have hok : ((empty H d).addMany before).1 = .ok () :=
    addMany_compiled (fun entry hmem => hraw entry (by simp [hmem])) h.compiles
  refine ⟨hok, isLoaded_addMany rfl ?_, (rejects_raw_iff (hraw (path, text) (by simp))).2 h.fails⟩
  rintro entry hmem rfl
  exact hnew (List.mem_map_of_mem hmem)

theorem new_of_failure (hsame : ∀ e, (empty H d).preprocess entries = .error e ↔
      ((empty H d).addMany entries).1 = .error e)
    (hsplit : entries = before ++ (path, text) :: after) (h : d.FailsAfter before path text e) :
    path ∉ before.map Prod.fst := by
  intro hrepeat
  obtain ⟨⟨q, other⟩, hother, hq⟩ := List.mem_map.1 hrepeat
  obtain rfl : q = path := hq
  have hfails : ((empty H d).addMany entries).1 = .error e :=
    (hsame e).1 ((preprocess_raw_eq_error_iff hraw).2 ⟨before, q, text, after, hsplit, h⟩)
  obtain ⟨before', path', text', after', hsplit', hstops⟩ := exists_stopsAt hfails
  obtain ⟨c, -, he⟩ := h.fails
  -- the error names one path, so the addition stops at an entry of the repeated path
  have hpath := hstops.rejects.path_eq
  rw [he] at hpath
  obtain rfl : q = path' := Option.some.inj hpath
  have hnot : ∀ source, (q, source) ∉ before' := by
    intro source hmem
    have hloaded := isLoaded_addMany_empty hstops.reached hmem
    rw [hstops.unloaded] at hloaded
    cases hloaded
  rw [hsplit] at hsplit'
  rcases List.append_eq_append_iff.1 hsplit' with ⟨more, hbefore, -⟩ | ⟨more, hbefore, hafter⟩
  · exact hnot other (hbefore ▸ List.mem_append_left more hother)
  · cases more with
    | nil => exact hnot other (by simpa [hbefore] using hother)
    | cons entry more =>
      obtain ⟨rfl, -⟩ := List.cons.inj hafter
      obtain ⟨t, ht⟩ := h.compiles (q, text') (by simp [hbefore])
      have hraw' := hraw (q, text') (by simp [hsplit, hbefore])
      obtain ⟨c', hc, -⟩ := (rejects_raw_iff (d := d) hraw').1 hstops.rejects
      rw [ht] at hc
      cases hc

/-- Preprocessing fails as adding fails exactly if the first source that does not compile, if there
is one, is the first entry of its path. -/
theorem failure_iff :
    (∀ e, (empty H d).preprocess entries = .error e ↔ ((empty H d).addMany entries).1 = .error e) ↔
      ∀ before path text after e, entries = before ++ (path, text) :: after →
        d.FailsAfter before path text e → path ∉ before.map Prod.fst := by
  constructor
  · intro hsame before path text after e hsplit h
    exact new_of_failure hraw hsame hsplit h
  · intro hnew
    have hforward : ∀ e, (empty H d).preprocess entries = .error e →
        ((empty H d).addMany entries).1 = .error e := by
      intro e hfails
      obtain ⟨before, path, text, after, rfl, h⟩ := (preprocess_raw_eq_error_iff hraw).1 hfails
      have hstops := stopsAt_of_failsAfter (H := H) hraw rfl h (hnew before path text after e rfl h)
      rw [hstops.addMany_eq after]
    intro e
    refine ⟨hforward e, ?_⟩
    intro hfails
    cases hp : (empty H d).preprocess entries with
    | error e' =>
      have hfails' := hforward e' hp
      rw [hfails] at hfails'
      cases hfails'
      rfl
    | ok artifacts =>
      have hok := addMany_compiled (H := H) hraw (compiles_of_preprocess hraw hp)
      rw [hfails] at hok
      cases hok

/-! ### What is registered -/

theorem get?_preprocess (h : (empty H d).preprocess entries = .ok artifacts) (path : String) :
    Table.get? artifacts path =
      (Table.get? entries.reverse path).bind fun text => (d.precompile text).toOption := by
  obtain ⟨hkept, rfl⟩ := preprocess_eq_ok_iff.1 h
  have hcompiles := compiles_of_preprocess hraw h
  rw [get?_artifacts]
  have hraw : ∀ entry ∈ entries.reverse, isPrecompiled entry.2.toList = false :=
    fun entry hmem => hraw entry (List.mem_reverse.1 hmem)
  have hcompiles : ∀ entry ∈ entries.reverse, ∃ t, d.compile entry.2 = .ok t :=
    fun entry hmem => hcompiles entry (List.mem_reverse.1 hmem)
  show entries.reverse.findSome? (preparedFor? d path) = _
  generalize entries.reverse = sources at hraw hcompiles ⊢
  clear h hkept
  induction sources with
  | nil => rfl
  | cons entry rest ih =>
    obtain ⟨q, other⟩ := entry
    have ih := ih (fun entry hmem => hraw entry (List.mem_cons_of_mem _ hmem))
      (fun entry hmem => hcompiles entry (List.mem_cons_of_mem _ hmem))
    rw [List.findSome?_cons, preparedFor?, Table.get?_cons, prepare_raw (hraw _ List.mem_cons_self)]
    by_cases hq : q = path
    · obtain ⟨t, ht⟩ := hcompiles _ List.mem_cons_self
      simp [hq, Dialect.precompile_of_compile ht, Except.toOption]
    · simp [hq, ih]

theorem addMany_preprocess (h : (empty H d).preprocess entries = .ok artifacts) :
    ((empty H d).addMany artifacts).1 = .ok () ∧
      ∀ path, ((empty H d).addMany artifacts).2.templates.get? path =
        (Table.get? entries.reverse path).bind d.compiled? := by
  have hcompiles := compiles_of_preprocess hraw h
  have hget := get?_preprocess hraw h
  have hok : ((empty H d).addMany artifacts).1 = .ok () := by
    refine addMany_eq_ok_iff.2 ?_
    intro path artifact hartifact _
    rw [hget] at hartifact
    obtain ⟨text, htext, hprecompile⟩ := Option.bind_eq_some_iff.1 hartifact
    obtain ⟨t, ht⟩ := hcompiles (path, text) (List.mem_reverse.1 (mem_of_get? htext))
    rw [Dialect.precompile_of_compile ht] at hprecompile
    obtain rfl := Option.some.inj hprecompile
    exact ⟨t, build_of_restore path (Dialect.restore_ofSource ht)⟩
  refine ⟨hok, ?_⟩
  intro path
  rw [get?_addMany_empty hok, hget]
  cases htext : Table.get? entries.reverse path with
  | none => rfl
  | some text =>
    obtain ⟨t, ht⟩ := hcompiles (path, text) (List.mem_reverse.1 (mem_of_get? htext))
    have hbuild : build d path (Artifact.ofSource d.compiler text).toJson = .ok t :=
      build_of_restore path (Dialect.restore_ofSource ht)
    simp [Dialect.precompile_of_compile ht, hbuild, Dialect.compiled?, ht, Except.toOption]

theorem addMany_of_preprocess (h : (empty H d).preprocess entries = .ok artifacts) :
    ((empty H d).addMany entries).1 = .ok () ∧
      ∀ path, ((empty H d).addMany entries).2.templates.get? path =
        (Table.get? entries path).bind d.compiled? := by
  have hok := addMany_compiled (H := H) hraw (compiles_of_preprocess hraw h)
  refine ⟨hok, ?_⟩
  intro path
  rw [get?_addMany_empty hok]
  cases htext : Table.get? entries path with
  | none => rfl
  | some text => exact toOption_build_raw (hraw _ (mem_of_get? htext))

theorem agrees_of_forall_eq
    (hone : ∀ path text text', (path, text) ∈ entries → (path, text') ∈ entries → text = text') :
    Agrees (empty H d) entries := by
  constructor
  · refine (failure_iff hraw).2 ?_
    rintro before path text after e rfl h hrepeat
    obtain ⟨⟨q, other⟩, hother, rfl⟩ := List.mem_map.1 hrepeat
    obtain ⟨t, ht⟩ := h.compiles _ hother
    obtain ⟨c, hc, -⟩ := h.fails
    have hsame : other = text := hone q other text (by simp [hother]) (by simp)
    rw [← hsame, ht] at hc
    cases hc
  · intro artifacts h
    obtain ⟨hok, hlast⟩ := addMany_preprocess hraw h
    refine ⟨hok, ?_⟩
    intro path
    rw [hlast, (addMany_of_preprocess hraw h).2]
    rw [get?_reverse hone]

/-- Preprocessing a list of sources fails at the first that does not compile, with the error that
names it. It fails as adding the sources fails exactly if that source, if there is one, is the first
entry of its path. If it succeeds, then the sources can be added and so can what it makes of them:
the first registers under each path the template of the first source, the other that of the last.
So if all entries for a path have one source, preprocessing and adding agree. -/
theorem preprocess_agrees :
    (∀ e, (empty H d).preprocess entries = .error e ↔
      ∃ before path text after, entries = before ++ (path, text) :: after ∧
        d.FailsAfter before path text e) ∧
    ((∀ e, (empty H d).preprocess entries = .error e ↔ ((empty H d).addMany entries).1 = .error e) ↔
      ∀ before path text after e, entries = before ++ (path, text) :: after →
        d.FailsAfter before path text e → path ∉ before.map Prod.fst) ∧
    (∀ artifacts, (empty H d).preprocess entries = .ok artifacts →
      ((empty H d).addMany entries).1 = .ok () ∧ ((empty H d).addMany artifacts).1 = .ok () ∧
        ∀ path, ((empty H d).addMany entries).2.templates.get? path =
            (Table.get? entries path).bind d.compiled? ∧
          ((empty H d).addMany artifacts).2.templates.get? path =
            (Table.get? entries.reverse path).bind d.compiled?) ∧
    ((∀ path text text', (path, text) ∈ entries → (path, text') ∈ entries → text = text') →
      Agrees (empty H d) entries) := by
  refine ⟨fun e => preprocess_raw_eq_error_iff hraw, failure_iff hraw, ?_,
    agrees_of_forall_eq hraw⟩
  intro artifacts h
  obtain ⟨hok, hfirst⟩ := addMany_of_preprocess hraw h
  obtain ⟨hok', hlast⟩ := addMany_preprocess hraw h
  exact ⟨hok, hok', fun path => ⟨hfirst path, hlast path⟩⟩

end

/-- A path that is repeated with another source: adding keeps the first, preprocessing the last. -/
theorem preprocess_agrees_repeated :
    let entries := [("page", "one"), ("part", "plain"), ("page", "two")]
    ∃ artifacts, (empty Builtin .v4).preprocess entries = .ok artifacts ∧
      ((empty Builtin .v4).addMany entries).2.templates.get? "page" = Dialect.v4.compiled? "one" ∧
      ((empty Builtin .v4).addMany artifacts).2.templates.get? "page" =
        Dialect.v4.compiled? "two" := by
  intro entries
  have hraw : ∀ entry ∈ entries, isPrecompiled entry.2.toList = false := by decide
  obtain ⟨artifacts, h⟩ : ∃ artifacts,
      (empty Builtin .v4).preprocess entries = .ok artifacts := ⟨_, rfl⟩
  have htables := ((preprocess_agrees hraw).2.2.1 artifacts h).2.2 "page"
  exact ⟨artifacts, h, htables.1, htables.2⟩

/-- Preprocessing does not agree with adding when a path is repeated with another source. What it
makes registers another template, or it fails at a source that is not looked at when it is added. -/
theorem not_agrees_repeated :
    (∀ source ∈ ["one", "two", "\x7b\x7b"], isPrecompiled source.toList = false) ∧
      ¬Agrees (empty Builtin .v4) [("page", "one"), ("page", "two")] ∧
      ¬Agrees (empty Builtin .v4) [("page", "one"), ("page", "\x7b\x7b")] := by
  refine ⟨by decide, ?_, ?_⟩
  · intro h
    have hraw : ∀ entry ∈ [("page", "one"), ("page", "two")],
        isPrecompiled entry.2.toList = false := by decide
    obtain ⟨artifacts, hp⟩ : ∃ artifacts,
        (empty Builtin .v4).preprocess [("page", "one"), ("page", "two")] = .ok artifacts :=
      ⟨_, rfl⟩
    have htables := (h.templates artifacts hp).2 "page"
    rw [(addMany_preprocess hraw hp).2, (addMany_of_preprocess hraw hp).2] at htables
    have htexts : Dialect.v4.compiled? "two" = Dialect.v4.compiled? "one" := htables
    cases htexts
  · intro h
    obtain ⟨e, hp⟩ : ∃ e,
        (empty Builtin .v4).preprocess [("page", "one"), ("page", "\x7b\x7b")] = .error e :=
      ⟨_, rfl⟩
    have hadd := (h.failure e).1 hp
    cases hadd

end Registry

end Storefront
