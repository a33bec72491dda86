import Storefront.Proofs.Builtin.Asset
import Storefront.Proofs.Text.Split

/-!
# Paths that name no host

A path that names no host cannot choose one either. It is put behind a base with exactly one slash
between them, whatever slashes the two have there, and the base is settled by the settings and the
name before the first colon of the path (`resolve_relative`). So where the base is empty the address
starts with a single slash, and it stays on the host of the page.
-/

namespace Storefront.Asset

open Json (Value)

variable {s : Settings} {text path base rest : List Char} {name url : String}

/-! ### Slashes -/

/-- `rest` is the text without the slashes at its front. -/
def StripsFront (text rest : List Char) : Prop :=
  (∃ n, text = List.replicate n '/' ++ rest) ∧ rest.head? ≠ some '/'

/-- `base` is the text without the slashes at its end. -/
def StripsEnd (text base : List Char) : Prop :=
  (∃ n, text = base ++ List.replicate n '/') ∧ base.getLast? ≠ some '/'

theorem stripsFront_dropSlashes (text : List Char) : StripsFront text (dropSlashes text) := by
  induction text with
  | nil => exact ⟨⟨0, rfl⟩, nofun⟩
  | cons c text ih =>
    by_cases hc : c = '/'
    · subst hc
      obtain ⟨⟨n, hn⟩, hhead⟩ := ih
      have hdrop : dropSlashes ('/' :: text) = dropSlashes text := rfl
      rw [hdrop]
      refine ⟨⟨n + 1, ?_⟩, hhead⟩
      rw [List.replicate_succ, List.cons_append, ← hn]
    · have hdrop : dropSlashes (c :: text) = c :: text :=
        List.dropWhile_cons_of_neg (by simpa using hc)
      rw [hdrop]
      exact ⟨⟨0, rfl⟩, fun h => hc (Option.some.inj h)⟩

theorem stripsEnd_dropEndSlashes (text : List Char) : StripsEnd text (dropEndSlashes text) := by
  obtain ⟨⟨n, hn⟩, hhead⟩ := stripsFront_dropSlashes text.reverse
  have hdrop : dropEndSlashes text = (dropSlashes text.reverse).reverse := rfl
  rw [hdrop]
  refine ⟨⟨n, ?_⟩, ?_⟩
  · calc
      text = text.reverse.reverse := text.reverse_reverse.symm
      _ = (List.replicate n '/' ++ dropSlashes text.reverse).reverse := congrArg List.reverse hn
      _ = (dropSlashes text.reverse).reverse ++ List.replicate n '/' := by
        rw [List.reverse_append, List.reverse_replicate]
  · rwa [List.getLast?_reverse]

theorem dropEndSlashes_eq_nil_iff : dropEndSlashes text = [] ↔ ∀ c ∈ text, c = '/' := by
  simp [dropEndSlashes, Text.dropEndWhile, List.dropWhile_eq_nil_iff]

/-! ### The name of a base -/

theorem splitName?_eq_some_iff {name : List Char} :
    splitName? path = some (name, rest) ↔ path = name ++ ':' :: rest ∧ ':' ∉ name := by
  unfold splitName?
  constructor
  · intro h
    split at h
    · next c rest' hdrop =>
      cases h
      exact ⟨Text.eq_append_of_dropWhile_ne hdrop, Text.not_mem_takeWhile_ne ':' path⟩
    · cases h
  · rintro ⟨rfl, hname⟩
    obtain ⟨htake, hdrop⟩ := Text.takeWhile_dropWhile_ne hname rest
    rw [hdrop, htake]

/-- The theme declares a base under a name, as a string. -/
def Declares (s : Settings) (name url : String) : Prop :=
  ∃ bases, s.theme.get? "cdn" = some (.object bases) ∧ Table.get? bases name = some (.string url)

theorem namedBase?_eq_some_iff :
    namedBase? s name = some base ↔
      ∃ url, Declares s name url ∧ base = dropEndSlashes url.toList := by
  constructor
  · intro h
    obtain ⟨bases, url, hbases, hurl, hbase⟩ := exists_of_namedBase? h
    exact ⟨url, ⟨bases, hbases, hurl⟩, hbase⟩
  · rintro ⟨url, ⟨bases, hbases, hurl⟩, rfl⟩
    unfold namedBase?
    rw [hbases]
    dsimp only [bind, Option.bind, Value.object?]
    rw [hurl]
    rfl

/-- Which base a path asks for, the one of a name or that of the site, and what goes behind it: a
name counts if it stands before the first colon and the theme declares it. -/
inductive Asks (s : Settings) (path : List Char) : Option String → List Char → Prop where
  | named {name url : String} {rest : List Char} (hpath : path = name.toList ++ ':' :: rest)
      (hfirst : ':' ∉ name.toList) (hname : Declares s name url) : Asks s path (some name) rest
  | site (hnone : ∀ (name : String) (rest : List Char), path = name.toList ++ ':' :: rest →
      ':' ∉ name.toList → ∀ url, ¬Declares s name url) : Asks s path none path

/-! ### The bases -/

/-- The version of the theme as a path shows it. -/
inductive HasVersion (s : Settings) : List Char → Prop where
  | text {v : String} (hv : s.site.get? "theme_version_id" = some (.string v)) (hne : v ≠ "") :
      HasVersion s v.toList
  | number {n : Json.Number} (hn : s.site.get? "theme_version_id" = some (.number n)) :
      HasVersion s n.text

/-- The base of a name, or that of the site: nothing without a network, else the network with the
version of the theme if there is one. -/
inductive IsBase (s : Settings) : Option String → List Char → Prop where
  | named {name url : String} {base : List Char} (hname : Declares s name url)
      (hbase : StripsEnd url.toList base) : IsBase s (some name) base
  | root (hurl : ∀ url, s.site.get? "cdn_url" = some (.string url) → ∀ c ∈ url.toList, c = '/') :
      IsBase s none []
  | network {url : String} {base : List Char} (hurl : s.site.get? "cdn_url" = some (.string url))
      (hbase : StripsEnd url.toList base) (hne : base ≠ []) (hversion : ∀ v, ¬HasVersion s v) :
      IsBase s none base
  | version {url : String} {base v : List Char}
      (hurl : s.site.get? "cdn_url" = some (.string url)) (hbase : StripsEnd url.toList base)
      (hne : base ≠ []) (hversion : HasVersion s v) :
      IsBase s none (base ++ "/stencil/".toList ++ v)

theorem version?_eq_some_iff {v : List Char} : version? s = some v ↔ HasVersion s v := by
  unfold version?
  constructor
  · intro h
    split at h
    · next v hv =>
      split at h
      · cases h
      · next hempty =>
        cases h
        exact .text hv fun heq => hempty (by rw [heq]; rfl)
    · next n hn =>
      cases h
      exact .number hn
    · cases h
  · rintro (⟨hv, hne⟩ | hn)
    · rw [hv]
      dsimp only
      rw [if_neg]
      rwa [String.isEmpty_iff]
    · rw [hn]

theorem network?_eq_some_iff :
    network? s = some base ↔ ∃ url, s.site.get? "cdn_url" = some (.string url) ∧
      base = dropEndSlashes url.toList ∧ base ≠ [] := by
  constructor
  · intro h
    unfold network? at h
    obtain ⟨value, hvalue, h⟩ := Option.bind_eq_some_iff.1 h
    obtain ⟨url, hurl, h⟩ := Option.bind_eq_some_iff.1 h
    cases value with
    | string text =>
      obtain rfl := Option.some.inj hurl
      dsimp only at h
      split at h
      · cases h
      · next hne =>
        cases h
        exact ⟨text, hvalue, rfl, by rwa [List.isEmpty_iff] at hne⟩
    | _ => cases hurl
  · rintro ⟨url, hurl, rfl, hne⟩
    exact network?_eq hurl hne

/-- The base that `resolve` takes for a name, or for none. -/
def baseOf (s : Settings) : Option String → List Char
  | some name => (namedBase? s name).getD []
  | none => siteBase s

theorem isBase_siteBase (s : Settings) : IsBase s none (siteBase s) := by
  unfold siteBase
  cases hnetwork : network? s with
  | none =>
    refine .root fun url hurl => ?_
    rw [← dropEndSlashes_eq_nil_iff]
    by_contra hne
    have hsome := network?_eq_some_iff.2 ⟨url, hurl, rfl, hne⟩
    rw [hnetwork] at hsome
    cases hsome
  | some base =>
    obtain ⟨url, hurl, rfl, hne⟩ := network?_eq_some_iff.1 hnetwork
    have hstrips := stripsEnd_dropEndSlashes url.toList
    dsimp only
    cases hversion : version? s with
    | none =>
      refine .network hurl hstrips hne fun v hv => ?_
      rw [← version?_eq_some_iff, hversion] at hv
      cases hv
    | some v => exact .version hurl hstrips hne (version?_eq_some_iff.1 hversion)

/-! ### What a path becomes -/

/-- What a path that names no host asks for, and what it becomes. -/
theorem exists_asks (h : ¬NamesHost path) : ∃ name? rest, Asks s path name? rest ∧
    IsBase s name? (baseOf s name?) ∧ resolve s path = under (baseOf s name?) rest := by
  rw [resolve, if_neg (mt isAbsolute_iff.1 h)]
  cases hnamed : named? s path with
  | some found =>
    obtain ⟨base, rest⟩ := found
    obtain ⟨⟨chars, rest'⟩, hsplit, h⟩ := Option.bind_eq_some_iff.1 hnamed
    obtain ⟨base', hbase, heq⟩ := Option.bind_eq_some_iff.1 h
    cases heq
    obtain ⟨hpath, hfirst⟩ := splitName?_eq_some_iff.1 hsplit
    obtain ⟨url, hname, rfl⟩ := namedBase?_eq_some_iff.1 hbase
    have hbaseOf : baseOf s (some (String.ofList chars)) = dropEndSlashes url.toList := by
      rw [baseOf, hbase, Option.getD_some]
    refine ⟨some (String.ofList chars), rest, .named ?_ ?_ hname, ?_, ?_⟩
    · rwa [String.toList_ofList]
    · rwa [String.toList_ofList]
    · rw [hbaseOf]
      exact .named hname (stripsEnd_dropEndSlashes url.toList)
    · rw [hbaseOf]
  | none =>
    refine ⟨none, path, .site fun name rest hpath hfirst url hname => ?_, isBase_siteBase s, rfl⟩
    have hsplit := splitName?_eq_some_iff.2 ⟨hpath, hfirst⟩
    have hbase := namedBase?_eq_some_iff.2 ⟨url, hname, rfl⟩
    have hsome : named? s path = some (dropEndSlashes url.toList, rest) := by
      unfold named?
      rw [hsplit]
      dsimp only [bind, Option.bind]
      rw [String.ofList_toList, hbase]
      rfl
    rw [hnamed] at hsome
    cases hsome

theorem not_namesHost_slash (h : rest.head? ≠ some '/') : ¬NamesHost ('/' :: rest) := by
  rw [← isAbsolute_iff]
  cases rest with
  | nil => decide
  | cons c rest =>
    have hc : '/' ≠ c := fun heq => h (by rw [← heq]; rfl)
    simp [isAbsolute, List.isPrefixOf, hc]

/-- A path that names no host becomes a base, one slash, and the rest of the path without slashes at
its front. The rest is what follows the first colon if the theme declares a base under the name
before it, and the whole path otherwise. The base is settled by the settings and that name alone;
and if it is empty, the address starts with a single slash and names no host. -/
theorem resolve_relative (s : Settings) :
    ∃ base : Option String → List Char, ∀ path, ¬NamesHost path →
      ∃ name? rest tail, Asks s path name? rest ∧ IsBase s name? (base name?) ∧
        StripsFront rest tail ∧ resolve s path = base name? ++ '/' :: tail ∧
        (base name? = [] → ¬NamesHost (resolve s path)) := by
  refine ⟨baseOf s, fun path h => ?_⟩
  obtain ⟨name?, rest, hasks, hbase, hresolve⟩ := exists_asks (s := s) h
  have hstrips := stripsFront_dropSlashes rest
  refine ⟨name?, rest, dropSlashes rest, hasks, hbase, hstrips, hresolve, fun hempty => ?_⟩
  rw [hresolve, hempty]
  exact not_namesHost_slash hstrips.2

/-- A base of slashes only, and a path that puts a host behind its name; the same path under a name
that the theme does not declare. -/
theorem resolve_relative_slashes :
    let s : Settings := {
      site := [("cdn_url", .string "https://b.example/"), ("theme_version_id", .ofInt 7)]
      theme := [("cdn", .object [("a", .string "//")])] }
    let path := "a://other.example/x".toList
    ¬NamesHost path ∧ resolve s path = "/other.example/x".toList ∧ ¬NamesHost (resolve s path) ∧
      resolve s "b://other.example".toList =
        "https://b.example/stencil/7/b://other.example".toList ∧
      ∃ base name? rest tail, Asks s path name? rest ∧ IsBase s name? base ∧
        StripsFront rest tail ∧ resolve s path = base ++ '/' :: tail := by
  intro s path
  have hpath : ¬NamesHost path := by decide
  obtain ⟨base, hbase⟩ := resolve_relative s
  obtain ⟨name?, rest, tail, hasks, hisBase, hstrips, heq, -⟩ := hbase path hpath
  exact ⟨hpath, by decide, by decide, by decide, _, name?, rest, tail, hasks, hisBase, hstrips, heq⟩

end Storefront.Asset
