import Storefront.Builtin.Asset
import Storefront.Proofs.Table

/-!
# Assets under absolute bases

An address that names its host is resolved to itself. Where the network of the site and every base
of its theme name their hosts (`HasAbsoluteBases`), the other paths become such addresses too: a
base stands in front of what `resolve` makes of them, and nothing that is put behind a base takes
its host away (`NamesHost.append`). So one round of resolving settles every path
(`resolve_settles`), also one that holds colons or slashes of its own.
-/

namespace Storefront.Asset

open Json (Value)

/-- What an address that names its host starts with. -/
def hostPrefixes : List (List Char) :=
  ["http://".toList, "https://".toList, "//".toList]

/-- The address names its host. -/
def NamesHost (address : List Char) : Prop :=
  ∃ p ∈ hostPrefixes, p <+: address

instance (address : List Char) : Decidable (NamesHost address) :=
  inferInstanceAs (Decidable (∃ p ∈ hostPrefixes, p <+: address))

theorem isAbsolute_iff {address : List Char} : isAbsolute address ↔ NamesHost address := by
  have hprefixes : hostPrefixes = [['h', 't', 't', 'p', ':', '/', '/'],
      ['h', 't', 't', 'p', 's', ':', '/', '/'], ['/', '/']] := by decide
  rw [NamesHost, hprefixes, isAbsolute]
  simp only [Bool.or_eq_true, List.isPrefixOf_iff_prefix, List.mem_cons, List.not_mem_nil, or_false,
    exists_eq_or_imp, exists_eq_left, or_assoc]

theorem NamesHost.append {base : List Char} (h : NamesHost base) (rest : List Char) :
    NamesHost (base ++ rest) := by
  obtain ⟨p, hp, hbase⟩ := h
  exact ⟨p, hp, hbase.trans (List.prefix_append base rest)⟩

theorem NamesHost.ne_nil {base : List Char} (h : NamesHost base) : base ≠ [] := by
  rintro rfl
  exact absurd h (by decide)

theorem NamesHost.under {base : List Char} (h : NamesHost base) (path : List Char) :
    NamesHost (under base path) :=
  h.append _

/-- The site has a network, and it and all bases of the theme name their hosts, whatever slashes
stand at their ends. -/
structure HasAbsoluteBases (s : Settings) : Prop where
  network : ∃ url, s.site.get? "cdn_url" = some (.string url) ∧
    NamesHost (dropEndSlashes url.toList)
  named : ∀ bases name base, s.theme.get? "cdn" = some (.object bases) →
    Table.get? bases name = some (.string base) → NamesHost (dropEndSlashes base.toList)

variable {s : Settings}

/-! ### The bases -/

theorem network?_eq {url : String} (hurl : s.site.get? "cdn_url" = some (.string url))
    (hne : dropEndSlashes url.toList ≠ []) : network? s = some (dropEndSlashes url.toList) := by
  have hempty : (dropEndSlashes url.toList).isEmpty = false := by
    rw [List.isEmpty_eq_false_iff]
    exact hne
  unfold network?
  rw [hurl]
  show (if (dropEndSlashes url.toList).isEmpty then none else some (dropEndSlashes url.toList)) = _
  rw [hempty]
  rfl

theorem exists_of_namedBase? {name : String} {base : List Char}
    (h : namedBase? s name = some base) :
    ∃ bases url, s.theme.get? "cdn" = some (.object bases) ∧
      Table.get? bases name = some (.string url) ∧ base = dropEndSlashes url.toList := by
  unfold namedBase? at h
  obtain ⟨declared, hdeclared, h⟩ := Option.bind_eq_some_iff.1 h
  obtain ⟨bases, hbases, h⟩ := Option.bind_eq_some_iff.1 h
  obtain ⟨value, hvalue, h⟩ := Option.bind_eq_some_iff.1 h
  obtain ⟨url, hurl, h⟩ := Option.bind_eq_some_iff.1 h
  cases declared with
  | object fields =>
    cases value with
    | string text =>
      obtain rfl := Option.some.inj hbases
      obtain rfl := Option.some.inj hurl
      exact ⟨fields, text, hdeclared, hvalue, (Option.some.inj h).symm⟩
    | _ => cases hurl
  | _ => cases hbases

namespace HasAbsoluteBases

theorem namedBase (h : HasAbsoluteBases s) {name : String} {base : List Char}
    (hbase : namedBase? s name = some base) : NamesHost base := by
  obtain ⟨bases, url, hbases, hurl, rfl⟩ := exists_of_namedBase? hbase
  exact h.named bases name url hbases hurl

theorem siteBase (h : HasAbsoluteBases s) : NamesHost (siteBase s) := by
  obtain ⟨url, hurl, hhost⟩ := h.network
  rw [Asset.siteBase, network?_eq hurl hhost.ne_nil]
  dsimp only
  split
  · next v _ =>
    rw [List.append_assoc]
    exact hhost.append _
  · exact hhost

theorem resolve (h : HasAbsoluteBases s) (path : List Char) : NamesHost (resolve s path) := by
  unfold Asset.resolve
  split
  · next habsolute => exact isAbsolute_iff.1 habsolute
  · split
    · next base rest hnamed =>
      obtain ⟨⟨name, rest'⟩, -, hbase⟩ := Option.bind_eq_some_iff.1 hnamed
      obtain ⟨base', hbase', heq⟩ := Option.bind_eq_some_iff.1 hbase
      cases heq
      exact (h.namedBase hbase').under rest
    · exact h.siteBase.under path

end HasAbsoluteBases

theorem resolve_of_namesHost {address : List Char} (h : NamesHost address) (s : Settings) :
    resolve s address = address :=
  if_pos (isAbsolute_iff.2 h)

/-- Where all bases name their hosts, whatever the version of the theme is, every path is resolved
to an address that names its host, and resolving that address again changes nothing. The paths that
are resolved to themselves are the ones that name a host already. -/
theorem resolve_settles (h : HasAbsoluteBases s) (path : List Char) :
    NamesHost (resolve s path) ∧ resolve s (resolve s path) = resolve s path ∧
      (resolve s path = path ↔ NamesHost path) := by
  have hhost := h.resolve path
  refine ⟨hhost, resolve_of_namesHost hhost s, fun hfixed => ?_, fun hpath => ?_⟩
  · rw [hfixed] at hhost
    exact hhost
  · exact resolve_of_namesHost hpath s

/-- A theme that declares a base under the name of a protocol, and paths with one slash too few. -/
theorem resolve_settles_protocol :
    let bases : Table Value := [("http", .string "https://a.example//"), ("n", .ofInt 1)]
    let s : Settings := {
      site := [("cdn_url", .string "//b.example/"), ("theme_version_id", .ofInt 7)]
      theme := [("cdn", .object bases)] }
    HasAbsoluteBases s ∧
      resolve s "http:/x//y:z".toList = "https://a.example/x//y:z".toList ∧
      resolve s "https:/x".toList = "//b.example/stencil/7/https:/x".toList ∧
      ∀ path, resolve s (resolve s path) = resolve s path := by
  intro bases s
  have hbases : HasAbsoluteBases s := by
    refine ⟨⟨"//b.example/", rfl, by decide⟩, fun bases' name base hcdn hbase => ?_⟩
    cases hcdn
    rcases List.mem_cons.1 (Table.mem_of_get? hbase) with hfirst | hsecond
    · cases hfirst
      decide
    · cases List.mem_singleton.1 hsecond
  exact ⟨hbases, by decide, by decide, fun path => (resolve_settles hbases path).2.1⟩

end Storefront.Asset
