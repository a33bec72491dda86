import Storefront.Settings
import Storefront.Text.Blank

/-!
# Addresses of assets

An asset path becomes an address in one of three ways: an absolute address stays as it is; a path
that names a base of the theme before a colon goes under that base; any other path goes under the
site's content network and the version of its theme, or to the root of the site if it has no such
network.
-/

namespace Storefront.Asset

open Json (Value)

/-- Whether an address names its host. -/
def isAbsolute (path : List Char) : Bool :=
  ['h', 't', 't', 'p', ':', '/', '/'].isPrefixOf path ||
    ['h', 't', 't', 'p', 's', ':', '/', '/'].isPrefixOf path || ['/', '/'].isPrefixOf path

def dropSlashes (s : List Char) : List Char :=
  s.dropWhile (· == '/')

def dropEndSlashes (s : List Char) : List Char :=
  Text.dropEndWhile (· == '/') s

/-- A path under a base. -/
def under (base path : List Char) : List Char :=
  base ++ '/' :: dropSlashes path

/-- The base that the theme declares under `name`, without slashes at its end. -/
def namedBase? (s : Settings) (name : String) : Option (List Char) := do
  let bases ← (← s.theme.get? "cdn").object?
  let base ← (← Table.get? bases name).string?
  return dropEndSlashes base.toList

/-- The site's content network, without slashes at its end, if it has one. -/
def network? (s : Settings) : Option (List Char) := do
  let url ← (← s.site.get? "cdn_url").string?
  let base := dropEndSlashes url.toList
  if base.isEmpty then none else return base

/-- The version of the theme as part of a path. -/
def version? (s : Settings) : Option (List Char) :=
  match s.site.get? "theme_version_id" with
  | some (.string v) => if v.isEmpty then none else some v.toList
  | some (.number n) => some n.text
  | _ => none

/-- The base of all paths that name none. -/
def siteBase (s : Settings) : List Char :=
  match network? s with
  | none => []
  | some base =>
    match version? s with
    | some v => base ++ "/stencil/".toList ++ v
    | none => base

/-- The name before the first colon of a path, and what follows the colon. -/
def splitName? (path : List Char) : Option (List Char × List Char) :=
  match path.dropWhile (· != ':') with
  | _ :: rest => some (path.takeWhile (· != ':'), rest)
  | [] => none

/-- The base that a path names, and the rest of the path. -/
def named? (s : Settings) (path : List Char) : Option (List Char × List Char) := do
  let (name, rest) ← splitName? path
  let base ← namedBase? s (String.ofList name)
  return (base, rest)

/-- The address of an asset. -/
def resolve (s : Settings) (path : List Char) : List Char :=
  if isAbsolute path then path
  else
    match named? s path with
    | some (base, rest) => under base rest
    | none => under (siteBase s) path

end Storefront.Asset
