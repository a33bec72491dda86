import Storefront.Dialect

/-!
# Compiler revisions

An artifact records the revision of the compiler that wrote it. A compiler reads the artifacts of
an interval of revisions that ends with its own: what lies below is refused as older, what lies
above as newer.
-/

namespace Storefront

/-- The revisions of one compiler. -/
structure Compiler where
  /-- The revision it writes. -/
  revision : UInt32
  /-- The oldest revision it reads. -/
  lastCompatible : UInt32
deriving DecidableEq, Repr

namespace Compiler

/-- The range of language versions that a revision stands for. -/
def versionsOf (revision : UInt32) : String :=
  match revision.toNat with
  | 1 => "<= 1.0.rc.2"
  | 2 => "== 1.0.0-rc.3"
  | 3 => "== 1.0.0-rc.4"
  | 4 => "== 1.x.x"
  | 5 => "== 2.0.0-alpha.x"
  | 6 => ">= 2.0.0-beta.1"
  | 7 => ">= 4.0.0 <4.3.0"
  | 8 => ">= 4.3.0"
  | _ => "unknown"

/-- The range of language versions of the compiler's own revision. -/
def versions (c : Compiler) : String :=
  versionsOf c.revision

/-- Why a compiler refuses a revision. -/
inductive Incompatible where
  | older (expected found : String)
  | newer (found : String)
deriving DecidableEq, Repr

def Incompatible.message : Incompatible → String
  | older expected found =>
    "Template was precompiled with an older version of Handlebars than the current runtime. " ++
    "Please update your precompiler to a newer version (" ++ expected ++
    ") or downgrade your runtime to an older version (" ++ found ++ ")."
  | newer found =>
    "Template was precompiled with a newer version of Handlebars than the current runtime. " ++
    "Please update your runtime to a newer version (" ++ found ++ ")."

/-- Whether the compiler reads what the compiler of `revision` wrote; `versions` is the range of
versions that the artifact itself names. -/
def check (c : Compiler) (revision : UInt32) (versions : String) : Except Incompatible Unit :=
  if c.lastCompatible ≤ revision ∧ revision ≤ c.revision then .ok ()
  else if revision < c.lastCompatible then .error (.older c.versions (versionsOf revision))
  else .error (.newer versions)

end Compiler

def Dialect.compiler : Dialect → Compiler
  | .v3 => ⟨6, 6⟩
  | .v4 => ⟨8, 7⟩

end Storefront
