import Storefront.Render.Interpreter

/-!
# Computations side by side

`Simulates G S R m n` says that `m` and `n`, started in states related by `S`, end alike: with
values related by `R` or with the same error, in states that are again related by `S`. Only where
`m` ends with an error in `G` it has given up, and `n` may do anything. The relation goes through
all ways of putting computations together (`Simulates.bind`).
-/

namespace Storefront.Render

variable {ε σ τ α β α' β' : Type}

/-- No error: a computation that ends with one has not given up. -/
def Never (_ : ε) : Prop := False

/-- Two results are alike, unless the first is an error in `G`. -/
inductive ResultRel (G : ε → Prop) (S : σ → τ → Prop) (R : α → β → Prop) :
    EStateM.Result ε σ α → EStateM.Result ε τ β → Prop where
  | ok {a : α} {b : β} {s : σ} {t : τ} (h : R a b) (hs : S s t) :
    ResultRel G S R (.ok a s) (.ok b t)
  | error (e : ε) {s : σ} {t : τ} (hs : S s t) : ResultRel G S R (.error e s) (.error e t)
  | gaveUp {e : ε} {s : σ} {y : EStateM.Result ε τ β} (h : G e) : ResultRel G S R (.error e s) y

/-- Two computations end alike from related states, unless the first gives up. -/
def Simulates (G : ε → Prop) (S : σ → τ → Prop) (R : α → β → Prop) (m : EStateM ε σ α)
    (n : EStateM ε τ β) : Prop :=
  ∀ s t, S s t → ResultRel G S R (m s) (n t)

/-- Two outcomes are alike. -/
inductive ExceptRel (R : α → β → Prop) : Except ε α → Except ε β → Prop where
  | ok {a : α} {b : β} (h : R a b) : ExceptRel R (.ok a) (.ok b)
  | error (e : ε) : ExceptRel R (.error e) (.error e)

namespace ExceptRel

variable {R : α → β → Prop} {x : Except ε α} {y : Except ε β}

theorem refl (x : Except ε α) : ExceptRel Eq x x := by
  cases x with
  | ok a => exact .ok rfl
  | error e => exact .error e

theorem mapError {ε' : Type} (h : ExceptRel R x y) (f : ε → ε') :
    ExceptRel R (x.mapError f) (y.mapError f) := by
  cases h with
  | ok h => exact .ok h
  | error e => exact .error (f e)

end ExceptRel

namespace Simulates

variable {G : ε → Prop} {S : σ → τ → Prop} {R : α → β → Prop} {R' : α' → β' → Prop}
variable {m : EStateM ε σ α} {n : EStateM ε τ β}

theorem refl (m : EStateM ε σ α) : Simulates G Eq Eq m m := by
  rintro s _ rfl
  cases m s with
  | ok a s' => exact .ok rfl rfl
  | error e s' => exact .error e rfl

theorem pure {a : α} {b : β} (h : R a b) :
    Simulates G S R (pure a : EStateM ε σ α) (pure b : EStateM ε τ β) :=
  fun _ _ hs => .ok h hs

theorem throw (e : ε) : Simulates G S R (throw e : EStateM ε σ α) (throw e : EStateM ε τ β) :=
  fun _ _ hs => .error e hs

theorem bind {f : α → EStateM ε σ α'} {g : β → EStateM ε τ β'} (hm : Simulates G S R m n)
    (hf : ∀ a b, R a b → Simulates G S R' (f a) (g b)) : Simulates G S R' (m >>= f) (n >>= g) := by
  intro s t hs
  have hmn := hm s t hs
  show ResultRel G S R' (EStateM.bind m f s) (EStateM.bind n g t)
  unfold EStateM.bind
  generalize m s = x at hmn ⊢
  generalize n t = y at hmn ⊢
  cases hmn with
  | ok h hs' => exact hf _ _ h _ _ hs'
  | error e hs' => exact .error e hs'
  | gaveUp h => exact .gaveUp h

theorem bind_eq {n : EStateM ε τ α} {f : α → EStateM ε σ α'} {g : α → EStateM ε τ β'}
    (hm : Simulates G S Eq m n) (hf : ∀ a, Simulates G S R' (f a) (g a)) :
    Simulates G S R' (m >>= f) (n >>= g) := by
  refine hm.bind ?_
  rintro a _ rfl
  exact hf a

theorem map {f : α → α'} {g : β → β'} (hm : Simulates G S R m n)
    (hf : ∀ a b, R a b → R' (f a) (g b)) : Simulates G S R' (f <$> m) (g <$> n) := by
  intro s t hs
  have hmn := hm s t hs
  show ResultRel G S R' (EStateM.map f m s) (EStateM.map g n t)
  unfold EStateM.map
  generalize m s = x at hmn ⊢
  generalize n t = y at hmn ⊢
  cases hmn with
  | ok h hs' => exact .ok (hf _ _ h) hs'
  | error e hs' => exact .error e hs'
  | gaveUp h => exact .gaveUp h

theorem get : Simulates G S S (get : EStateM ε σ σ) (get : EStateM ε τ τ) :=
  fun _ _ hs => .ok hs hs

theorem modify {f : σ → σ} {g : τ → τ} (h : ∀ s t, S s t → S (f s) (g t)) :
    Simulates G S Eq (modify f : EStateM ε σ Unit) (modify g : EStateM ε τ Unit) :=
  fun s t hs => .ok rfl (h s t hs)

theorem settled {x : Except ε α} {y : Except ε β} (h : ExceptRel R x y) :
    Simulates G S R (settled x : EStateM ε σ α) (Render.settled y : EStateM ε τ β) := by
  cases h with
  | ok h => exact pure h
  | error e => exact throw e

theorem forM (xs : List α) {f : α → EStateM ε σ PUnit} {g : α → EStateM ε τ PUnit}
    (h : ∀ x, Simulates G S Eq (f x) (g x)) : Simulates G S Eq (xs.forM f) (xs.forM g) := by
  induction xs with
  | nil => exact pure rfl
  | cons x xs ih => exact (h x).bind_eq fun _ => ih

end Simulates

end Storefront.Render
