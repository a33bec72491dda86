/-!
# Tables: finite maps from names to values

A table is a list of entries kept in the code-point order of its keys. Every object of the data
language, every set of settings and every message catalogue is one, so iterating a table always
goes through its keys in sorted order and never through the order in which they were written.

The operations below need no sortedness to obey the laws of a map: looking up after an insertion
or a removal is settled by the key alone (`Table.get?_insert`, `Table.get?_erase`).
-/

namespace Storefront

/-- A finite map from names to values of type `α`, listed in key order. -/
abbrev Table (α : Type) := List (String × α)

namespace Table

variable {α β : Type}

def get? : Table α → String → Option α
  | [], _ => none
  | (k, v) :: rest, key => if k = key then some v else get? rest key

/-- Stores `value` under `key`, in place of what was there. -/
def insert : Table α → String → α → Table α
  | [], key, value => [(key, value)]
  | (k, v) :: rest, key, value =>
    if k = key then (key, value) :: rest
    else if key < k then (key, value) :: (k, v) :: rest
    else (k, v) :: insert rest key value

def erase (t : Table α) (key : String) : Table α :=
  t.filter fun e => e.1 ≠ key

def contains (t : Table α) (key : String) : Bool :=
  (t.get? key).isSome

/-- The keys in order. -/
def keys (t : Table α) : List String :=
  t.map Prod.fst

/-- The table of a list of entries; of two entries with one key the later counts. -/
def ofList (entries : List (String × α)) : Table α :=
  entries.foldl (fun t e => t.insert e.1 e.2) []

/-- Stores every entry of `new` in `t`. -/
def insertAll (t new : Table α) : Table α :=
  new.foldl (fun t e => t.insert e.1 e.2) t

@[simp] theorem get?_nil (key : String) : get? ([] : Table α) key = none := rfl

theorem get?_cons (k : String) (v : α) (t : Table α) (key : String) :
    get? ((k, v) :: t) key = if k = key then some v else get? t key := rfl

theorem get?_insert (t : Table α) (key : String) (value : α) (k : String) :
    (t.insert key value).get? k = if key = k then some value else t.get? k := by
  induction t with
  | nil => rfl
  | cons e t ih =>
    obtain ⟨k', v'⟩ := e
    simp only [insert]
    split
    · subst k'
      simp only [get?_cons]
      split <;> rfl
    · split
      · simp only [get?_cons]
      · simp only [get?_cons, ih]
        split
        · next h => rw [if_neg]; exact fun h' => ‹¬k' = key› (h.trans h'.symm)
        · rfl

theorem get?_erase (t : Table α) (key k : String) :
    (t.erase key).get? k = if key = k then none else t.get? k := by
  induction t with
  | nil => simp [erase]
  | cons e t ih =>
    obtain ⟨k', v'⟩ := e
    simp only [erase] at ih
    by_cases h : k' = key
    · subst h
      simp only [erase, ne_eq, decide_not, List.filter_cons, decide_true, Bool.not_true,
        Bool.false_eq_true, if_false, get?_cons]
      simp only [ne_eq, decide_not] at ih
      rw [ih]
      split <;> rfl
    · simp only [erase, ne_eq, decide_not, List.filter_cons, h, decide_false, Bool.not_false,
        if_true, get?_cons]
      simp only [ne_eq, decide_not] at ih
      rw [ih]
      split
      · next h' => rw [if_neg]; exact fun h'' => h (h'.trans h''.symm)
      · rfl

end Table

end Storefront
