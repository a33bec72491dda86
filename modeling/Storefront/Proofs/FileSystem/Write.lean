import Storefront.FileSystem.Access

/-!
# Writing a file

A text that is written to a file is read back from it (`readText_writeText`), paths lead to where
they led before (`place_writeText`), and what a path leads to stays the same, unless the file is
under it (`get_writeText`). All of this rests on one fact about trees: what is put in the place of
no directory is out of the way of every directory (`directory_put`).
-/

namespace Storefront

namespace FileTree

variable {t u new : FileTree} {way here : List String}

theorem get?_nil (t : FileTree) : t.get? [] = some t := by
  cases t <;> rfl

theorem put_nil (t new : FileTree) : t.put [] new = new := by
  cases t <;> rfl

theorem get?_append (t : FileTree) (way rest : List String) :
    t.get? (way ++ rest) = (t.get? way).bind (·.get? rest) := by
  induction way generalizing t with
  | nil =>
    rw [get?_nil]
    rfl
  | cons name way ih =>
    cases t with
    | file content => rfl
    | directory entries =>
      rw [List.cons_append, get?, get?]
      cases Table.get? entries name with
      | none => rfl
      | some u => exact ih u

theorem eq_nil_of_get? (hu : ∀ entries, t ≠ directory entries) {rest : List String}
    (h : t.get? rest = some u) : rest = [] := by
  cases rest with
  | nil => rfl
  | cons name rest =>
    cases t with
    | file content => cases h
    | directory entries => exact absurd rfl (hu entries)

theorem eq_of_get?_below (hway : ∀ entries, t.get? way ≠ some (directory entries))
    (h : t.get? here = some u) (hpre : way <+: here) : way = here := by
  obtain ⟨rest, rfl⟩ := hpre
  rw [get?_append] at h
  obtain ⟨v, hv, hrest⟩ := Option.bind_eq_some_iff.1 h
  have hnil := eq_nil_of_get? (fun entries hentries => hway entries (hentries ▸ hv)) hrest
  rw [hnil, List.append_nil]

/-! ### Putting a tree in a place -/

theorem get?_put_above {rest : List String} (h : t.get? here = some u) :
    (t.put (here ++ rest) new).get? here = some (u.put rest new) := by
  induction here generalizing t with
  | nil =>
    rw [get?_nil] at h
    cases h
    exact get?_nil _
  | cons name here ih =>
    cases t with
    | file content => cases h
    | directory entries =>
      rw [get?] at h
      obtain ⟨v, hv, hsub⟩ := Option.bind_eq_some_iff.1 h
      rw [List.cons_append, put, get?, Table.get?_insert, if_pos rfl, hv]
      exact ih hsub

theorem get?_put_apart {other : List String} (hbelow : ¬way <+: other) (habove : ¬other <+: way) :
    (t.put way new).get? other = t.get? other := by
  -- the two ways go together up to some name and part there
  induction way generalizing t other with
  | nil => exact absurd List.nil_prefix hbelow
  | cons name way ih =>
    cases other with
    | nil => exact absurd List.nil_prefix habove
    | cons name' other =>
      by_cases hname : name = name'
      · subst hname
        have hbelow' : ¬way <+: other := fun h => hbelow (List.cons_prefix_cons.2 ⟨rfl, h⟩)
        have habove' : ¬other <+: way := fun h => habove (List.cons_prefix_cons.2 ⟨rfl, h⟩)
        -- a directory that is made on the way has nothing else in it
        have hmade : (empty.put way new).get? other = none := by
          rw [ih hbelow' habove']
          cases other with
          | nil => exact absurd List.nil_prefix habove'
          | cons name' other => rfl
        cases t with
        | file content =>
          rw [put, get?, Table.get?_cons, if_pos rfl]
          exact hmade
        | directory entries =>
          rw [put, get?, Table.get?_insert, if_pos rfl, get?]
          cases Table.get? entries name with
          | none => exact hmade
          | some u => exact ih hbelow' habove'
      · cases t with
        | file content =>
          rw [put, get?, Table.get?_cons, if_neg hname]
          rfl
        | directory entries => rw [put, get?, Table.get?_insert, if_neg hname, get?]

theorem directory_put {entries : List (String × FileTree)}
    (hway : ∀ entries, t.get? way ≠ some (directory entries))
    (h : t.get? here = some (directory entries)) :
    ∃ entries', (t.put way new).get? here = some (directory entries') ∧
      ∀ name, Table.contains entries name → Table.contains entries' name := by
  have hne : way ≠ here := by
    rintro rfl
    exact hway entries h
  by_cases habove : here <+: way
  · obtain ⟨rest, rfl⟩ := habove
    cases rest with
    | nil => exact absurd (List.append_nil here) hne
    | cons name rest =>
      refine ⟨_, get?_put_above h, ?_⟩
      intro name' hname'
      rw [Table.contains, Table.get?_insert]
      split
      · rfl
      · exact hname'
  · have hbelow : ¬way <+: here := fun hpre => hne (eq_of_get?_below hway h hpre)
    rw [get?_put_apart hbelow habove]
    exact ⟨entries, h, fun _ => id⟩

end FileTree

namespace FileSystem
open FileTree (directory)

variable {fs fs' : FileSystem} {path text : String}

/-- The place that a path leads to, as the names that lead there from the root. -/
def place (fs : FileSystem) (path : String) : Except FileError (List String) := do
  fs.follow (fs.start path) (← names path)

/-- A path leads to a place that is another one's or below it. -/
def IsUnder (fs : FileSystem) (above path : String) : Prop :=
  ∃ place place', fs.place above = .ok place ∧ fs.place path = .ok place' ∧ place <+: place'

theorem get_eq_ok_iff {t : FileTree} :
    fs.get path = .ok t ↔ ∃ here, fs.place path = .ok here ∧ fs.root.get? here = some t := by
  unfold get place
  cases names path with
  | error e => exact ⟨nofun, nofun⟩
  | ok all =>
    dsimp only [bind, Except.bind]
    cases hfollow : fs.follow (fs.start path) all with
    | error e => exact ⟨nofun, nofun⟩
    | ok here =>
      dsimp only
      constructor
      · intro h
        refine ⟨here, rfl, ?_⟩
        cases ht : fs.root.get? here with
        | none =>
          rw [ht] at h
          cases h
        | some u =>
          rw [ht] at h
          cases h
          rfl
      · rintro ⟨here', hhere, ht⟩
        cases hhere
        rw [ht]
        rfl

/-- The directories of a file system are still there, with all their names. -/
def KeepsDirectories (fs fs' : FileSystem) : Prop :=
  ∀ place entries, fs.root.get? place = some (directory entries) →
    ∃ entries', fs'.root.get? place = some (directory entries') ∧
      ∀ name, Table.contains entries name → Table.contains entries' name

/-- Where a path leads does not depend on more than the directories on its way. -/
theorem follow_mono {here place : List String} {all : List String}
    (hkeeps : KeepsDirectories fs fs') (h : fs.follow here all = .ok place) :
    fs'.follow here all = .ok place := by
  induction all generalizing here with
  | nil => exact h
  | cons name rest ih =>
    rw [follow] at h ⊢
    cases ht : fs.root.get? here with
    | none =>
      rw [ht] at h
      cases h
    | some t =>
      cases t with
      | file content =>
        rw [ht] at h
        cases h
      | directory entries =>
        obtain ⟨entries', ht', hcontains⟩ := hkeeps here entries ht
        rw [ht] at h
        rw [ht']
        dsimp only at h ⊢
        split at h
        · next hhere =>
          rw [if_pos hhere]
          exact ih h
        · next hhere =>
          rw [if_neg hhere]
          split at h
          · next hup =>
            rw [if_pos hup]
            exact ih h
          · next hup =>
            rw [if_neg hup]
            split at h
            · cases h
            · next hlong =>
              rw [if_neg hlong]
              split at h
              · next hname =>
                rw [if_pos (hcontains name hname)]
                exact ih h
              · cases h

theorem follow_append (fs : FileSystem) (here front rest : List String) :
    fs.follow here (front ++ rest) =
      fs.follow here front >>= fun place => fs.follow place rest := by
  induction front generalizing here with
  | nil => rfl
  | cons name front ih =>
    rw [List.cons_append, follow, follow]
    cases fs.root.get? here with
    | none => rfl
    | some t =>
      cases t with
      | file content => rfl
      | directory entries =>
        dsimp only
        split
        · exact ih here
        · split
          · exact ih _
          · split
            · rfl
            · split
              · exact ih _
              · rfl

/-- What a file is written into: the directory at `here`, in which `last` is a name for a file. -/
structure WritesAt (fs : FileSystem) (path : String) (here : List String) (last : String) :
    Prop where
  follow : ∃ front, names path = .ok (front ++ [last]) ∧ fs.follow (fs.start path) front = .ok here
  name : ¬(last = "" ∨ last = ".") ∧ last ≠ ".." ∧ last.utf8ByteSize ≤ nameLimit
  around : ∃ entries, fs.root.get? here = some (directory entries)
  noDirectory : ∀ entries, fs.root.get? (here ++ [last]) ≠ some (directory entries)

theorem names_split {all : List String} {last : String}
    (hlast : (all.reverse.dropWhile (· = "")).head? = some last) (hslash : all.getLast? ≠ some "") :
    all = (all.reverse.dropWhile (· = "")).tail.reverse ++ [last] := by
  have hkeep : all.reverse.dropWhile (· = "") = all.reverse := by
    cases hall : all.reverse with
    | nil => rfl
    | cons name rest =>
      have hname : ¬name = "" := by
        rintro rfl
        rw [List.getLast?_eq_head?_reverse, hall] at hslash
        exact hslash rfl
      rw [List.dropWhile_cons_of_neg (by simpa using hname)]
  rw [hkeep] at hlast ⊢
  obtain ⟨rest, hrest⟩ := List.head?_eq_some_iff.1 hlast
  rw [hrest, List.tail_cons, ← List.reverse_cons, ← hrest, List.reverse_reverse]

theorem writeText_cases (h : fs.writeText path text = .ok fs') :
    ∃ here last, fs.WritesAt path here last ∧
      fs' = { fs with root := fs.root.put (here ++ [last]) (.file (.text text)) } := by
  unfold writeText at h
  cases hnames : names path with
  | error e =>
    rw [hnames] at h
    cases h
  | ok all =>
    rw [hnames] at h
    dsimp only [bind, Except.bind] at h
    cases hlast : (all.reverse.dropWhile (· = "")).head? with
    | none =>
      rw [hlast] at h
      cases h
    | some last =>
      rw [hlast] at h
      dsimp only at h
      split at h
      · cases h
      · next here hfollow =>
        split at h
        · next entries hentries =>
          split at h
          · cases h
          · next hspecial =>
            split at h
            · cases h
            · next hlong =>
              have hplace (v : FileTree) (hv : fs.root.get? (here ++ [last]) = some v) :
                  Table.get? entries last = some v := by
                rw [FileTree.get?_append, hentries, Option.bind_some, FileTree.get?] at hv
                obtain ⟨u, hu, hv⟩ := Option.bind_eq_some_iff.1 hv
                rw [FileTree.get?_nil] at hv
                rw [hu, hv]
              split at h
              · cases h
              · next hnone =>
                cases h
                have hempty : last ≠ "" := by
                  rintro rfl
                  have hhead := List.head?_dropWhile_not (fun x => decide (x = "")) all.reverse
                  rw [hlast] at hhead
                  exact absurd hhead (by simp)
                refine ⟨here, last, ⟨⟨_, ?_, hfollow⟩, ?_, ⟨entries, hentries⟩, ?_⟩, rfl⟩
                · rw [hnames]
                  exact congrArg Except.ok (names_split hlast fun hslash => hspecial (.inl hslash))
                · exact ⟨not_or.2 ⟨hempty, fun hdot => hspecial (.inr (.inl hdot))⟩,
                    fun hdots => hspecial (.inr (.inr hdots)), Nat.not_lt.1 hlong⟩
                · intro below hbelow
                  exact hnone below (hplace _ hbelow)
        · cases h
        · cases h

/-! ### After writing -/

variable {here : List String} {last : String}

theorem keepsDirectories_writeText (h : fs.writeText path text = .ok fs') :
    KeepsDirectories fs fs' := by
  obtain ⟨here, last, hwrites, rfl⟩ := writeText_cases h
  exact fun _ _ hentries => FileTree.directory_put hwrites.noDirectory hentries

theorem place_writeText (h : fs.writeText path text = .ok fs') {other : String}
    {place : List String} (hplace : fs.place other = .ok place) : fs'.place other = .ok place := by
  have hkeeps := keepsDirectories_writeText h
  obtain ⟨here, last, -, rfl⟩ := writeText_cases h
  unfold FileSystem.place at hplace ⊢
  cases hnames : names other with
  | error e =>
    rw [hnames] at hplace
    cases hplace
  | ok all =>
    rw [hnames] at hplace
    exact follow_mono hkeeps hplace

theorem place_writeText_self (h : fs.writeText path text = .ok fs') :
    ∃ place, fs'.place path = .ok place ∧
      (∀ entries, fs.root.get? place ≠ some (directory entries)) ∧
      fs'.root = fs.root.put place (.file (.text text)) ∧
      fs'.root.get? place = some (.file (.text text)) := by
  have hkeeps := keepsDirectories_writeText h
  obtain ⟨here, last, hwrites, heq⟩ := writeText_cases h
  obtain ⟨front, hnames, hfront⟩ := hwrites.follow
  obtain ⟨entries, hentries⟩ := hwrites.around
  obtain ⟨hname, hdots, hlength⟩ := hwrites.name
  let new : FileTree := .file (.text text)
  have hroot : fs'.root = fs.root.put (here ++ [last]) new := by rw [heq]
  have hdirectory : fs'.root.get? here = some (directory (Table.insert entries last new)) := by
    rw [hroot, FileTree.get?_put_above hentries, FileTree.put, FileTree.put_nil]
  have hlast : Table.get? (Table.insert entries last new) last = some new := by
    rw [Table.get?_insert, if_pos rfl]
  have hcontains : Table.contains (Table.insert entries last new) last := by
    rw [Table.contains, hlast]
    rfl
  refine ⟨here ++ [last], ?_, hwrites.noDirectory, hroot, ?_⟩
  · have hstart : fs'.follow (fs'.start path) front = .ok here := by
      rw [show fs'.start path = fs.start path by rw [heq]; rfl]
      exact follow_mono hkeeps hfront
    unfold FileSystem.place
    rw [hnames]
    dsimp only [bind, Except.bind]
    rw [follow_append, hstart]
    dsimp only [bind, Except.bind]
    rw [FileSystem.follow, hdirectory]
    dsimp only
    rw [if_neg hname, if_neg hdots, if_neg (Nat.not_lt.2 hlength), if_pos hcontains]
    rfl
  · rw [FileTree.get?_append, hdirectory, Option.bind_some, FileTree.get?, hlast, Option.bind_some,
      FileTree.get?_nil]

theorem readText_writeText (h : fs.writeText path text = .ok fs') :
    fs'.readText path = .ok text := by
  obtain ⟨place, hplace, -, -, hfile⟩ := place_writeText_self h
  have hget := get_eq_ok_iff.2 ⟨place, hplace, hfile⟩
  rw [readText, hget]
  rfl

theorem isDirectory_writeText (h : fs.writeText path text = .ok fs') :
    fs'.isDirectory path = false := by
  obtain ⟨place, hplace, -, -, hfile⟩ := place_writeText_self h
  have hget := get_eq_ok_iff.2 ⟨place, hplace, hfile⟩
  rw [isDirectory, hget]

/-- What a path leads to stays the same, unless the file is under it. -/
theorem get_writeText (h : fs.writeText path text = .ok fs') {other : String}
    (hout : ¬fs'.IsUnder other path) {t : FileTree} (hget : fs.get other = .ok t) :
    fs'.get other = .ok t := by
  obtain ⟨place, hplace, hnone, hroot, -⟩ := place_writeText_self h
  obtain ⟨above, habove, ht⟩ := get_eq_ok_iff.1 hget
  have habove' := place_writeText h habove
  have hnotAbove : ¬above <+: place := fun hpre => hout ⟨above, place, habove', hplace, hpre⟩
  have hnotBelow : ¬place <+: above := by
    intro hpre
    obtain rfl := FileTree.eq_of_get?_below hnone ht hpre
    exact hnotAbove List.prefix_rfl
  refine get_eq_ok_iff.2 ⟨above, habove', ?_⟩
  rw [hroot, FileTree.get?_put_apart hnotBelow hnotAbove, ht]

end FileSystem

end Storefront
