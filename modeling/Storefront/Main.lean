import Storefront.Command.Line

/-!
# The program

Takes the files that a command names from the disk, runs the command on them, prints what it shows
and writes what it has written.
-/

open Storefront

/-- The files at a path of the disk, as far down as `depth`; `none` if there are none. -/
def readTree (path : String) : (depth : Nat) → IO (Option FileTree)
  | 0 => return none
  | depth + 1 => do
    try
      let mut entries : Table FileTree := []
      for entry in ← (System.mkFilePath [path]).readDir do
        if let some t ← readTree (path ++ "/" ++ entry.fileName) depth then
          entries := entries.insert entry.fileName t
      return some (.directory entries)
    catch _ =>
      try
        return some (.file (.ofBytes (← IO.FS.readBinFile path)))
      catch _ => return none

/-- The paths that a command looks at, and how far down: all of the templates, and of the directory
that it writes to only the directory itself. -/
def pathsOf : Command → List (String × Nat)
  | .precompile directory output _ =>
    output.toList.map (fun path => (path ++ "/..", 1)) ++ [(directory, 255)]
  | .render _ templates o =>
    (o.context.toList ++ o.configuration.toList).map (fun path => (path, 1)) ++ [(templates, 255)]
  | .renderString _ o => (o.context.toList ++ o.configuration.toList).map fun path => (path, 1)

/-- The names that lead to a path from the root of the disk. -/
def namesOf (working path : String) : List String :=
  let whole := if path.toList.head? = some '/' then path else working ++ "/" ++ path
  let names := (FileSystem.splitPath whole.toList).map String.ofList
  names.foldl (fun here name =>
    if name = "" ∨ name = "." then here
    else if name = ".." then here.dropLast
    else here ++ [name]) []

/-- The part of the disk that a command can see. -/
def readFiles (paths : List (String × Nat)) : IO FileSystem := do
  let working := (← IO.currentDir).toString
  let mut root := FileTree.empty.put (namesOf working "") .empty
  for (path, depth) in paths do
    let names := namesOf working path
    if let some t ← readTree ("/" ++ "/".intercalate names) depth then
      root := root.put names t
  return { root, working := namesOf working "" }

def main (words : List String) : IO UInt32 := do
  let command := CommandLine.read words
  let paths := match command with
    | .ok c => pathsOf c
    | .error _ => []
  let (response, files) := CommandLine.run (← readFiles paths) words
  IO.print response.output
  IO.eprint response.diagnostics
  if let .ok (.precompile _ (some output) _) := command then
    if response.status = 0 then
      if let .ok text := files.readText output then
        IO.FS.writeFile output text
  return response.status.toUInt32
