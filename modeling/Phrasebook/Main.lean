import Phrasebook.CommandLine.Run

/-! The program takes in the files that a command may need, runs it, and prints what it has to print. -/

namespace Phrasebook

/-- The names on an absolute path. -/
def absoluteNames (path : String) : List String :=
  -- An absolute path starts with a slash, before which there is no name.
  (pathSegments path).filter (· != "")

/-- Add what stands at an absolute path to a file tree, directories as deep as the bound says. -/
def takeIn : Nat → FileTree → String → IO FileTree
  -- What cannot be read is left out.
  | 0, tree, _ => return tree
  | depth + 1, tree, path => do
    try
      let place ← IO.FS.realPath path
      if ← place.isDir then
        let entries ← place.readDir
        entries.foldlM (fun tree entry => takeIn depth tree (path ++ "/" ++ entry.fileName))
          (tree.insert (absoluteNames path) .directory)
      else
        let bytes ← IO.FS.readBinFile path
        return tree.insert (absoluteNames path) (.file bytes)
    catch _ => return tree

/-- The absolute paths of the directories that a command may read from. -/
def readableDirectories (working : String) (words : List String) : IO (List String) := do
  -- Words that lead nowhere are options and names.
  let outside ← words.filterMapM fun (word : String) => do
    try
      let place ← IO.FS.realPath word
      let directory ← if ← place.isDir then pure (some place) else pure place.parent
      return directory.map (·.toString)
    catch _ => return none
  return working :: (outside.filter (· != working)).eraseDups

/-- The files that a command may need. -/
def takeInFor (words : List String) : IO FileTree := do
  -- Directories are taken in with all that stands in them, down to a depth that links cannot exceed.
  let working := (← IO.currentDir).toString
  let directories ← readableDirectories working words
  directories.foldlM (takeIn 32) { working := absoluteNames working }

/-- A number that no one can foresee. -/
def randomSeed : IO Nat := do
  -- Eight bytes are enough.
  let bytes ← IO.getRandomBytes 8
  return bytes.foldl (fun seed byte => 256 * seed + byte.toNat) 0

end Phrasebook

open Phrasebook in
/-- Run the command that the words ask for. -/
def main (words : List String) : IO UInt32 := do
  -- Errors are printed on a stream of their own.
  let files ← takeInFor words
  let result := runCommandLine files (← randomSeed) words
  IO.print result.output
  IO.eprint result.errors
  return result.status.code.toUInt32
