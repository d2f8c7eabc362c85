import Phrasebook.Reading.Lines

/-! Paths are texts of segments divided by slashes; a leading slash makes a path absolute. -/

namespace Phrasebook

/-- The segments of a path, empty ones included. -/
def pathSegments (path : String) : List String :=
  -- An absolute path starts with an empty segment.
  (splitAt '/' path.toList).map String.ofList

/-- A path of given segments. -/
def joinSegments (segments : List String) : String :=
  -- Segments are kept as they are spelled.
  String.intercalate "/" segments

/-- Whether a path starts at the root. -/
def isAbsolutePath (path : String) : Bool :=
  -- Only the first character counts.
  path.toList.head? == some '/'

/-- Whether a segment does not move: it is empty, or a dot that does not start the path. -/
def isIdleSegment (position : Nat) (segment : String) : Bool :=
  -- A leading dot is a name of the working directory.
  segment == "" || (segment == "." && position != 0)

/-- The segments of a path without the idle ones at the end. -/
def trimIdle (segments : List String) : List String :=
  -- Positions are counted from the front, so the segments are numbered first.
  ((segments.zipIdx.reverse.dropWhile fun (segment, position) => isIdleSegment position segment).reverse).map (·.1)

/-- The directory of a path as it is spelled, if the path has a last name. -/
def parentPath? (path : String) : Option String :=
  -- Idle segments at the end and before the last name are dropped.
  match (trimIdle (pathSegments path)).reverse with
  | [] => none
  | _ :: before =>
    let kept := trimIdle before.reverse
    if kept.isEmpty then some (if isAbsolutePath path then "/" else "") else some (joinSegments kept)

/-- A path seen from a directory. -/
def joinPath (directory path : String) : String :=
  -- An absolute path does not depend on the directory.
  if isAbsolutePath path || directory == "" then path
  else if directory.toList.getLast? == some '/' then directory ++ path
  else directory ++ "/" ++ path

/-- A target path seen from the directory of the file that names it. -/
def resolvePath (source target : String) : String :=
  -- A file without a directory leaves the target as it is.
  if isAbsolutePath target then target
  else match parentPath? source with
    | some directory => joinPath directory target
    | none => target

/-- The last name of a path. -/
def fileName? (path : String) : Option String :=
  -- Neither the root nor a step upwards is a name.
  match (trimIdle (pathSegments path)).getLast? with
  | some name => if name == ".." || name == "." then none else some name
  | none => none

/-- The last name of a path without its extension. -/
def fileStem? (path : String) : Option String :=
  -- A dot that starts the name starts no extension.
  (fileName? path).map fun name =>
    match (splitAt '.' name.toList).reverse with
    | _ :: part :: parts =>
      let stem := String.ofList (List.intercalate ['.'] (part :: parts).reverse)
      if stem == "" then name else stem
    | _ => name

end Phrasebook
