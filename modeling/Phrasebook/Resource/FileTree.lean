import Phrasebook.Resource.Path

/-! A file tree is a value: files and directories by their names from the root on. -/

namespace Phrasebook

/-- Why a file cannot be read. -/
inductive FileFault where
  /-- No file has this path. -/
  | missing
  /-- The path names a directory. -/
  | directory
  /-- A file stands where the path needs a directory. -/
  | notDirectory
  /-- A name or the whole path is longer than it may be. -/
  | nameTooLong
  /-- The path holds a character that no path may hold. -/
  | badPath
  /-- The bytes of the file are no text. -/
  | notText
  deriving DecidableEq, Repr

/-- The wording of a file fault. -/
def FileFault.message : FileFault → String
  -- Faults of the system carry their number.
  | .missing => "No such file or directory (os error 2)"
  | .directory => "Is a directory (os error 21)"
  | .notDirectory => "Not a directory (os error 20)"
  | .nameTooLong => "File name too long (os error 36)"
  | .badPath => "file name contained an unexpected NUL byte"
  | .notText => "stream did not contain valid UTF-8"

/-- What a name in a file tree stands for. -/
inductive FileNode where
  /-- A file of bytes. -/
  | file (bytes : ByteArray)
  /-- A directory. -/
  | directory
  deriving Inhabited

/-- Files and directories under one root. -/
structure FileTree where
  /-- The names from the root to the directory that relative paths start from. -/
  working : List String := []
  /-- Everything in the tree, by its names from the root. -/
  nodes : List (List String × FileNode) := []
  deriving Inhabited

namespace FileTree

/-- What stands at given names from the root. -/
def node? (tree : FileTree) (names : List String) : Option FileNode :=
  -- The root and the working directory and all directories above it are always there.
  if names.isPrefixOf tree.working then some .directory
  else (tree.nodes.find? (·.1 == names)).map (·.2)

/-- Put a node at given names, with the directories above it. -/
def insert (tree : FileTree) (names : List String) (node : FileNode) : FileTree :=
  -- A name that is taken keeps what it stands for.
  let above := (List.range names.length).map names.take
  let fresh := ((above.map fun names => (names, FileNode.directory)) ++ [(names, node)]).filter
    fun entry => (tree.node? entry.1).isNone
  { tree with nodes := tree.nodes ++ fresh }

/-- Follow the segments of a path from a directory, names in reverse. -/
def walk (tree : FileTree) (names : List String) : List String → Except FileFault (List String × FileNode)
  -- Every segment but the last must lead to a directory.
  | [] => .ok (names.reverse, .directory)
  | segment :: rest =>
    if segment == "" || segment == "." then walk tree names rest
    else if segment == ".." then walk tree names.tail rest
    else if segment.utf8ByteSize > 255 then .error .nameTooLong
    else match tree.node? (segment :: names).reverse with
      | none => .error .missing
      | some .directory => walk tree (segment :: names) rest
      | some (.file bytes) =>
        if rest.isEmpty then .ok ((segment :: names).reverse, .file bytes) else .error .notDirectory

/-- The number of bytes from which on a path is too long. -/
def pathLimit : Nat := 4096

/-- The names from the root and the node that a path leads to. -/
def locate (tree : FileTree) (path : String) : Except FileFault (List String × FileNode) :=
  -- Relative paths start from the working directory.
  if path == "" then .error .missing
  else if path.toList.contains '\x00' then .error .badPath
  else if pathLimit ≤ path.utf8ByteSize then .error .nameTooLong
  else walk tree (if isAbsolutePath path then [] else tree.working.reverse) (pathSegments path)

/-- The text of the file at a path. -/
def read (tree : FileTree) (path : String) : Except FileFault String :=
  -- Directories have no text, and not all bytes are text.
  match tree.locate path with
  | .error fault => .error fault
  | .ok (_, .directory) => .error .directory
  | .ok (_, .file bytes) =>
    match String.fromUTF8? bytes with
    | some text => .ok text
    | none => .error .notText

/-- The absolute path of names from the root. -/
def absolutePath (names : List String) : String :=
  -- The root itself is a slash.
  "/" ++ joinSegments names

/-- The absolute path of what a path leads to, or the path itself if it leads nowhere. -/
def canonical (tree : FileTree) (path : String) : String :=
  -- Two spellings of one path have the same canonical form.
  match tree.locate path with
  | .ok (names, _) => absolutePath names
  | .error _ => path

/-- Whether a path leads to a directory. -/
def isDirectory (tree : FileTree) (path : String) : Bool :=
  -- A path that leads nowhere does not.
  match tree.locate path with
  | .ok (_, .directory) => true
  | _ => false

/-- The names in a directory, given by its names from the root. -/
def children (tree : FileTree) (names : List String) : List String :=
  -- They are one name longer than the directory.
  tree.nodes.filterMap fun (path, _) =>
    if path.dropLast == names && !path.isEmpty then path.getLast? else none

end FileTree

end Phrasebook
