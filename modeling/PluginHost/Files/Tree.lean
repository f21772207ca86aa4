import PluginHost.Library.Image
import PluginHost.Library.Location

namespace PluginHost

/-- A place in a file tree, told by the names that lead to it from the root. -/
abbrev FilePlace := List (List UInt8)

inductive FileNode (M : Type) where
  | folder
  | file (bytes : List UInt8)
  /-- a file that opens as a library -/
  | library (image : Image M)

def FileNode.isFolder {M : Type} : FileNode M → Bool
  | folder => true
  | file _ | library _ => false

/-- A file tree in memory, in which a host can run without a disk. A path is followed name by name, and
each step must start from a directory, also a step up. -/
structure FileTree (M : Type) where
  /-- the directory that relative paths start from -/
  home : Path
  nodes : List (FilePlace × FileNode M) := [([], .folder)]

namespace FileTree

variable {M : Type}

def at? (t : FileTree M) (place : FilePlace) : Option (FileNode M) := t.nodes.lookup place

def erase (t : FileTree M) (place : FilePlace) : FileTree M :=
  { t with nodes := t.nodes.filter (·.1 ≠ place) }

def put (t : FileTree M) (place : FilePlace) (node : FileNode M) : FileTree M :=
  { t with nodes := (place, node) :: (t.erase place).nodes }

/-- Makes a directory in a place where nothing is. -/
def makeFolder (t : FileTree M) (place : FilePlace) : FileTree M :=
  if (t.at? place).isSome then t else t.put place .folder

/-- Whether a directory is in a place. -/
def isFolderAt (t : FileTree M) (place : FilePlace) : Bool := (t.at? place).any (·.isFolder)

/-- Follows the rest of a path from a place and makes the directories that are missing on it. -/
def reach? (t : FileTree M) (place : FilePlace) :
    List Path.Component → Option (FilePlace × FileTree M)
  | [] => if t.isFolderAt place then some (place, t) else none
  | step :: rest =>
    if t.isFolderAt place then
      match step with
      | .parent => t.reach? place.dropLast rest
      | .normal name => (t.makeFolder (place ++ [name])).reach? (place ++ [name]) rest
      | .root | .current => t.reach? place rest
    else none

/-- Where the rest of a path leads from a place. -/
def follow? (t : FileTree M) (place : FilePlace) : List Path.Component → Option FilePlace
  | [] => some place
  | step :: rest =>
    if t.isFolderAt place then
      match step with
      | .parent => t.follow? place.dropLast rest
      | .normal name => t.follow? (place ++ [name]) rest
      | .root | .current => t.follow? place rest
    else none

/-- Whether a path asks for a directory by the way it ends. -/
def asksFolder (p : Path) : Bool :=
  match p.bytes.reverse with
  | last :: before =>
    last = Path.slash || (last = Path.dot && before.head? == some Path.slash)
  | [] => false

/-- Makes a directory under a path, with those on the way to it. -/
def putFolder (t : FileTree M) (p : Path) : FileTree M :=
  ((t.reach? [] (t.home.join p).components).map (·.2)).getD t

/-- Puts a file under a path, with the directories on the way to it, unless a directory is there. -/
def putFile (t : FileTree M) (p : Path) (node : FileNode M) : FileTree M :=
  let steps := (t.home.join p).components
  match steps.getLast?, t.reach? [] steps.dropLast with
  | some (.normal name), some (folder, t) =>
    let place := folder ++ [name]
    if t.isFolderAt place || asksFolder p then t else t.put place node
  | _, _ => t

/-- Puts a node under a path. -/
def putAt (t : FileTree M) (p : Path) (node : FileNode M) : FileTree M :=
  if node.isFolder then t.putFolder p else t.putFile p node

/-- What is under a path, and where. -/
def resolve? (t : FileTree M) (p : Path) : Option (FilePlace × FileNode M) := do
  guard (p.bytes ≠ [] ∧ p.isFollowed)
  let place ← t.follow? [] (t.home.join p).components
  let node ← t.at? place
  guard (node.isFolder || !asksFolder p)
  return (place, node)

/-- Takes away the file under a path. A directory stays. -/
def removeFile (t : FileTree M) (p : Path) : FileTree M :=
  match t.resolve? p with
  | some (place, node) => if node.isFolder then t else t.erase place
  | none => t

/-- The entries of a directory. -/
def entries (t : FileTree M) (p : Path) (place : FilePlace) : List FolderEntry :=
  t.nodes.filterMap fun (other, node) =>
    match other.getLast? with
    | some name =>
      let path := p.join ⟨name⟩
      if other.dropLast = place then some ⟨path, path.isFollowed && !node.isFolder⟩ else none
    | none => none

/-- The tree as an operation sees it. -/
def files (t : FileTree M) : Files where
  contains p := (t.resolve? p).isSome
  readText p :=
    match t.resolve? p with
    | some (_, .file bytes) => (utf8Text? bytes).elim (.error "not a text") .ok
    | some _ => .error "not a text"
    | none => .error "no such file"
  folder? p :=
    match t.resolve? p with
    | some (place, .folder) => some (.ok (t.entries p place))
    | _ => none

/-- The tree as a host sees it. -/
def site (t : FileTree M) : Site M where
  files := t.files
  image p :=
    match (LibraryLocation.ofPath? p).bind t.resolve? with
    | some (_, .library image) => .ok image
    | _ => .error "not a library"

end FileTree

end PluginHost
