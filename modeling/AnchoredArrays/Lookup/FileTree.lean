import AnchoredArrays.Lookup.Locate

/-!
File trees: directories, files and symbolic links under a root directory, and the place that a
path leads to once all links are followed.

* `FileTree.follow`: the place a path leads to, if it exists;
* `FileTree.isFile`: whether a path leads to a file;
* `FileTree.canonical`: the path of the place a path leads to, the path itself if there is none;
* `FileTree.withDirectories`, `FileTree.withNode`: trees with more in them;
* `FileTree.withCurrent`: the tree with another place where relative paths start.
-/

namespace AnchoredArrays.Lookup

/-- A place in a file tree: the names on the way from the root directory, the last one first. -/
abbrev Place : Type := List String

/-- What there is at a place. -/
inductive Node where
  | directory
  | file
  | link (target : String)
  deriving DecidableEq, Repr

/-- What there is at the places of a file tree, and the place that relative paths start from. The
root directory is always there. -/
structure FileTree where
  nodes : List (Place × Node)
  current : Place

namespace FileTree

/-- The tree that has only the root directory. -/
def bare : FileTree := ⟨[], []⟩

/-- What there is at a place. -/
def node? (tree : FileTree) : Place → Option Node
  | [] => some .directory
  | place => (tree.nodes.find? (·.1 == place)).map (·.2)

/-- The parts of a path between its slashes. -/
def parts (path : String) : List String :=
  (fields '/' path.toList).map String.ofList

/-- The most links that are followed on the way to one place. -/
def linkLimit : Nat := 40

/-- The place that the given parts lead to from the place `here`, which is free of links, when at
most `links` links are followed. A part can be taken only in a directory, and only to what is
`seen` there. -/
def walk (tree : FileTree) (seen : Place → Bool) (links : Nat) (here : Place)
    (pending : List String) : Option Place :=
  match pending with
  | [] => some here
  | part :: rest =>
    if tree.node? here ≠ some .directory then none
    else if part = "" ∨ part = "." then walk tree seen links here rest
    else if part = ".." then walk tree seen links here.tail rest
    else
      match (tree.node? (part :: here)).filter fun _ => seen (part :: here) with
      | none => none
      | some .directory | some .file => walk tree seen links (part :: here) rest
      | some (.link target) =>
        match links with
        | 0 => none
        | links + 1 =>
          if target = "" then none
          else walk tree seen links (if isAbsolute target then [] else here) (parts target ++ rest)
termination_by (links, pending.length)

/-- The place that a path starts from. -/
def start (tree : FileTree) (path : String) : Place :=
  if isAbsolute path then [] else tree.current

/-- The place that a path leads to by what is `seen` on the way. The empty path leads nowhere. -/
def reach (tree : FileTree) (seen : Place → Bool) (path : String) : Option Place :=
  if path = "" then none else tree.walk seen linkLimit (tree.start path) (parts path)

/-- The place that a path leads to. -/
def follow (tree : FileTree) (path : String) : Option Place :=
  tree.reach (fun _ => true) path

/-- The most bytes of a path that can be looked at as it stands. -/
def byteLimit : Nat := 4095

/-- Whether a path leads to a file. A path that is too long does not. -/
def isFile (tree : FileTree) (path : String) : Bool :=
  match tree.follow path with
  | some place => path.utf8ByteSize ≤ byteLimit && tree.node? place == some .file
  | none => false

/-- The tree with directories along the given parts from the place `here` on, and the place that
the parts lead to. Links on the way are followed; what is neither a directory nor a link to one is
in the way of further parts. -/
def enter (tree : FileTree) (here : Place) : List String → Option (FileTree × Place)
  | [] => some (tree, here)
  | part :: rest =>
    match tree.walk (fun _ => true) linkLimit here [part] with
    | some there => enter tree there rest
    | none =>
      if tree.node? here = some .directory ∧ tree.node? (part :: here) = none then
        enter { tree with nodes := (part :: here, .directory) :: tree.nodes } (part :: here) rest
      else
        none

/-- The tree with the directories of a path, as far as that is possible. -/
def withDirectories (tree : FileTree) (path : String) : FileTree :=
  ((tree.enter (tree.start path) (parts path)).map (·.1)).getD tree

/-- The tree with the directories of a path, the last of which is where relative paths start. -/
def withCurrent (tree : FileTree) (path : String) : FileTree :=
  match tree.enter (tree.start path) (parts path) with
  | some (grown, here) => { grown with current := here }
  | none => tree

/-- The tree with a node at a path, where there was nothing, and the directories above it. -/
def withNode (tree : FileTree) (path : String) (node : Node) : FileTree :=
  match tree.enter (tree.start path) (parts path).dropLast, (parts path).getLast? with
  | some (tree, here), some name =>
    if name ∉ ["", ".", ".."] ∧ tree.node? here = some .directory
        ∧ tree.node? (name :: here) = none then
      { tree with nodes := (name :: here, node) :: tree.nodes }
    else
      tree
  | _, _ => tree

/-- The absolute path of a place. -/
def pathOf (place : Place) : String :=
  if place.isEmpty then "/" else place.foldr (fun part path => path ++ "/" ++ part) ""

/-- Whether the path of a place can be looked at. -/
def inReach (place : Place) : Bool :=
  (pathOf place).utf8ByteSize ≤ byteLimit

/-- The path of the place that a path leads to; the path itself if it leads nowhere. It is found
part by part, and each place on the way is looked at by its own path, however long the given one
is. -/
def canonical (tree : FileTree) (path : String) : String :=
  ((tree.reach inReach path).map pathOf).getD path

end FileTree

end AnchoredArrays.Lookup
