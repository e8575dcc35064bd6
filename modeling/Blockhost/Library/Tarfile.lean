import Blockhost.Library.LinkTree
import Blockhost.Library.Result
import Mathlib.Data.List.Sort

/-! The extraction of tar archives into a tree with links. Members are made one after the other,
each under its name as the system follows it at that moment. What is created, replaced or gets
new permissions is noted.
-/

namespace Library

-- Archives

/-- The types of members; `otherFile` stands for all that are made as regular files although they
do not have the type of one.
-/
inductive MemberType where
  | regular
  | otherFile
  | directory
  | symlink
  | hardLink
  | fifo
  | device
deriving DecidableEq, Repr

structure TarMember where
  name : String
  type : MemberType
  linkname : String := ""
  mode : Nat := 0o644
deriving DecidableEq, Repr

/-- `os.path.join(path, name)` -/
def tarPath (target : RawPath) (name : String) : RawPath :=
  if isAbsolute name then systemParts name else target ++ systemParts name

-- Volumes

def FileTree.SameFile (tree : LinkTree) (place other : Location) : Prop :=
  ∃ regular also inode, tree.lookup place = some (.file (.node regular inode))
    ∧ tree.lookup other = some (.file (.node also inode))

def FileTree.inode (tree : LinkTree) (place : Location) : Option Nat :=
  match tree.lookup place with
  | some (.file (.node _ inode)) => some inode
  | _ => none

def FileTree.freshInode (tree : LinkTree) : Nat :=
  (tree.support.filterMap tree.inode).foldr max 0 + 1

def FileTree.names (tree : LinkTree) (place : Location) : List Location :=
  match tree.inode place with
  | none => [place]
  | some inode => tree.listing.filter (fun other => tree.inode other = some inode)

/-- Something that was created, replaced or got new permissions, with all names of the file. -/
structure Touch where
  place : Location
  names : List Location

structure Volume where
  tree : LinkTree
  touched : List Touch := []

inductive TarFailure where
  /-- `FileExistsError` -/
  | exists
  /-- Any other error of the system. -/
  | system
  /-- `ExtractError`, which ends a member only. -/
  | extract
  /-- `KeyError` -/
  | key
deriving DecidableEq, Repr

abbrev TarM := EStateM TarFailure Volume

def Volume.touch (volume : Volume) (tree : LinkTree) (place : Location) (names : List Location)
    : Volume where
  tree
  touched := volume.touched ++ [⟨place, names⟩]

-- Calls

/-- `os.path.exists` -/
def FileTree.pathFound (tree : LinkTree) (path : RawPath) : Bool :=
  (tree.find path).any tree.exists?

/-- `os.path.isdir` -/
def FileTree.pathIsDir (tree : LinkTree) (path : RawPath) : Bool :=
  (tree.find path).any tree.isDir

/-- A call that makes a new entry under a name: `mkdir`, `mknod`, `symlink` and others. -/
def makeEntry (put : LinkTree → Location → Option LinkTree) (path : RawPath) : TarM Unit :=
  fun volume =>
    match volume.tree.findName path with
    | none => .error .system volume
    | some place =>
        if volume.tree.exists? place then .error .exists volume
        else
          match put volume.tree place with
          | none => .error .system volume
          | some tree => .ok () (volume.touch tree place [place])

def putLeaf (leaf : LinkTree → Leaf) (tree : LinkTree) (place : Location) : Option LinkTree :=
  tree.writeFile place (leaf tree)

def newFile (regular : Bool) (tree : LinkTree) : Leaf := .node regular tree.freshInode

def mkdir (path : RawPath) : TarM Unit := makeEntry FileTree.makeDirs path

/-- `open(path, "wb")` -/
def openWrite (path : RawPath) : TarM Unit := fun volume =>
  match volume.tree.find path with
  | none => .error .system volume
  | some place =>
      match volume.tree.lookup place with
      | none =>
          match putLeaf (newFile true) volume.tree place with
          | none => .error .system volume
          | some tree => .ok () (volume.touch tree place [place])
      | some (.file (.node _ _)) =>
          .ok () (volume.touch volume.tree place (volume.tree.names place))
      | some _ => .error .system volume

/-- `chmod`, for what is there. -/
def chmod (path : RawPath) : TarM Unit := fun volume =>
  match (volume.tree.find path).filter volume.tree.exists? with
  | none => .error .extract volume
  | some place => .ok () (volume.touch volume.tree place (volume.tree.names place))

def unlinkName (path : RawPath) : TarM Unit := fun volume =>
  match (volume.tree.findName path).filter volume.tree.isFile with
  | none => .error .system volume
  | some place => .ok () (volume.touch (volume.tree.remove place) place [place])

/-- `os.link`, which gives another name to a file or to a symbolic link. -/
def linkName (source path : RawPath) : TarM Unit := fun volume =>
  match (volume.tree.findName source).bind volume.tree.lookup with
  | some (.file leaf) => makeEntry (putLeaf fun _ => leaf) path volume
  | _ => .error .system volume

/-- `os.makedirs`, for a path from its last name up. -/
def makedirs : RawPath → TarM Unit
  | [] => mkdir []
  | last :: above => fun volume =>
      if above ≠ [] ∧ volume.tree.pathFound above.reverse = false then
        match makedirs above volume with
        | .ok _ next | .error .exists next =>
            if last = "." then .ok () next else mkdir (last :: above).reverse next
        | .error failure next => .error failure next
      else mkdir (last :: above).reverse volume

-- Members

/-- What remains to be done: make a member under a path, set the attributes of what is there, and
two things that programs do after an extraction. The source of a hard link is known only for a
member that is not extracted in place of another one.
-/
inductive TarTask where
  | make (member : TarMember) (path : RawPath) (source : Option RawPath)
    (setAttributes : Bool)
  | attributes (path : RawPath)
  /-- `chmod` for a regular file, if there is one. -/
  | chmodFile (path : RawPath)
  /-- `write_text`, if something holds of what is there. -/
  | writeText (path : RawPath) (wanted : LinkTree → Bool)

def TarTask.path : TarTask → RawPath
  | .make _ path _ _ | .attributes path | .chmodFile path | .writeText path _ => path

/-- Directories that are not in the archive. -/
def makeUpper (path : RawPath) : TarM Unit := fun volume =>
  if volume.tree.pathFound path.dropLast then .ok () volume
  else makedirs path.dropLast.reverse volume

/-- A directory that is there already will do. -/
def acceptDirectory (path : RawPath) (failure : TarFailure) : TarM Unit := fun volume =>
  if failure = .exists ∧ volume.tree.pathIsDir path then .ok () volume else .error failure volume

def makeDirectory (path : RawPath) : TarM Unit := tryCatch (mkdir path) (acceptDirectory path)

/-- Remove what is under a name, if anything is. -/
def clearName (path : RawPath) : TarM Unit := fun volume =>
  if (volume.tree.findName path).any volume.tree.exists? then unlinkName path volume
  else .ok () volume

def makeSymlink (text : String) (path : RawPath) : TarM Unit := do
  clearName path
  refuse (text = "") .system
  makeEntry (putLeaf fun _ => .link text) path

section Tasks

-- The member that the library extracts in place of a link that cannot be made. Releases differ in
-- how they choose it, so it is any.
variable (referenced : TarMember → Option TarMember)

/-- A link, or a copy of what it refers to; without that the failure is `absent`. -/
def orCopy (member : TarMember) (path : RawPath) (absent : TarFailure) (link : TarM Unit)
    : TarM (List TarTask) :=
  tryCatch (do link; return []) fun _ =>
    match referenced member with
    | none => throw absent
    | some other => return [.make other path none true]

def makeHardLink (member : TarMember) (path : RawPath) (source : Option RawPath)
    : TarM (List TarTask) := fun volume =>
  match source with
  | none => orCopy referenced member path .extract (throw .system) volume
  | some source =>
      if volume.tree.pathFound source then
        orCopy referenced member path .extract (linkName source path) volume
      else orCopy referenced member path .key (throw .system) volume

def makeMember (member : TarMember) (path : RawPath) (source : Option RawPath)
    : TarM (List TarTask) :=
  match member.type with
  | .regular | .otherFile => do
      openWrite path
      return []
  | .directory => do
      makeDirectory path
      return []
  | .fifo | .device => do
      makeEntry (putLeaf (newFile false)) path
      return []
  | .symlink => orCopy referenced member path .extract (makeSymlink member.linkname path)
  | .hardLink => makeHardLink referenced member path source

/-- `chmod` for a regular file, if there is one. -/
def chmodRegular (path : RawPath) : TarM Unit := fun volume =>
  match (volume.tree.find path).bind volume.tree.lookup with
  | some (.file (.node true _)) => chmod path volume
  | _ => .ok () volume

def writeIf (wanted : LinkTree → Bool) (path : RawPath) : TarM Unit := fun volume =>
  if wanted volume.tree then openWrite path volume else .ok () volume

/-- Do a task; what follows from it is done before anything else. -/
def TarTask.perform : TarTask → TarM (List TarTask)
  | .make member path source setAttributes => do
      makeUpper path
      let copies ← makeMember referenced member path source
      return copies ++ if setAttributes ∧ member.type ≠ .symlink then [.attributes path] else []
  | .attributes path => do
      chmod path
      return []
  | .chmodFile path => do
      chmodRegular path
      return []
  | .writeText path wanted => do
      writeIf wanted path
      return []

-- Extractions

structure Extraction where
  volume : Volume
  current : List TarTask := []
  later : List TarTask := []
  raised : Option TarFailure := none

def Extraction.finished (state : Extraction) : Bool :=
  state.current.isEmpty && state.later.isEmpty

/-- An `ExtractError` ends the tasks of the current member, and any other error everything. -/
def Extraction.step (state : Extraction) : Extraction :=
  match state.current, state.later with
  | [], [] => state
  | [], task :: later => { state with current := [task], later }
  | task :: rest, _ =>
      match TarTask.perform referenced task state.volume with
      | .ok copies volume => { state with volume, current := copies ++ rest }
      | .error .extract volume => { state with volume, current := [] }
      | .error failure volume => { volume, raised := some failure }

end Tasks

/-- The tasks of `extractall`: all members that the filter lets through, and then the attributes of
the directories.
-/
def extractAll (target : RawPath) (filter : TarMember → Bool) (members : List TarMember)
    : List TarTask :=
  let kept := members.filter filter
  let directories := kept.filter (fun member => member.type = .directory)
  kept.map (fun member =>
      .make member (tarPath target member.name)
        (if member.type = .hardLink then some (tarPath target member.linkname) else none)
        (member.type ≠ .directory))
    ++ (directories.insertionSort (fun left right => right.name ≤ left.name)).map (fun member =>
      .attributes (tarPath target member.name))

end Library
