import Typewire.Path.Relative
import Typewire.Wire.Encode

/-!
# Files and directories

A tree of files around the working directory, as a map from places to contents. Directories are the
places on the way to a file, those that were made, and those that every system has.

A step that the system refuses has a fault as its result. A sequence of steps ends at the first fault,
and what was done before it stays done.
-/
namespace Typewire.Console

/-- What a path leads to. -/
inductive Node where
  | missing
  | directory
  | file (content : Wire.Bytes)
  deriving Repr, DecidableEq, Inhabited

/-- Why the system refuses a step. -/
inductive FileFault where
  /-- Something on the way is not there. -/
  | missing
  /-- The place is taken. -/
  | taken
  /-- Something on the way is a file. -/
  | notDirectory
  /-- The file to be written is a directory. -/
  | isDirectory
  /-- A name or a path is too long. -/
  | tooLong
  /-- A path holds the character that ends paths. -/
  | nullCharacter
  deriving Repr, DecidableEq, Inhabited

/-- A file to be written: its path, its text and the line that reports it. -/
structure Write where
  path : String
  text : String
  notice : String
  deriving Repr, DecidableEq, Inhabited

/-! ### Paths -/

/-- A path without empty and `.` components: the slashes at its start, and its components. -/
structure CleanPath where
  root : String := ""
  parts : List String := []
  deriving Repr, DecidableEq, Inhabited

namespace CleanPath

/-- The slashes at the start of a path: two on their own are kept, more count as one. -/
def rootOf (path : String) : String :=
  match (path.toList.takeWhile (· = '/')).length with
  | 0 => ""
  | 2 => "//"
  | _ => "/"

/-- The components of a path, without empty and `.` ones. -/
def partsOf (path : String) : List String :=
  (Path.components path).filter fun part => part ≠ "" && part ≠ "."

def ofText (path : String) : CleanPath :=
  { root := rootOf path, parts := partsOf path }

/-- The path of a file in a directory. An absolute file path stands for itself. -/
def within (directory fileName : String) : CleanPath :=
  if Path.isAbsolute fileName then ofText fileName
  else { root := rootOf directory, parts := partsOf directory ++ partsOf fileName }

def text (path : CleanPath) : String :=
  if path.root = "" && path.parts.isEmpty then "."
  else path.root ++ String.intercalate "/" path.parts

def parent (path : CleanPath) : CleanPath :=
  { path with parts := path.parts.dropLast }

/-- The longest path that the system takes, in bytes. -/
def pathLimit : Nat := 4095

/-- The longest name that the system takes, in bytes. -/
def nameLimit : Nat := 255

/-- Refuses texts that are no path to the system. -/
def check (path : String) : Except FileFault Unit :=
  if path.toList.contains '\x00' then .error .nullCharacter
  else if pathLimit < path.utf8ByteSize then .error .tooLong
  else .ok ()

end CleanPath

/-- A place in the tree: names from the working directory on. Places above it start with `..`, and
those below the root with `/`. -/
abbrev Place := List String

def Place.up (place : Place) : Place :=
  if place.all (· = "..") then place ++ [".."]
  else if place = ["/"] then place
  else place.dropLast

/-- Whether a place is the working directory or below it. -/
def Place.isInside (place : Place) : Bool :=
  place.head? ≠ some ".." && place.head? ≠ some "/"

/-- The directories right below the root that every system has. -/
def systemDirectories : List String :=
  ["bin", "boot", "dev", "etc", "home", "lib", "media", "mnt", "opt", "proc", "root", "run", "sbin",
   "srv", "sys", "tmp", "usr", "var"]

/-- Whether a place is a directory of every system: the working directory, those above it, the root
and what stands right below. -/
def Place.isGiven (place : Place) : Bool :=
  place.all (· = "..") || place = ["/"] ||
    match place with
    | ["/", name] => systemDirectories.contains name
    | _ => false

/-- The empty file that every system has. -/
def nullDevice : Place :=
  ["/", "dev", "null"]

/-- The contents of files by their places, and the directories that were made. -/
structure FileTree where
  files : List (Place × Wire.Bytes) := []
  directories : List Place := []
  deriving Repr, Inhabited

namespace FileTree

/-- The place of a path by its text alone. -/
def locate (path : String) : Place :=
  if Path.isAbsolute path then "/" :: Path.normalize path else Path.normalize path

def content? (tree : FileTree) (place : Place) : Option Wire.Bytes :=
  if place = nullDevice then some []
  else (tree.files.find? fun entry => entry.1 = place).map Prod.snd

def isDirectory (tree : FileTree) (place : Place) : Bool :=
  place.isGiven || tree.directories.contains place ||
    tree.files.any fun entry => place.isPrefixOf entry.1 && place != entry.1

/-- Requires a place to be a directory. -/
def enter (tree : FileTree) (place : Place) : Except FileFault Unit :=
  if tree.isDirectory place then .ok ()
  else if (tree.content? place).isSome then .error .notDirectory
  else .error .missing

/-- The place of a component seen from a place. -/
def step (place : Place) (component : String) : Except FileFault Place :=
  if component = "" || component = "." then .ok place
  else if component = ".." then .ok place.up
  else if CleanPath.nameLimit < component.utf8ByteSize then .error .tooLong
  else .ok (place ++ [component])

/-- Follows components from a place. Every place that is left must be a directory. -/
def follow (tree : FileTree) (place : Place) : List String → Except FileFault Place
  | [] => .ok place
  | component :: others => do
    tree.enter place
    tree.follow (← step place component) others

/-- Where components start from. -/
def start (root : String) : Place :=
  if root = "" then [] else ["/"]

/-- What a path leads to. A path that the system refuses leads nowhere. -/
def node (tree : FileTree) (path : String) : Node :=
  let found : Except FileFault Place := do
    CleanPath.check path
    if path = "" then .error .missing
    else tree.follow (start (CleanPath.rootOf path)) (Path.components path)
  match found with
  | .error _ => .missing
  | .ok place =>
    match tree.content? place with
    | some content => .file content
    | none => if tree.isDirectory place then .directory else .missing

/-- Makes the directory of a path. The one that holds it must be there. -/
def makeDirectory (tree : FileTree) (path : CleanPath) : Except FileFault FileTree := do
  CleanPath.check path.text
  let parent ← tree.follow (start path.root) path.parts.dropLast
  tree.enter parent
  match path.parts.getLast? with
  | none | some ".." => .error .taken
  | some name =>
    let place ← step parent name
    if (tree.content? place).isSome || tree.isDirectory place then .error .taken
    else return { tree with directories := tree.directories ++ [place] }

/-- Makes the directory of a path unless it is there already. -/
def ensureLast (tree : FileTree) (path : CleanPath) : Except FileFault FileTree :=
  match tree.makeDirectory path with
  | .ok tree => .ok tree
  | .error fault => if tree.node path.text = .directory then .ok tree else .error fault

/-- Makes the directories on the way to a path and its own, given the components in reverse. -/
def ensureReversed (tree : FileTree) (root : String) : List String → FileTree × Option FileFault
  | [] =>
    match tree.ensureLast { root } with
    | .ok tree => (tree, none)
    | .error fault => (tree, some fault)
  | name :: above =>
    let path : CleanPath := { root, parts := (name :: above).reverse }
    match tree.ensureLast path with
    | .ok tree => (tree, none)
    | .error .missing =>
      match tree.ensureReversed root above with
      | (tree, some fault) => (tree, some fault)
      | (tree, none) =>
        match tree.ensureLast path with
        | .ok tree => (tree, none)
        | .error fault => (tree, some fault)
    | .error fault => (tree, some fault)

/-- Makes the directory of a path and those on the way to it, as far as they are missing. -/
def ensureDirectory (tree : FileTree) (path : CleanPath) : FileTree × Option FileFault :=
  tree.ensureReversed path.root path.parts.reverse

def writeFile (tree : FileTree) (path : CleanPath) (content : Wire.Bytes) :
    Except FileFault FileTree := do
  CleanPath.check path.text
  let parent ← tree.follow (start path.root) path.parts.dropLast
  tree.enter parent
  let place ← step parent (path.parts.getLast?.getD ".")
  if tree.isDirectory place then .error .isDirectory
  else return {
    tree with files := tree.files.filter (fun entry => entry.1 != place) ++ [(place, content)] }

/-- Writes one file, after the directories on the way to it. -/
def write (tree : FileTree) (file : Write) : FileTree × Option FileFault :=
  let path := CleanPath.ofText file.path
  match tree.ensureDirectory path.parent with
  | (tree, some fault) => (tree, some fault)
  | (tree, none) =>
    match tree.writeFile path (Wire.encodeText file.text) with
    | .ok tree => (tree, none)
    | .error fault => (tree, some fault)

/-- The result of a series of writes. -/
structure Written where
  tree : FileTree
  /-- What was written. -/
  complete : List Write := []
  /-- Why the series ended before its end. -/
  fault : Option FileFault := none
  deriving Inhabited

/-- Writes files one after the other, up to the first that fails. -/
def writeAll (tree : FileTree) : List Write → Written
  | [] => { tree }
  | file :: others =>
    match tree.write file with
    | (tree, some fault) => { tree, fault := some fault }
    | (tree, none) =>
      let result := writeAll tree others
      { result with complete := file :: result.complete }

end FileTree

end Typewire.Console
