import Std.Data.TreeMap
import RecordBean.Path

/-! # File trees

Directories and regular files, seen from a working directory: what a path means, reading files, and
the two changes that writing sources makes, new directories and replaced files. There are no links.
-/

namespace RecordBean

inductive IoFailure where
  | notFound
  | notADirectory
  | isADirectory
  | alreadyExists
  /-- A file that is wanted as text does not hold text. -/
  | invalidData
  /-- A path or one of its names is longer than a file system takes. -/
  | nameTooLong
  /-- No path can hold the character U+0000. -/
  | nulInPath
  /-- Any other failure, by its description. -/
  | other (description : String)
deriving DecidableEq, Repr

def IoFailure.message : IoFailure → String
  | .notFound => "No such file or directory (os error 2)"
  | .notADirectory => "Not a directory (os error 20)"
  | .isADirectory => "Is a directory (os error 21)"
  | .alreadyExists => "File exists (os error 17)"
  | .invalidData => "stream did not contain valid UTF-8"
  | .nameTooLong => "File name too long (os error 36)"
  | .nulInPath => "file name contained an unexpected NUL byte"
  | .other description => description

inductive Content where
  | text (value : String)
  /-- Bytes that are no text in UTF-8. -/
  | binary (bytes : List UInt8)
deriving DecidableEq

/-- The content that bytes make up. -/
def Content.ofBytes (bytes : ByteArray) : Content :=
  match String.fromUTF8? bytes with
  | some value => .text value
  | none => .binary bytes.toList

/-- What a name in a directory stands for. -/
inductive FileNode where
  | directory
  | file (content : Content)
deriving DecidableEq

/-- A place in the tree, by the names that lead to it from the root. -/
abbrev Location := List String

/-- A tree of files with a working directory, which exists with all directories above it. -/
structure FileTree where
  nodes : Std.TreeMap Location FileNode
  here : Location

namespace FileTree

def empty (here : Location) : FileTree := ⟨∅, here⟩

def node? (t : FileTree) (l : Location) : Option FileNode :=
  if l.isPrefixOf t.here then some .directory else t.nodes[l]?

def isDirectory (t : FileTree) (l : Location) : Bool := t.node? l == some .directory

/-- Where a path starts. -/
def start (t : FileTree) (path : String) : Location := if Path.isAbsolute path then [] else t.here

/-- How many bytes a name may have. -/
def nameLimit : Nat := 255

/-- How many bytes a path may have, counted as it is written. -/
def pathLimit : Nat := 4095

/-- What no path may be, wherever it leads. -/
def pathFault? (path : String) : Option IoFailure :=
  if path.toList.contains '\x00' then some .nulInPath
  else if pathLimit < path.utf8ByteSize then some .nameTooLong
  else none

def child (l : Location) (name : String) : Except IoFailure Location :=
  if nameLimit < name.utf8ByteSize then .error .nameTooLong else .ok (l ++ [name])

/-- Go down through existing directories. -/
def enter (t : FileTree) : Location → List String → Except IoFailure Location
  | l, [] => .ok l
  | l, s :: rest =>
    if s = Path.up then enter t l.dropLast rest
    else do
      let inner ← child l s
      match t.node? inner with
      | none => .error .notFound
      | some (.file _) => .error .notADirectory
      | some .directory => enter t inner rest

/-- The location that a path leads to. Only the directories on the way have to exist. -/
def locate (t : FileTree) (path : String) : Except IoFailure Location :=
  let steps := Path.steps path
  match pathFault? path, steps.getLast? with
  | some failure, _ => .error failure
  | none, none => .ok (t.start path)
  | none, some last => do
    if last = Path.up then t.enter (t.start path) steps
    else child (← t.enter (t.start path) steps.dropLast) last

/-! ## Reading -/

def find (t : FileTree) (path : String) : Except IoFailure FileNode := do
  if path.isEmpty then .error .notFound
  match t.node? (← t.locate path) with
  | none => .error .notFound
  | some (.file content) =>
    if Path.namesDirectory path then .error .notADirectory else .ok (.file content)
  | some .directory => .ok .directory

/-- Whether a path stands for a regular file. -/
def isFile (t : FileTree) (path : String) : Bool :=
  match t.find path with
  | .ok (.file _) => true
  | _ => false

def readText (t : FileTree) (path : String) : Except IoFailure String :=
  match t.find path with
  | .error e => .error e
  | .ok .directory => .error .isADirectory
  | .ok (.file (.binary _)) => .error .invalidData
  | .ok (.file (.text text)) => .ok text

/-! ## Writing -/

def put (t : FileTree) (l : Location) (n : FileNode) : FileTree :=
  { t with nodes := t.nodes.insert l n }

/-- Go down and make the directories that are missing; `made` tells whether one has been made. A
failure can leave new directories behind. A file on the way is reported as something that exists if
it stands where a directory is to be made, which is at the end of the path and behind new
directories, and else as something that is no directory. -/
def makeOnWay (t : FileTree) (made : Bool) (l : Location) :
    List String → FileTree × Except IoFailure Location
  | [] => (t, .ok l)
  | s :: rest =>
    if s = Path.up then t.makeOnWay made l.dropLast rest
    else
      match child l s with
      | .error e => (t, .error e)
      | .ok inner =>
        match t.node? inner with
        | some .directory => t.makeOnWay made inner rest
        | some (.file _) =>
          (t, .error (if made || rest.isEmpty then .alreadyExists else .notADirectory))
        | none => (t.put inner .directory).makeOnWay true inner rest

/-- Make a directory with all directories above it that are missing. -/
def makeDirectories (t : FileTree) (path : String) : FileTree × Except IoFailure Location :=
  match pathFault? path with
  | some e => (t, .error e)
  | none => t.makeOnWay false (t.start path) (Path.steps path)

/-- A path from the root on. -/
def absolute (t : FileTree) (path : String) : String :=
  Path.join ("/" ++ Text.joined "/" t.here) path

/-- How many bytes the name of a draft has. -/
def draftNameSize : Nat := 10

/-- Whether a draft can lie in a directory: its path from the root on must not be too long. -/
def hasRoomForDraft (t : FileTree) (directory : String) : Bool :=
  decide ((Path.join (t.absolute directory) "").utf8ByteSize + draftNameSize ≤ pathLimit)

/-- Write a text to a file, with all directories above it. The text is written to a draft beside the
file, which then takes its place, so that a failure changes no file. -/
def writeText (t : FileTree) (path text : String) : FileTree × Option IoFailure :=
  let directory := Path.parent path
  match t.makeDirectories directory with
  | (t, .error e) => (t, some e)
  | (t, .ok _) =>
    if !t.hasRoomForDraft directory then (t, some .nameTooLong)
    else
      match t.locate path with
      | .error e => (t, some e)
      | .ok l =>
        if t.isDirectory l then (t, some .isADirectory) else (t.put l (.file (.text text)), none)

/-! ## Listing -/

/-- The tree with something more below the working directory, at a relative path and with all
directories above it. -/
def place (t : FileTree) (path : String) (n : FileNode) : FileTree :=
  let t := (t.makeDirectories (Path.parent path)).1
  match t.locate path with
  | .error _ => t
  | .ok l => t.put l n

/-- All that lies below the working directory, by relative path; directories end in a slash. -/
def listing (t : FileTree) : List (String × FileNode) :=
  t.nodes.toList.filterMap fun (l, n) =>
    if t.here.isPrefixOf l && l != t.here then
      let path := Text.joined "/" (l.drop t.here.length)
      some (if n = .directory then path ++ "/" else path, n)
    else none

/-- What a tree lists that an earlier one does not list in the same way. -/
def changes (before after : FileTree) : List (String × FileNode) :=
  let old := before.listing
  after.listing.filter fun entry => !old.contains entry

end FileTree

end RecordBean
