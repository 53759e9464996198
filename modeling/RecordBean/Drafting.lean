import RecordBean.Emission

/-! # Drafts

Writing a file by way of a draft: the text goes to a new file beside the one that is wanted, which
then takes its place, and a draft that cannot be finished is thrown away. What a disk does at every
step is left open; a tree of files without any other trouble is one such disk.
-/

namespace RecordBean

/-- What a disk does for a file that is written. Every step but throwing a draft away can fail. -/
structure Disk where
  makeDirectories : FileTree → String → FileTree × Option IoFailure
  /-- Open a new file in a directory. -/
  openDraft : FileTree → String → FileTree × Except IoFailure Location
  /-- Write a text to a draft. -/
  fill : FileTree → Location → String → FileTree × Option IoFailure
  /-- Let a draft take the place of the file that a path leads to. -/
  publish : FileTree → Location → String → FileTree × Option IoFailure
  discard : FileTree → Location → FileTree

/-- Write a text to a file by way of a draft, with all directories above it. -/
def Disk.writeText (disk : Disk) (t : FileTree) (path text : String) :
    FileTree × Option IoFailure :=
  match disk.makeDirectories t (Path.parent path) with
  | (t, some e) => (t, some e)
  | (t, none) =>
    match disk.openDraft t (Path.parent path) with
    | (t, .error e) => (t, some e)
    | (t, .ok draft) =>
      match disk.fill t draft text with
      | (t, some e) => (disk.discard t draft, some e)
      | (t, none) =>
        match disk.publish t draft path with
        | (t, some e) => (disk.discard t draft, some e)
        | (t, none) => (t, none)

namespace FileTree

/-- Take away what stands at a place. -/
def remove (t : FileTree) (l : Location) : FileTree := { t with nodes := t.nodes.erase l }

/-- A new and empty file in a directory, under the first of some names that is free. -/
def openDraft (names : List String) (t : FileTree) (directory : String) :
    FileTree × Except IoFailure Location :=
  if !t.hasRoomForDraft directory then (t, .error .nameTooLong)
  else
    match t.locate directory with
    | .error e => (t, .error e)
    | .ok l =>
      match names.find? fun name => (t.node? (l ++ [name])).isNone with
      | none => (t, .error .alreadyExists)
      | some name => (t.put (l ++ [name]) (.file (.text "")), .ok (l ++ [name]))

/-- Move a file to the place that a path leads to. Only a directory there is in the way. -/
def publish (t : FileTree) (draft : Location) (path : String) : FileTree × Option IoFailure :=
  match t.locate path, t.node? draft with
  | .error e, _ => (t, some e)
  | .ok _, none => (t, some .notFound)
  | .ok l, some n =>
    if t.isDirectory l then (t, some .isADirectory) else ((t.remove draft).put l n, none)

/-- A tree of files as a disk. -/
def disk (names : List String) : Disk where
  makeDirectories t directory :=
    match t.makeDirectories directory with
    | (t, .error e) => (t, some e)
    | (t, .ok _) => (t, none)
  openDraft := openDraft names
  fill t draft text := (t.put draft (.file (.text text)), none)
  publish := publish
  discard := remove

end FileTree

end RecordBean
