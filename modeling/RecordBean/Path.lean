import RecordBean.Text.Lines

/-! # Paths

Paths as text, joined part by part and taken apart into steps. A path that begins with a slash is
absolute; empty steps and steps to the directory itself lead nowhere and are dropped.
-/

namespace RecordBean.Path

/-- The pieces between separators; there is always at least one. -/
def splitChars (separator : Char) : List Char → List (List Char)
  | [] => [[]]
  | c :: rest =>
    if c = separator then [] :: splitChars separator rest
    else
      match splitChars separator rest with
      | [] => [[c]]
      | piece :: pieces => (c :: piece) :: pieces

def split (separator : Char) (text : String) : List String :=
  (splitChars separator text.toList).map String.ofList

def isAbsolute (path : String) : Bool := path.toList.head? == some '/'

/-- Whether the next part can be put behind a path without a slash. -/
def isOpenEnded (path : String) : Bool := path.isEmpty || path.toList.getLast? == some '/'

/-- Put a part behind a path. An absolute part replaces the path, and an empty one only ends it with
a slash. -/
def join (path part : String) : String :=
  if isAbsolute part then part
  else if isOpenEnded path then path ++ part
  else path ++ "/" ++ part

/-- Whether a piece of a path leads anywhere. -/
def isStep (piece : String) : Bool := piece != "" && piece != "."

def steps (path : String) : List String := (split '/' path).filter isStep

/-- The step to the directory above. -/
def up : String := ".."

/-- Whether a path can only mean a directory, by the way it ends. -/
def namesDirectory (path : String) : Bool :=
  match (split '/' path).getLast? with
  | some last => (last == "" || last == ".") && path != ""
  | none => false

/-- The path without its last step and without what leads nowhere in front of that; the pieces that
are left stay as they are written. -/
def parent (path : String) : String :=
  let pieces := (split '/' path).reverse.dropWhile (!isStep ·)
  let above := (pieces.drop 1).dropWhile (!isStep ·)
  if above.isEmpty && isAbsolute path then "/" else Text.joined "/" above.reverse

/-- Whether a path shows what lies above the place it leads to. The empty path and the root directory
do not. -/
def hasParent (path : String) : Bool :=
  !(steps path).isEmpty || (split '/' path).head? == some "."

/-- The last step of a path, unless it leads up. -/
def fileName? (path : String) : Option String :=
  (steps path).getLast?.filter (· != up)

/-- The last piece of a file name behind a dot. A dot at the front of the name does not count. -/
def suffix? (path : String) : Option String := do
  let pieces := split '.' (← fileName? path)
  match pieces with
  | [_] => none
  | ["", _] => none
  | pieces => pieces.getLast?

/-- Where a class of a package belongs below a root directory. -/
def ofClass (root : String) (package : Option String) (className : String) : String :=
  let directory := match package with
    | some p => (split '.' p).foldl join root
    | none => root
  join directory (className ++ ".java")

end RecordBean.Path
