import RecordBean.Json

/-! # TOML tables

Tables while a document is read. How a table came to be decides what may be added to it: a table
opened by a header is complete but for subtables of its own headers, one implied by a longer header
can still be opened once, and one implied by a dotted key grows by dotted keys only. Arrays and
inline tables are values and never grow.
-/

namespace RecordBean.Toml
open RecordBean.Document

/-- How a table came to be. -/
inductive Origin where
  /-- By a header of its own; the root counts as such a table. -/
  | header
  /-- By a longer header that goes through it. -/
  | implied
  /-- By a dotted key that goes through it. -/
  | dotted
deriving DecidableEq, Repr

inductive Entry where
  | value (n : Node)
  | table (origin : Origin) (entries : List (String × Entry))
  /-- A list of tables, of which the last one is open. -/
  | tables (earlier : List Node) (last : List (String × Entry))

/-- The entries of a table, with distinct keys. -/
abbrev Entries := List (String × Entry)

/-- A finished table, with its entries in the order of their keys. -/
def tableNode (entries : List (String × Node)) : Node :=
  .table (Json.namedEntries (Json.sortMembers entries)) none

mutual

def Entry.node : Entry → Node
  | .value n => n
  | .table _ entries => tableNode (entryNodes entries)
  | .tables earlier last => .list (earlier ++ [tableNode (entryNodes last)]) none

def entryNodes : List (String × Entry) → List (String × Node)
  | [] => []
  | (key, e) :: rest => (key, e.node) :: entryNodes rest

end

namespace Entries

/-- Put another entry under a key that has one. -/
def replace (key : String) (e : Entry) (entries : Entries) : Entries :=
  entries.map fun (k, old) => if k = key then (k, e) else (k, old)

/-- Change the table at the end of a path, which is followed through the last table of every list of
tables. Tables missing on the way are made, as implied by a dotted key or by a header. A dotted key
does not lead through a table with a header of its own. -/
def modify (dotted : Bool) (change : Origin → Entries → Option Entries) :
    List String → Origin → Entries → Option Entries
  | [], origin, entries => change origin entries
  | key :: path, _, entries =>
    match entries.lookup key with
    | none =>
      let origin := if dotted then Origin.dotted else .implied
      (modify dotted change path origin []).map fun inner =>
        entries ++ [(key, .table origin inner)]
    | some (.table origin inner) =>
      if dotted && origin == .header then none
      else (modify dotted change path origin inner).map fun inner =>
        entries.replace key (.table origin inner)
    | some (.tables earlier last) =>
      (modify dotted change path .header last).map fun last =>
        entries.replace key (.tables earlier last)
    | some (.value _) => none

/-- Add a value under a dotted key, given as its path and its last part. Dotted keys add to tables
implied by dotted keys and plain keys to all others; no key is given twice. -/
def addValue (path : List String) (key : String) (n : Node) (origin : Origin)
    (entries : Entries) : Option Entries :=
  modify true (fun origin entries =>
    if (origin == .dotted) == path.isEmpty then none
    else if (entries.lookup key).isSome then none
    else some (entries ++ [(key, .value n)])) path origin entries

/-- Open the table of a header. It must be new or implied by a longer header. -/
def openTable (path : List String) (key : String) (root : Entries) : Option Entries :=
  modify false (fun _ entries =>
    match entries.lookup key with
    | none => some (entries ++ [(key, .table .header [])])
    | some (.table .implied inner) => some (entries.replace key (.table .header inner))
    | some _ => none) path .header root

def openElement (path : List String) (key : String) (root : Entries) : Option Entries :=
  modify false (fun _ entries =>
    match entries.lookup key with
    | none => some (entries ++ [(key, .tables [] [])])
    | some (.tables earlier last) =>
      some (entries.replace key (.tables (earlier ++ [tableNode (entryNodes last)]) []))
    | some _ => none) path .header root

end Entries

end RecordBean.Toml
