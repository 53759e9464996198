import RecordBean.Proofs.JsonText
import RecordBean.Toml.Reader

/-! # Trees that both formats hold

TOML and JSON share booleans, integers, texts, lists and tables. A tree of these is what a document
says, whichever of the two formats it is written in. Each format has its own view of a tree: TOML
hands out the members of a table in the order of their keys and has no integers beyond 128 bits,
while JSON keeps the order of the text and takes long integers for floating point numbers. -/

namespace RecordBean.Document
open RecordBean.Decimal RecordBean.Json

inductive Tree where
  | boolean (value : Bool)
  | integer (value : Int)
  | text (value : String)
  | list (items : List Tree)
  | table (members : List (String × Tree))

namespace Tree

/-- To prove something about all trees, it can be taken for granted of the items of a list and of
the members of a table. -/
@[elab_as_elim, induction_eliminator]
theorem induct {P : Tree → Prop} (boolean : ∀ value, P (.boolean value))
    (integer : ∀ value, P (.integer value)) (text : ∀ value, P (.text value))
    (list : ∀ items, (∀ t ∈ items, P t) → P (.list items))
    (table : ∀ members, (∀ m ∈ members, P m.2) → P (.table members)) : ∀ t, P t
  | .boolean value => boolean value
  | .integer value => integer value
  | .text value => text value
  | .list items => list items fun t _ => induct boolean integer text list table t
  | .table members => table members fun (name, t) hm =>
    have hsize : sizeOf t < 1 + sizeOf members := by
      have hmember := List.sizeOf_lt_of_mem hm
      rw [Prod.mk.sizeOf_spec] at hmember
      omega
    induct boolean integer text list table t

def isList : Tree → Bool
  | .list _ => true
  | _ => false

def isTable : Tree → Bool
  | .table _ => true
  | _ => false

/-- What a list holds. -/
def items : Tree → List Tree
  | .list items => items
  | _ => []

/-- What a table holds. -/
def members : Tree → List (String × Tree)
  | .table members => members
  | _ => []

mutual

/-- How deeply lists and tables stand in each other. -/
def depth : Tree → Nat
  | .list items => itemsDepth items + 1
  | .table members => membersDepth members + 1
  | _ => 0

def itemsDepth : List Tree → Nat
  | [] => 0
  | t :: rest => max t.depth (itemsDepth rest)

def membersDepth : List (String × Tree) → Nat
  | [] => 0
  | (_, t) :: rest => max t.depth (membersDepth rest)

end

/-! ## Views -/

mutual

/-- A tree as JSON data. -/
def json : Tree → Json
  | .boolean value => .boolean value
  | .integer value => .number (.integer value)
  | .text value => .text value
  | .list items => .list (jsonItems items)
  | .table members => .object (jsonMembers members)

def jsonItems : List Tree → List Json
  | [] => []
  | t :: rest => t.json :: jsonItems rest

def jsonMembers : List (String × Tree) → List (String × Json)
  | [] => []
  | (name, t) :: rest => (name, t.json) :: jsonMembers rest

end

/-- What decoding gets to see of a tree that is written as JSON. -/
def jsonNode (t : Tree) : Node := t.json.tree

mutual

/-- What decoding gets to see of a tree that is written as TOML. -/
def tomlNode : Tree → Node
  | .boolean value => .boolean value
  | .integer value => Toml.Scalar.integerNode value
  | .text value => .text value
  | .list items => .list (tomlNodes items) none
  | .table members => Toml.tableNode (tomlMembers members)

def tomlNodes : List Tree → List Node
  | [] => []
  | t :: rest => t.tomlNode :: tomlNodes rest

def tomlMembers : List (String × Tree) → List (String × Node)
  | [] => []
  | (name, t) :: rest => (name, t.tomlNode) :: tomlMembers rest

end

theorem jsonNode_list (items : List Tree) :
    (Tree.list items).jsonNode = .list (items.map jsonNode) none := by
  have hitems : trees (jsonItems items) = items.map jsonNode := by
    induction items with
    | nil => rfl
    | cons t items ih => rw [jsonItems, trees, ih]; rfl
  rw [jsonNode, json, tree, hitems]

theorem jsonNode_table (members : List (String × Tree)) :
    (Tree.table members).jsonNode
      = .table (namedEntries (members.map fun m => (m.1, m.2.jsonNode))) none := by
  have hmembers : memberTrees (jsonMembers members)
      = members.map fun m => (m.1, m.2.jsonNode) := by
    induction members with
    | nil => rfl
    | cons m members ih => rw [jsonMembers, memberTrees, ih]; rfl
  rw [jsonNode, json, tree, hmembers]

theorem tomlNode_list (items : List Tree) :
    (Tree.list items).tomlNode = .list (items.map tomlNode) none := by
  have hitems : tomlNodes items = items.map tomlNode := by
    induction items with
    | nil => rfl
    | cons t items ih => rw [tomlNodes, ih]; rfl
  rw [tomlNode, hitems]

theorem tomlMembers_eq_map (members : List (String × Tree)) :
    tomlMembers members = members.map fun m => (m.1, m.2.tomlNode) := by
  induction members with
  | nil => rfl
  | cons m members ih => rw [tomlMembers, ih]; rfl

theorem tomlNode_table (members : List (String × Tree)) :
    (Tree.table members).tomlNode
      = .table (namedEntries (sortMembers (members.map fun m => (m.1, m.2.tomlNode)))) none := by
  rw [tomlNode, tomlMembers_eq_map, Toml.tableNode]

/-! ## Members

Their order does not matter as long as they have names of their own. -/

theorem insertMember_perm {α : Type} (e : String × α) (l : List (String × α)) :
    (insertMember e l).Perm (e :: l) := by
  induction l with
  | nil => exact .refl _
  | cons d l ih =>
    rw [insertMember]
    split
    · exact .refl _
    · exact (ih.cons d).trans (.swap e d l)

theorem sortMembers_perm {α : Type} (l : List (String × α)) : (sortMembers l).Perm l := by
  induction l with
  | nil => exact .refl _
  | cons e l ih => exact (insertMember_perm e _).trans (ih.cons e)

theorem lookup_eq_some_iff_mem {α : Type} {l : List (String × α)} (h : (l.map (·.1)).Nodup)
    {name : String} {a : α} : l.lookup name = some a ↔ (name, a) ∈ l := by
  induction l with
  | nil => simp
  | cons e l ih =>
    obtain ⟨key, b⟩ := e
    rw [List.map_cons, List.nodup_cons] at h
    rw [List.lookup_cons, List.mem_cons]
    by_cases heq : name = key
    · subst heq
      have hfresh : (name, a) ∉ l := fun hmem => h.1 (List.mem_map.mpr ⟨_, hmem, rfl⟩)
      simp [hfresh, eq_comm]
    · have hne : (name == key) = false := beq_false_of_ne heq
      simp [hne, heq, ih h.2]

theorem lookup_sortMembers {α : Type} {l : List (String × α)} (h : (l.map (·.1)).Nodup)
    (name : String) : (sortMembers l).lookup name = l.lookup name := by
  have hperm := sortMembers_perm l
  have hsorted : ((sortMembers l).map (·.1)).Nodup := (hperm.map (·.1)).nodup_iff.mpr h
  ext a
  rw [lookup_eq_some_iff_mem hsorted, lookup_eq_some_iff_mem h, hperm.mem_iff]

theorem lookup_map {α β : Type} (f : α → β) (l : List (String × α)) (name : String) :
    (l.map fun m => (m.1, f m.2)).lookup name = (l.lookup name).map f := by
  induction l with
  | nil => rfl
  | cons e l ih =>
    rw [List.map_cons, List.lookup_cons, List.lookup_cons, ih]
    cases name == e.1 <;> rfl

/-! ## Checks -/

mutual

/-- Whether a tree and everything inside it passes a check. -/
def all (p : Tree → Bool) : Tree → Bool
  | .list items => p (.list items) && allItems p items
  | .table members => p (.table members) && allMembers p members
  | t => p t

def allItems (p : Tree → Bool) : List Tree → Bool
  | [] => true
  | t :: rest => t.all p && allItems p rest

def allMembers (p : Tree → Bool) : List (String × Tree) → Bool
  | [] => true
  | (_, t) :: rest => t.all p && allMembers p rest

end

theorem all_list {p : Tree → Bool} {items : List Tree} :
    (Tree.list items).all p = true ↔ p (.list items) = true ∧ ∀ t ∈ items, t.all p = true := by
  have hitems : allItems p items = true ↔ ∀ t ∈ items, t.all p = true := by
    induction items with
    | nil => simp [allItems]
    | cons t items ih => simp [allItems, ih]
  rw [all, Bool.and_eq_true, hitems]

theorem all_table {p : Tree → Bool} {members : List (String × Tree)} :
    (Tree.table members).all p = true
      ↔ p (.table members) = true ∧ ∀ m ∈ members, m.2.all p = true := by
  have hmembers : allMembers p members = true ↔ ∀ m ∈ members, m.2.all p = true := by
    induction members with
    | nil => simp [allMembers]
    | cons m members ih => simp [allMembers, ih]
  rw [all, Bool.and_eq_true, hmembers]

/-- Whether no table of a tree has two members of one name. -/
def isDistinct (t : Tree) : Bool :=
  t.all fun
    | .table members => decide (members.map (·.1)).Nodup
    | _ => true

/-- Whether TOML has all integers of a tree. -/
def isNarrow (t : Tree) : Bool :=
  t.all fun
    | .integer value => decide (-(twoTo 127 : Int) ≤ value ∧ value < twoTo 128)
    | _ => true

theorem isDistinct_list {items : List Tree} :
    (Tree.list items).isDistinct = true ↔ ∀ t ∈ items, t.isDistinct = true := by
  simp [isDistinct, all_list]

theorem isDistinct_table {members : List (String × Tree)} :
    (Tree.table members).isDistinct = true
      ↔ (members.map (·.1)).Nodup ∧ ∀ m ∈ members, m.2.isDistinct = true := by
  simp [isDistinct, all_table]

theorem isNarrow_list {items : List Tree} :
    (Tree.list items).isNarrow = true ↔ ∀ t ∈ items, t.isNarrow = true := by
  simp [isNarrow, all_list]

theorem isNarrow_table {members : List (String × Tree)} :
    (Tree.table members).isNarrow = true ↔ ∀ m ∈ members, m.2.isNarrow = true := by
  simp [isNarrow, all_table]

end Tree

end RecordBean.Document
