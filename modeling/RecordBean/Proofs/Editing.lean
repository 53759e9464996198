import Mathlib.Logic.Relation
import RecordBean.Proofs.Decoding
import RecordBean.Proofs.Tree

/-! # Edits of documents

Much can be changed about a document that says nothing to those who decode it: the members of a
record can change places, a member that the record does not have can come in, and a member can go if
it carries no more than the value that stands for it anyway. Such changes can be made at every record
of a document and one after another, to a value in memory as well as to what decoding gets to see of
a text; and changes of a value in memory show as such changes of what is seen of it. -/

namespace RecordBean.Editing
open RecordBean.Document RecordBean.Json

/-- What stands at a place of a document, as far as there are records in it. -/
inductive Form where
  /-- A value without records. -/
  | plain
  | list (item : Form)
  /-- A value or null. -/
  | optional (content : Form)
  /-- A record with its members: the name of each, the value that stands for it when it is left out,
  if it can be left out, and what stands there. -/
  | record (members : List (String × Option Json × Form))

/-- What trees of one kind are made of. -/
structure Medium (T : Type) where
  list : List T → T
  table : List (String × T) → T
  ofValue : Json → T
  /-- Whether a tree can stand where nothing is wanted. -/
  IsSound : T → Prop

/-- Values that have been read before, all of which are sound. -/
def inMemory : Medium Json := ⟨.list, .object, id, fun _ => True⟩

/-- What decoding gets to see. A text can hold more than there are values, such as numbers beyond
every range. -/
def inDocument : Medium Node where
  list items := .list items none
  table entries := .table (namedEntries entries) none
  ofValue := node
  IsSound n := n.skipFault? = none

variable {T : Type}

/-- A change that says nothing. -/
inductive Edit (m : Medium T) : Form → T → T → Prop
  /-- The members of a record change places. -/
  | reorder {members} {entries entries' : List (String × T)} (h : entries.Perm entries') :
      Edit m (.record members) (m.table entries) (m.table entries')
  /-- A member comes in that the record does not have. -/
  | add {members front behind name t} (hname : name ∉ members.map (·.1)) (ht : m.IsSound t) :
      Edit m (.record members) (m.table (front ++ behind)) (m.table (front ++ (name, t) :: behind))
  /-- A member goes that carries the value that stands for it. -/
  | drop {members front behind name idle form} (h : (name, some idle, form) ∈ members) :
      Edit m (.record members) (m.table (front ++ (name, m.ofValue idle) :: behind))
        (m.table (front ++ behind))
  /-- Something changes inside a member. -/
  | member {members front behind name idle form t t'} (h : (name, idle, form) ∈ members)
      (ht : Edit m form t t') :
      Edit m (.record members) (m.table (front ++ (name, t) :: behind))
        (m.table (front ++ (name, t') :: behind))
  /-- Something changes inside an item. -/
  | item {form front behind t t'} (ht : Edit m form t t') :
      Edit m (.list form) (m.list (front ++ t :: behind)) (m.list (front ++ t' :: behind))
  | content {form t t'} (ht : Edit m form t t') : Edit m (.optional form) t t'

/-- Any number of changes. -/
def Edits (m : Medium T) (form : Form) : T → T → Prop := Relation.ReflTransGen (Edit m form)

namespace Edits
variable {m : Medium T} {form : Form} {members : List (String × Option Json × Form)}
  {name : String} {t t' : T}

theorem trans {u : T} (h : Edits m form t t') (h' : Edits m form t' u) : Edits m form t u :=
  Relation.ReflTransGen.trans h h'

theorem reorder {entries entries' : List (String × T)} (h : entries.Perm entries') :
    Edits m (.record members) (m.table entries) (m.table entries') :=
  .single (.reorder h)

section
variable {front behind : List (String × T)}

theorem add (hname : name ∉ members.map (·.1)) (ht : m.IsSound t) :
    Edits m (.record members) (m.table (front ++ behind)) (m.table (front ++ (name, t) :: behind)) :=
  .single (.add hname ht)

theorem drop {idle : Json} (h : (name, some idle, form) ∈ members) :
    Edits m (.record members) (m.table (front ++ (name, m.ofValue idle) :: behind))
      (m.table (front ++ behind)) :=
  .single (.drop h)

theorem member {idle : Option Json} (h : (name, idle, form) ∈ members) (ht : Edits m form t t') :
    Edits m (.record members) (m.table (front ++ (name, t) :: behind))
      (m.table (front ++ (name, t') :: behind)) :=
  ht.lift (fun u => m.table (front ++ (name, u) :: behind)) fun _ _ hstep => .member h hstep

end

theorem item {front behind : List T} (ht : Edits m form t t') :
    Edits m (.list form) (m.list (front ++ t :: behind)) (m.list (front ++ t' :: behind)) :=
  ht.lift (fun u => m.list (front ++ u :: behind)) fun _ _ hstep => .item hstep

theorem content (ht : Edits m form t t') : Edits m (.optional form) t t' :=
  ht.lift id fun _ _ hstep => .content hstep

end Edits

/-- There is nothing to be changed about null, and nothing becomes null. -/
theorem Edit.ne_null {form : Form} {n n' : Node} (h : Edit inDocument form n n') :
    n ≠ .null ∧ n' ≠ .null := by
  induction h with
  | content _ ih => exact ih
  | _ => exact ⟨nofun, nofun⟩

/-! ## Values in memory

Decoding sees the members of a value in the order of their names, so a change of the value comes to a
few changes of what is seen. -/

mutual

/-- Every value can be passed over. -/
theorem skipFault?_node : ∀ j : Json, j.node.skipFault? = none
  | .null => rfl
  | .boolean _ => rfl
  | .number _ => rfl
  | .text _ => rfl
  | .list items => by
    rw [node, skipFault?_list]
    exact skipFault?_nodes items
  | .object members => by
    rw [node, skipFault?_table]
    intro e he
    exact skipFault?_entryNodes members e ((Tree.sortMembers_perm _).mem_iff.mp he)

theorem skipFault?_nodes : ∀ (items : List Json), ∀ n ∈ nodes items, n.skipFault? = none
  | [] => nofun
  | j :: items => by
    rw [nodes, List.forall_mem_cons]
    exact ⟨skipFault?_node j, skipFault?_nodes items⟩

theorem skipFault?_entryNodes :
    ∀ (members : List (String × Json)), ∀ e ∈ entryNodes members, e.2.skipFault? = none
  | [] => nofun
  | (name, j) :: members => by
    rw [entryNodes, List.forall_mem_cons]
    exact ⟨skipFault?_node j, skipFault?_entryNodes members⟩

end

theorem node_list (items : List Json) :
    (inMemory.list items).node = inDocument.list (items.map node) := by
  have hnodes : nodes items = items.map node := by
    induction items with
    | nil => rfl
    | cons j items ih => rw [nodes, ih, List.map_cons]
  simp only [inMemory, inDocument, node, hnodes]

/-- The members of a value as they are seen. -/
def seen (entries : List (String × Json)) : List (String × Node) :=
  sortMembers (entries.map fun m => (m.1, m.2.node))

theorem node_table (entries : List (String × Json)) :
    (inMemory.table entries).node = inDocument.table (seen entries) := by
  have hentries : entryNodes entries = entries.map fun m => (m.1, m.2.node) := by
    induction entries with
    | nil => rfl
    | cons m entries ih => rw [entryNodes, ih, List.map_cons]
  simp only [inMemory, inDocument, node, hentries, seen]

theorem seen_perm (entries : List (String × Json)) :
    (seen entries).Perm (entries.map fun m => (m.1, m.2.node)) :=
  Tree.sortMembers_perm _

theorem seen_perm_of_perm {entries entries' : List (String × Json)} (h : entries.Perm entries') :
    (seen entries).Perm (seen entries') :=
  ((seen_perm entries).trans (h.map _)).trans (seen_perm entries').symm

/-- A member can be seen in front of all others. -/
theorem seen_middle_perm (front behind : List (String × Json)) (name : String) (j : Json) :
    (seen (front ++ (name, j) :: behind)).Perm ((name, j.node) :: seen (front ++ behind)) := by
  have hrest := (seen_perm (front ++ behind)).symm
  have hall := seen_perm (front ++ (name, j) :: behind)
  rw [List.map_append, List.map_cons] at hall
  rw [List.map_append] at hrest
  exact hall.trans (List.perm_middle.trans (hrest.cons _))

theorem Edit.node {form : Form} {j j' : Json} (h : Edit inMemory form j j') :
    Edits inDocument form j.node j'.node := by
  induction h with
  | reorder hperm =>
    rw [node_table, node_table]
    exact Edits.reorder (seen_perm_of_perm hperm)
  | @add members front behind name j hname _ =>
    rw [node_table, node_table]
    have hadd : Edits inDocument (.record members)
        (inDocument.table ([] ++ seen (front ++ behind)))
        (inDocument.table ([] ++ (name, j.node) :: seen (front ++ behind))) :=
      Edits.add hname (skipFault?_node j)
    exact hadd.trans (Edits.reorder (seen_middle_perm front behind name j).symm)
  | @drop members front behind name idle form hmember =>
    rw [node_table, node_table]
    have hdrop : Edits inDocument (.record members)
        (inDocument.table ([] ++ (name, idle.node) :: seen (front ++ behind)))
        (inDocument.table ([] ++ seen (front ++ behind))) :=
      Edits.drop hmember
    exact (Edits.reorder (seen_middle_perm front behind name idle)).trans hdrop
  | @member members front behind name idle form j j' hmember _ ih =>
    rw [node_table, node_table]
    have hfront : Edits inDocument (.record members)
        (inDocument.table (seen (front ++ (name, j) :: behind)))
        (inDocument.table ([] ++ (name, j.node) :: seen (front ++ behind))) :=
      Edits.reorder (seen_middle_perm front behind name j)
    have hback : Edits inDocument (.record members)
        (inDocument.table ([] ++ (name, j'.node) :: seen (front ++ behind)))
        (inDocument.table (seen (front ++ (name, j') :: behind))) :=
      Edits.reorder (seen_middle_perm front behind name j').symm
    exact (hfront.trans (Edits.member hmember ih)).trans hback
  | item _ ih =>
    rw [node_list, node_list, List.map_append, List.map_append, List.map_cons, List.map_cons]
    exact Edits.item ih
  | content _ ih => exact Edits.content ih

/-- What is done to a value shows as edits of what decoding sees. -/
theorem Edits.node {form : Form} {j j' : Json} (h : Edits inMemory form j j') :
    Edits inDocument form j.node j'.node := by
  induction h with
  | refl => exact .refl
  | tail _ hstep ih => exact ih.trans hstep.node

end RecordBean.Editing
