import RecordBean.HostType

/-! # Catalogs

An ordered list of host types with distinct names. A catalog is looked up by qualified name, or by
a name as it is written in a package.
-/

namespace RecordBean

/-- Host types with distinct names, in order. -/
structure Catalog where
  types : List HostType
  distinct : (types.map (·.name)).Nodup

namespace Catalog

/-- The first name that repeats an earlier one; `earlier` holds the names already passed. -/
def firstRepeat? (earlier : List String) : List String → Option String
  | [] => none
  | n :: rest => if n ∈ earlier then some n else firstRepeat? (n :: earlier) rest

theorem firstRepeat?_eq_none {earlier names : List String} (h : firstRepeat? earlier names = none) :
    names.Nodup ∧ ∀ n ∈ names, n ∉ earlier := by
  induction names generalizing earlier with
  | nil => simp
  | cons n rest ih =>
    rw [firstRepeat?] at h
    split at h
    · cases h
    · next hn =>
      obtain ⟨hd, hf⟩ := ih h
      refine ⟨List.nodup_cons.mpr ⟨fun hm => (hf n hm) (by simp), hd⟩, ?_⟩
      intro m hm
      rcases List.mem_cons.mp hm with rfl | hm
      · exact hn
      · exact fun he => (hf m hm) (by simp [he])

/-- A catalog of the given types, or the first name that is given a second time. -/
def ofTypes (types : List HostType) : Except String Catalog :=
  match h : firstRepeat? [] (types.map (·.name)) with
  | some name => .error name
  | none => .ok ⟨types, (firstRepeat?_eq_none h).1⟩

def empty : Catalog := ⟨[], List.nodup_nil⟩

/-- The type of a qualified name. -/
def get? (c : Catalog) (name : String) : Option HostType := c.types.find? (·.name == name)

/-- The type that a name means inside a package: a qualified name first, then a name relative to
the package. -/
def resolve? (c : Catalog) (name : String) (package : Option String) : Option HostType :=
  match c.get? name, package with
  | some h, _ => some h
  | none, some p => c.get? (Name.qualify (some p) name)
  | none, none => none

/-- The marked types, in order. -/
def eligible (c : Catalog) : List HostType := c.types.filter (·.isMarked)

/-- The types whose components are stored as beans, in order. -/
def recordsWithBean (c : Catalog) : List HostType := c.types.filter (·.hasBean)

def size (c : Catalog) : Nat := c.types.length

def isEmpty (c : Catalog) : Bool := c.types.isEmpty

end Catalog

end RecordBean
