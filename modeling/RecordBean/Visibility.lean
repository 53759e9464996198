/-! # Visibility

The declared access level of a type, which its bean takes over.
-/

namespace RecordBean

inductive Visibility where
  | «public»
  | «protected»
  | «private»
  | packagePrivate
deriving DecidableEq, Repr

namespace Visibility

/-- `public` wins over `protected`, which wins over `private`; without any of them the type is
visible in its package. -/
def ofModifiers (modifiers : List String) : Visibility :=
  if modifiers.contains "public" then .public
  else if modifiers.contains "protected" then .protected
  else if modifiers.contains "private" then .private
  else .packagePrivate

/-- The keyword that declares the level; the package level has none. -/
def keyword : Visibility → Option String
  | .public => some "public"
  | .protected => some "protected"
  | .private => some "private"
  | .packagePrivate => none

def label : Visibility → String
  | .public => "public"
  | .protected => "protected"
  | .private => "private"
  | .packagePrivate => "package-private"

/-- All levels, in the order in which messages list them. -/
def all : List Visibility := [.public, .protected, .private, .packagePrivate]

def ofLabel? (label : String) : Option Visibility := all.find? (·.label == label)

theorem ofLabel?_label (v : Visibility) : ofLabel? v.label = some v := by
  cases v <;> decide

end Visibility

end RecordBean
