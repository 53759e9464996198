/-! # Lines and lists in text

The two ways in which generated text is put together: lines that each end in a line feed, and
items with a separator between them.
-/

namespace RecordBean.Text

/-- Write lines one after another, each ended by a line feed. -/
def unlines : List String → String
  | [] => ""
  | l :: ls => l ++ "\n" ++ unlines ls

/-- Write items with a separator between neighbours. -/
def joined (separator : String) : List String → String
  | [] => ""
  | [s] => s
  | s :: t :: rest => s ++ separator ++ joined separator (t :: rest)

/-- Write items with a comma and a blank between neighbours. -/
def commaSeparated (items : List String) : String := joined ", " items

@[simp] theorem unlines_append (a b : List String) :
    unlines (a ++ b) = unlines a ++ unlines b := by
  induction a with
  | nil => simp [unlines]
  | cons l ls ih => simp [unlines, ih, String.append_assoc]

end RecordBean.Text
