/-! # Places in a source text

Lines and columns are counted from zero, columns in code points. A place is reported as it was
computed, so that the end of an empty lexeme at the margin stands in column `-1`.
-/
namespace Calculator

structure Location where
  line : Int
  column : Int
  deriving DecidableEq

namespace Location

def origin : Location := ⟨0, 0⟩

def right (location : Location) (n : Int) : Location :=
  ⟨location.line, location.column + n⟩

def newline (location : Location) : Location :=
  ⟨location.line + 1, 0⟩

def down (location : Location) (n : Int) : Location :=
  ⟨location.line + n, location.column⟩

def text (location : Location) : String :=
  "[" ++ toString location.line ++ ":" ++ toString location.column ++ "]"

@[simp] theorem right_zero (location : Location) : location.right 0 = location := by
  simp [right]

theorem right_right (location : Location) (m n : Int) :
    (location.right m).right n = location.right (m + n) := by
  simp [right, Int.add_assoc]

theorem down_down (location : Location) (m n : Int) :
    (location.down m).down n = location.down (m + n) := by
  simp [down, Int.add_assoc]

@[simp] theorem line_right (location : Location) (n : Int) :
    (location.right n).line = location.line := rfl

end Location

end Calculator
