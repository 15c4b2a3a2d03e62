/-! # Sets of code points

A set of code points is listed as its runs of consecutive members, in ascending order. A search
may therefore stop at the first run that begins beyond the code point it looks for.
-/
namespace Calculator

/-- The code points from `first` to `last`, both included. -/
structure CodeRange where
  first : Nat
  last : Nat

/-- A set of code points, as its runs in ascending order. -/
abbrev CodePoints := List CodeRange

namespace CodePoints

def contains : CodePoints → Nat → Bool
  | [], _ => false
  | run :: rest, n => if n < run.first then false else if n ≤ run.last then true else contains rest n

theorem exists_run_of_contains {runs : CodePoints} {n : Nat} (h : contains runs n = true) :
    ∃ run ∈ runs, run.first ≤ n ∧ n ≤ run.last := by
  induction runs with
  | nil => simp [contains] at h
  | cons run rest ih =>
    rw [contains] at h
    split at h
    · cases h
    · split at h
      · exact ⟨run, by simp, by omega, by omega⟩
      · obtain ⟨other, hmem, hbounds⟩ := ih h
        exact ⟨other, by simp [hmem], hbounds⟩

end CodePoints

end Calculator
