import Calculator.Location
import Calculator.Decimal.Text

/-! # Texts of numbers and of places

A number is written without a space, a colon or a line feed in it. So what stands on the two sides of
a separator can be told from the whole, and a place can be told from its text.
-/
namespace Calculator

theorem append_cons_inj {α : Type} {separator : α} {front front' back back' : List α}
    (hfront : separator ∉ front) (hfront' : separator ∉ front')
    (h : front ++ separator :: back = front' ++ separator :: back') :
    front = front' ∧ back = back' := by
  induction front generalizing front' with
  | nil =>
    cases front' with
    | nil => exact ⟨rfl, (List.cons.inj h).2⟩
    | cons c front' => exact absurd (List.mem_cons.mpr (Or.inl (List.cons.inj h).1)) hfront'
  | cons c front ih =>
    cases front' with
    | nil => exact absurd (List.mem_cons.mpr (Or.inl (List.cons.inj h).1.symm)) hfront
    | cons c' front' =>
      rw [List.cons_append, List.cons_append, List.cons.injEq] at h
      obtain ⟨rfl, h⟩ := h
      obtain ⟨rfl, hback⟩ := ih (List.not_mem_of_not_mem_cons hfront)
        (List.not_mem_of_not_mem_cons hfront') h
      exact ⟨rfl, hback⟩

theorem append_cons_inj_last {α : Type} {separator : α} {front front' back back' : List α}
    (hback : separator ∉ back) (hback' : separator ∉ back')
    (h : front ++ separator :: back = front' ++ separator :: back') :
    front = front' ∧ back = back' := by
  have hreverse := congrArg List.reverse h
  simp only [List.reverse_append, List.reverse_cons, List.append_assoc, List.singleton_append]
    at hreverse
  obtain ⟨hback, hfront⟩ := append_cons_inj (by simpa using hback) (by simpa using hback') hreverse
  exact ⟨List.reverse_inj.mp hfront, List.reverse_inj.mp hback⟩

def InNumberText (c : Char) : Prop :=
  c.isDigit = true ∨ c ∈ ['-', '+', '.', 'e', 'i', 'n', 'f', 'a']

theorem not_inNumberText {c : Char} (h : c = ' ' ∨ c = '\n' ∨ c = ':') : ¬ InNumberText c := by
  rcases h with rfl | rfl | rfl <;> simp [InNumberText]

theorem inNumberText_of_mem_toDigits {n : Nat} {c : Char} (h : c ∈ Nat.toDigits 10 n) :
    InNumberText c :=
  Or.inl (Nat.isDigit_of_mem_toDigits (by decide) (by decide) h)

theorem inNumberText_of_mem_zeros {n : Nat} {c : Char} (h : c ∈ List.replicate n '0') :
    InNumberText c := by
  rw [List.eq_of_mem_replicate h]
  exact Or.inl rfl

namespace Decimal

theorem inNumberText_plain {decimal : Decimal} {c : Char} (h : c ∈ decimal.plain) :
    InNumberText c := by
  rw [plain] at h
  split at h
  · simp only [List.mem_cons, List.mem_append] at h
    rcases h with rfl | rfl | h | h
    · exact Or.inl rfl
    · exact Or.inr (by decide)
    · exact inNumberText_of_mem_zeros h
    · exact inNumberText_of_mem_toDigits h
  · simp only [List.mem_cons, List.mem_append] at h
    rcases h with (h | h) | rfl | h
    · exact inNumberText_of_mem_toDigits (List.mem_of_mem_take h)
    · exact inNumberText_of_mem_zeros h
    · exact Or.inr (by decide)
    · split at h
      · rw [List.mem_singleton.mp h]
        exact Or.inl rfl
      · exact inNumberText_of_mem_toDigits (List.mem_of_mem_drop h)

theorem inNumberText_powerOfTen {width : Nat} {exponent : Int} {c : Char}
    (h : c ∈ powerOfTen width exponent) : InNumberText c := by
  simp only [powerOfTen, List.mem_cons, List.mem_append] at h
  rcases h with rfl | h | h | h
  · exact Or.inr (by decide)
  · split at h <;> exact Or.inr (by rw [h]; decide)
  · exact inNumberText_of_mem_zeros h
  · exact inNumberText_of_mem_toDigits h

theorem inNumberText_scientific {width : Nat} {decimal : Decimal} {c : Char}
    (h : c ∈ decimal.scientific width) : InNumberText c := by
  simp only [scientific, List.mem_append] at h
  rcases h with (h | h) | h
  · exact inNumberText_of_mem_toDigits (List.mem_of_mem_take h)
  · split at h
    · rcases List.mem_cons.mp h with rfl | h
      · exact Or.inr (by decide)
      · exact inNumberText_of_mem_toDigits (List.mem_of_mem_drop h)
    · cases h
  · exact inNumberText_powerOfTen h

theorem inNumberText_layOut {layout : DecimalLayout} {decimal : Decimal} {c : Char}
    (h : c ∈ decimal.layOut layout) : InNumberText c := by
  rw [layOut] at h
  split at h
  · exact inNumberText_plain h
  · exact inNumberText_scientific h

end Decimal

theorem Magnitude.inNumberText_text {layout : DecimalLayout} {magnitude : Magnitude} {c : Char}
    (h : c ∈ magnitude.text layout) : InNumberText c := by
  cases magnitude with
  | notANumber =>
    have hletters : ['n', 'a', 'n'] ⊆ ['-', '+', '.', 'e', 'i', 'n', 'f', 'a'] := by decide
    exact Or.inr (hletters h)
  | infinite =>
    have hletters : ['i', 'n', 'f'] ⊆ ['-', '+', '.', 'e', 'i', 'n', 'f', 'a'] := by decide
    exact Or.inr (hletters h)
  | zero =>
    simp only [text, List.mem_cons, List.not_mem_nil, or_false] at h
    rcases h with rfl | rfl | rfl
    · exact Or.inl rfl
    · exact Or.inr (by decide)
    · exact Or.inl rfl
  | positive interval => exact Decimal.inNumberText_layOut h

theorem inNumberText_of_mem_numberText {x : Float} {c : Char} (h : c ∈ (numberText x).toList) :
    InNumberText c := by
  rw [numberText, String.toList_ofList, List.mem_append] at h
  rcases h with h | h
  · split at h
    · cases h
    · split at h
      · rw [List.mem_singleton.mp h]
        exact Or.inr (by decide)
      · cases h
  · exact Magnitude.inNumberText_text h

theorem toList_toString_ofNat (n : Nat) : (toString (Int.ofNat n)).toList = Nat.toDigits 10 n := by
  simp [toString, Int.repr]

theorem toList_toString_negSucc (n : Nat) :
    (toString (Int.negSucc n)).toList = '-' :: Nat.toDigits 10 (n + 1) := by
  simp [toString, Int.repr]

theorem inNumberText_of_mem_toString {n : Int} {c : Char} (h : c ∈ (toString n).toList) :
    InNumberText c := by
  cases n with
  | ofNat n =>
    rw [toList_toString_ofNat] at h
    exact inNumberText_of_mem_toDigits h
  | negSucc n =>
    rw [toList_toString_negSucc] at h
    rcases List.mem_cons.mp h with rfl | h
    · exact Or.inr (by decide)
    · exact inNumberText_of_mem_toDigits h

theorem toDigits_injective {m n : Nat} (h : Nat.toDigits 10 m = Nat.toDigits 10 n) : m = n := by
  rw [← Nat.ofDigitChars_ten_toDigits (n := m), h, Nat.ofDigitChars_ten_toDigits]

theorem toString_injective {m n : Int} (h : (toString m).toList = (toString n).toList) : m = n := by
  have hsign (k : Nat) (digits : List Char) : Nat.toDigits 10 k ≠ '-' :: digits := by
    intro hdigits
    have hmem : '-' ∈ Nat.toDigits 10 k := by simp [hdigits]
    have := Nat.isDigit_of_mem_toDigits (by decide) (by decide) hmem
    revert this
    decide
  cases m with
  | ofNat m =>
    cases n with
    | ofNat n =>
      rw [toList_toString_ofNat, toList_toString_ofNat] at h
      rw [toDigits_injective h]
    | negSucc n =>
      rw [toList_toString_ofNat, toList_toString_negSucc] at h
      exact absurd h (hsign _ _)
  | negSucc m =>
    cases n with
    | ofNat n =>
      rw [toList_toString_ofNat, toList_toString_negSucc] at h
      exact absurd h.symm (hsign _ _)
    | negSucc n =>
      rw [toList_toString_negSucc, toList_toString_negSucc] at h
      rw [Nat.succ.inj (toDigits_injective (List.cons.inj h).2)]

namespace Location

theorem toList_text (location : Location) : location.text.toList =
    '[' :: ((toString location.line).toList ++
      ':' :: ((toString location.column).toList ++ [']'])) := by
  simp [text]

theorem space_notMem_text (location : Location) : ' ' ∉ location.text.toList := by
  have hnumber (n : Int) : ' ' ∉ (toString n).toList := fun h =>
    not_inNumberText (Or.inl rfl) (inNumberText_of_mem_toString h)
  rw [toList_text]
  simp only [List.mem_cons, List.mem_append, List.not_mem_nil, or_false, not_or]
  exact ⟨by decide, hnumber _, by decide, hnumber _, by decide⟩

theorem text_injective {location location' : Location} (h : location.text = location'.text) :
    location = location' := by
  have hcolon (n : Int) : ':' ∉ (toString n).toList := fun h =>
    not_inNumberText (Or.inr (Or.inr rfl)) (inNumberText_of_mem_toString h)
  have hlist := congrArg String.toList h
  rw [toList_text, toList_text] at hlist
  obtain ⟨hline, hcolumn⟩ := append_cons_inj (hcolon _) (hcolon _) (List.cons.inj hlist).2
  have hline := toString_injective hline
  have hcolumn := toString_injective (List.append_cancel_right hcolumn)
  cases location
  cases location'
  exact congr (congrArg mk hline) hcolumn

end Location

end Calculator
