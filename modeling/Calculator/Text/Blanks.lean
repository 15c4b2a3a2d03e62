import Calculator.Text.CodePoints

/-! # Blank characters

White space: the controls that move the print position, the four information separators, and the
spaces and line separators of Unicode. A line feed is blank too; that it also ends a line is for
the reader of a text to say.
-/
namespace Calculator

def blanks : CodePoints :=
  [⟨0x0009, 0x000D⟩, ⟨0x001C, 0x0020⟩, ⟨0x0085, 0x0085⟩, ⟨0x00A0, 0x00A0⟩, ⟨0x1680, 0x1680⟩,
   ⟨0x2000, 0x200A⟩, ⟨0x2028, 0x2029⟩, ⟨0x202F, 0x202F⟩, ⟨0x205F, 0x205F⟩, ⟨0x3000, 0x3000⟩]

def isBlank (c : Char) : Bool :=
  blanks.contains c.toNat

end Calculator
