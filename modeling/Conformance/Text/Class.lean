import Conformance.Text.Class.Word
import Conformance.Text.Class.Printable
import Conformance.Text.Class.Identifier

/-! # Character classes

* `isWordChar`: letters, numerals and the underscore.
* `isSpace`: blank characters, line ends included.
* `isNameStart`, `isNameChar`: the characters of a name in clause text and in source text; a name
  starts with an ASCII letter and goes on with any word character, `$` counting as a letter.
* `isPrintable`: characters that quoted text shows without an escape.
* `isIdentifierStart`, `isIdentifierChar`: identifiers of an indentation-structured module.

ASCII is decided by a formula and the rest by tables of ranges, so that a fact about an ASCII
character needs no table.
-/

namespace Conformance.Text
set_option autoImplicit false

/-- The code point lies in one of the closed ranges. -/
def inRanges (ranges : List (Nat × Nat)) (c : Char) : Bool :=
  ranges.any fun r => r.1 ≤ c.toNat && c.toNat ≤ r.2

def isWordChar (c : Char) : Bool :=
  if c.toNat < 128 then c.isAlphanum || c == '_' else inRanges wordRanges c

/-- The blanks: the ASCII ones, the four ASCII separators, and the Unicode spaces. -/
def isSpace (c : Char) : Bool :=
  inRanges
    [(9, 13), (28, 32), (0x85, 0x85), (0xa0, 0xa0), (0x1680, 0x1680), (0x2000, 0x200a),
      (0x2028, 0x2029), (0x202f, 0x202f), (0x205f, 0x205f), (0x3000, 0x3000)] c

def isPrintable (c : Char) : Bool :=
  if c.toNat < 128 then 32 ≤ c.toNat && c.toNat < 127 else inRanges printableRanges c

def isNameStart (c : Char) : Bool := c.isAlpha || c == '_' || c == '$'

/-- Names may hold `$`, so that a word boundary alone does not end one. -/
def isNameChar (c : Char) : Bool := isWordChar c || c == '$'

def isIdentifierStart (c : Char) : Bool :=
  if c.toNat < 128 then c.isAlpha || c == '_' else inRanges identifierStartRanges c

def isIdentifierChar (c : Char) : Bool :=
  if c.toNat < 128 then c.isAlphanum || c == '_' else inRanges identifierContinueRanges c

/-- The first character, if there is one, satisfies `p`. -/
def headIs (p : Char → Bool) : List Char → Bool
  | [] => false
  | c :: _ => p c

theorem isNameChar_of_isNameStart {c : Char} (h : isNameStart c = true) : isNameChar c = true := by
  unfold isNameStart at h
  unfold isNameChar isWordChar
  simp only [Bool.or_eq_true] at h ⊢
  rcases h with (h | h) | h
  · have hc : c.toNat < 128 := by
      delta Char.isAlpha Char.isUpper Char.isLower at h
      simp only [Bool.or_eq_true, Bool.and_eq_true, decide_eq_true_eq] at h
      have : c.toNat = c.val.toNat := rfl
      rcases h with ⟨_, h⟩ | ⟨_, h⟩
      · have := UInt32.le_iff_toNat_le.1 h; simp at this; omega
      · have := UInt32.le_iff_toNat_le.1 h; simp at this; omega
    left; simp [hc, Char.isAlphanum, h]
  · left; simp [beq_iff_eq.1 h]
  · exact Or.inr h

end Conformance.Text
