import StorageTopology.Text.Ranges

/-!
# Blank characters and trimming

`isBlank` is the property White_Space of the Unicode character database. Zero-width spaces, the
byte-order mark and the four information separators are not in it. `trim` cuts blank characters
from both ends of a text, and `isAllBlank` tells a text that has nothing else.
-/

namespace StorageTopology.Text

/-- The code points of White_Space. -/
def blankRanges : List (Nat × Nat) :=
  [(0x9, 0xd), (0x20, 0x20), (0x85, 0x85), (0xa0, 0xa0), (0x1680, 0x1680), (0x2000, 0x200a),
   (0x2028, 0x2029), (0x202f, 0x202f), (0x205f, 0x205f), (0x3000, 0x3000)]

/-- A White_Space character. -/
def isBlank (c : Char) : Bool :=
  inRanges blankRanges c

/-- `cs` without the blank characters at its two ends. -/
def trimmed (cs : List Char) : List Char :=
  ((cs.dropWhile isBlank).reverse.dropWhile isBlank).reverse

/-- `s` without the blank characters at its two ends. -/
def trim (s : String) : String :=
  String.ofList (trimmed s.toList)

/-- Nothing but blank characters. -/
def isAllBlank (s : String) : Bool :=
  s.toList.all isBlank

theorem isAllBlank_eq_false_iff {s : String} :
    isAllBlank s = false ↔ ∃ c ∈ s.toList, isBlank c = false := by
  simp [isAllBlank]

@[simp] theorem toList_trim (s : String) : (trim s).toList = trimmed s.toList := by
  simp [trim]

/-- Every character that is a space, tab, line feed or carriage return is blank. -/
theorem isBlank_of_isWhitespace {c : Char} (h : c.isWhitespace = true) : isBlank c = true := by
  simp only [Char.isWhitespace, Bool.or_eq_true, decide_eq_true_eq] at h
  rcases h with ((rfl | rfl) | rfl) | rfl <;> decide

end StorageTopology.Text
