import SharedMembers.Text.IdentifierRanges

/-!
# Identifiers

The spelling of a plain identifier: a letter or an underscore, then letters, digits, marks and
underscores, in the sense of Unicode.

* `isIdentifier_iff`: what a plain identifier is, character by character.
* `isIdentifier_empty`: the empty text is none.
-/

namespace SharedMembers.Text

/-- The character may begin an identifier. -/
def isIdentifierStart (c : Char) : Bool :=
  c == '_' || c.isAlpha || (128 ≤ c.toNat && startRanges.contains c)

/-- The character may continue an identifier. -/
def isIdentifierPart (c : Char) : Bool :=
  isIdentifierStart c || c.isDigit || (128 ≤ c.toNat && continueRanges.contains c)

/-- The characters spell a plain identifier. -/
def isIdentifierSpelling : List Char → Bool
  | [] => false
  | c :: cs => isIdentifierStart c && cs.all isIdentifierPart

/-- The text is a plain identifier: not empty, no digit in front, no raw mark. Keywords count. -/
def isIdentifier (s : String) : Bool :=
  isIdentifierSpelling s.toList

theorem isIdentifier_empty : isIdentifier "" = false := rfl

theorem isIdentifier_iff {s : String} :
    isIdentifier s = true ↔
      ∃ c cs, s.toList = c :: cs ∧ isIdentifierStart c = true ∧
        ∀ d ∈ cs, isIdentifierPart d = true := by
  unfold isIdentifier
  cases h : s.toList with
  | nil => simp [isIdentifierSpelling]
  | cons c cs =>
    simp only [isIdentifierSpelling, Bool.and_eq_true, List.all_eq_true, List.cons.injEq]
    exact ⟨fun ⟨first, rest⟩ => ⟨c, cs, ⟨rfl, rfl⟩, first, rest⟩,
      fun ⟨_, _, ⟨rfl, rfl⟩, first, rest⟩ => ⟨first, rest⟩⟩

/-- The characters that separate tokens outside ASCII: blanks, and the two direction marks. -/
def wideBlanks : Ranges :=
  [(0x85, 0x85), (0xA0, 0xA0), (0x1680, 0x1680), (0x2000, 0x200A), (0x200E, 0x200F),
   (0x2028, 0x2029), (0x202F, 0x202F), (0x205F, 0x205F), (0x3000, 0x3000)]

/-- The character is blank: it separates tokens and means nothing else. -/
def isBlank (c : Char) : Bool :=
  c == ' ' || (9 ≤ c.toNat && c.toNat ≤ 13) || (128 ≤ c.toNat && wideBlanks.contains c)

end SharedMembers.Text
