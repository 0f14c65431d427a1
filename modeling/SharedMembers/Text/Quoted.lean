import SharedMembers.Text.PrintableRanges

/-!
# Quoted text

How a text is written as a string literal. Quotes and backslashes are escaped, and so is every
character that could not be seen where it stands; an apostrophe is not.

* `escapeChar_of_ascii_graphic`: a visible ASCII character other than the quote and the backslash
  stands for itself.
* `quoted`: the literal.
-/

namespace SharedMembers.Text

/-- The character's number in lowercase hexadecimal, without leading zeros. -/
def hexNumber (c : Char) : List Char :=
  Nat.toDigits 16 c.toNat

/-- The character as an escape by its number. -/
def numberEscape (c : Char) : List Char :=
  '\\' :: 'u' :: Char.ofNat 123 :: hexNumber c ++ [Char.ofNat 125]

/-- The character cannot be seen by itself: it is a control or blank, or joins the one before. -/
def isHidden (c : Char) : Bool :=
  if c.toNat < 128 then c.toNat < 32 || c.toNat == 127
  else combiningRanges.contains c || unprintableRanges.contains c

/-- A character inside a string literal, without regard to what follows. -/
def escapeChar (c : Char) : List Char :=
  match c with
  | '\t' => ['\\', 't']
  | '\r' => ['\\', 'r']
  | '\n' => ['\\', 'n']
  | '"' => ['\\', '"']
  | '\\' => ['\\', '\\']
  | c => if isHidden c then numberEscape c else [c]

/-- The text inside a string literal. A null character is `\0`, unless an octal digit follows that
could be taken for a part of it. -/
def escaped : List Char → List Char
  | [] => []
  | c :: cs =>
    if c.toNat = 0 then
      (if cs.head?.any fun d => '0' ≤ d && d ≤ '7' then ['\\', 'x', '0', '0'] else ['\\', '0']) ++
        escaped cs
    else escapeChar c ++ escaped cs

/-- The string literal that stands for a text. -/
def quoted (text : String) : String :=
  String.ofList ('"' :: escaped text.toList ++ ['"'])

theorem escapeChar_of_ascii_graphic {c : Char} (low : 32 ≤ c.toNat) (high : c.toNat < 127)
    (quote : c ≠ '"') (slash : c ≠ '\\') : escapeChar c = [c] := by
  have tab : c ≠ '\t' := by rintro rfl; exact absurd low (by decide)
  have ret : c ≠ '\r' := by rintro rfl; exact absurd low (by decide)
  have line : c ≠ '\n' := by rintro rfl; exact absurd low (by decide)
  have hidden : isHidden c = false := by
    simp only [isHidden, show c.toNat < 128 by omega, if_true, Bool.or_eq_false_iff,
      decide_eq_false_iff_not, beq_eq_false_iff_ne]
    omega
  unfold escapeChar
  split <;> simp_all

end SharedMembers.Text
