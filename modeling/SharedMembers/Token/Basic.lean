/-!
# Token trees

Source text is worked on as token trees: words, lifetimes, literals and punctuation characters,
with everything between a pair of brackets gathered in a group. A token knows where it was
written; a token that was made up has no origin.

* `Tree.size_pos`, `Tree.sizeAll_append`: the number of tokens, the measure of the parsers.
* `startOf`: where a run of tokens begins.
-/

namespace SharedMembers

/-- A place in a text: the line from 1, the column from 0 in characters. -/
structure Position where
  line : Nat
  column : Nat
deriving Repr, DecidableEq

/-- Where a token was written; none for a token that was made up. -/
abbrev Origin := Option Position

/-- The kinds of brackets. -/
inductive Delimiter where
  | parenthesis
  | bracket
  | brace
deriving Repr, DecidableEq

/-- A token, or a bracketed group of tokens. A punctuation character is joint when the next one
follows without a gap, so that the two may form one operator. The name of a lifetime is kept
without its apostrophe; a raw word keeps its `r#`. -/
inductive Tree where
  | word (name : String) (origin : Origin)
  | lifetime (name : String) (origin : Origin)
  | literal (text : String) (origin : Origin)
  | punct (char : Char) (joint : Bool) (origin : Origin)
  | group (delimiter : Delimiter) (body : List Tree) (opened closed : Origin)
deriving Repr

namespace Tree

/-- The token is a plus sign. -/
def isPlus : Tree → Bool
  | punct '+' _ _ => true
  | _ => false

/-- Where the token begins. -/
def origin : Tree → Origin
  | word _ o | lifetime _ o | literal _ o | punct _ _ o | group _ _ o _ => o

mutual

/-- The number of tokens, a group counting for one more than its contents. -/
def size : Tree → Nat
  | group _ body _ _ => sizeAll body + 1
  | _ => 1

/-- The number of tokens of a run. -/
def sizeAll : List Tree → Nat
  | [] => 0
  | t :: ts => size t + sizeAll ts

end

theorem size_pos (t : Tree) : 0 < t.size := by
  cases t <;> simp [size]

theorem sizeAll_append (a b : List Tree) : sizeAll (a ++ b) = sizeAll a + sizeAll b := by
  induction a with
  | nil => simp [sizeAll]
  | cons t a ih => simp [sizeAll, ih, Nat.add_assoc]

end Tree

/-- Where a run of tokens begins; none if it is empty or its first token was made up. -/
def startOf (ts : List Tree) : Origin :=
  ts.head?.bind Tree.origin

end SharedMembers
