import SharedMembers.Token.Basic

/-!
# Writing tokens

Tokens are written in two forms. The display form is the one types are compared and shown by: one
blank between tokens, none behind a joint character, none inside round and square brackets. The
flat form separates everything, brackets included, by one blank.

* `displayAll_cons_cons`: the display form of a run, token by token.
* `Tree.flatAll_append`: the flat form of a run joins those of its parts.
-/

namespace SharedMembers

namespace Delimiter

/-- The opening bracket. -/
def opening : Delimiter → String
  | parenthesis => "("
  | bracket => "["
  | brace => "\x7b"

/-- The closing bracket. -/
def closing : Delimiter → String
  | parenthesis => ")"
  | bracket => "]"
  | brace => "\x7d"

end Delimiter

namespace Tree

/-- The token after this one follows without a gap. -/
def isJoint : Tree → Bool
  | punct _ joint _ => joint
  | _ => false

mutual

/-- A token in display form. -/
def display : Tree → String
  | word name _ => name
  | lifetime name _ => "'" ++ name
  | literal text _ => text
  | punct char _ _ => char.toString
  | group d body _ _ =>
    match d with
    | .brace =>
      d.opening ++ " " ++ displayAll body ++ (if body.isEmpty then "" else " ") ++ d.closing
    | _ => d.opening ++ displayAll body ++ d.closing

/-- A run of tokens in display form. -/
def displayAll : List Tree → String
  | [] => ""
  | t :: ts => display t ++ (if ts.isEmpty || t.isJoint then "" else " ") ++ displayAll ts

end

mutual

/-- The spellings of a token's parts, brackets included. -/
def flat : Tree → List String
  | word name _ => [name]
  | lifetime name _ => ["'" ++ name]
  | literal text _ => [text]
  | punct char _ _ => [char.toString]
  | group d body _ _ => d.opening :: (flatAll body ++ [d.closing])

/-- The spellings of a run. -/
def flatAll : List Tree → List String
  | [] => []
  | t :: ts => flat t ++ flatAll ts

end

theorem flatAll_append (a b : List Tree) : flatAll (a ++ b) = flatAll a ++ flatAll b := by
  induction a with
  | nil => simp [flatAll]
  | cons t a ih => simp [flatAll, ih]

end Tree

/-- A run of tokens in display form. -/
def display (ts : List Tree) : String :=
  Tree.displayAll ts

/-- A run of tokens in flat form. -/
def flat (ts : List Tree) : String :=
  " ".intercalate (Tree.flatAll ts)

theorem displayAll_cons_cons (t u : Tree) (ts : List Tree) :
    display (t :: u :: ts) = t.display ++ (if t.isJoint then "" else " ") ++ display (u :: ts) := by
  simp [display, Tree.displayAll]

end SharedMembers
