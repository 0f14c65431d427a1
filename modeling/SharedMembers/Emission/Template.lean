import SharedMembers.Item.Code
import SharedMembers.Text.Identifier
import SharedMembers.Text.Quoted

/-!
# Templates

Generated text is put together from pieces that are spelled with blanks between the tokens, from
brackets, and from tokens that are filled in. Nothing of it has a place of its own.

* `spell`: the tokens that a piece spells.
* `parens`, `brackets`, `braces`: tokens in brackets.
* `spell_empty`: nothing spells nothing.
-/

namespace SharedMembers.Emission

/-- The token, or the operator of several tokens, that the characters spell. -/
def spellPiece (piece : List Char) : List Tree :=
  match piece with
  | [] => []
  | '\'' :: name => [.lifetime (String.ofList name) none]
  | c :: _ =>
    if Text.isIdentifierStart c then [.word (String.ofList piece) none]
    else operatorTokens none piece

/-- The tokens that are spelled, with blanks between them. -/
def spell (text : String) : List Tree :=
  (text.toList.splitOn ' ').flatMap spellPiece

theorem spell_empty : spell "" = [] := by
  simp [spell, spellPiece]

/-- Tokens in parentheses. -/
def parens (ts : List Tree) : List Tree := [.group .parenthesis ts none none]

/-- Tokens in square brackets. -/
def brackets (ts : List Tree) : List Tree := [.group .bracket ts none none]

/-- Tokens in curly braces. -/
def braces (ts : List Tree) : List Tree := [.group .brace ts none none]

/-- Tokens in angle brackets. -/
def angles (ts : List Tree) : List Tree := spell "<" ++ ts ++ spell ">"

/-- A string literal. -/
def textLiteral (text : String) : List Tree := [.literal (Text.quoted text) none]

/-- A number of the type `usize`. -/
def number (n : Nat) : List Tree := [.literal (toString n ++ "usize") none]

/-- An attribute. -/
def attributed (ts : List Tree) : List Tree := spell "#" ++ brackets ts

/-- An attribute with one word in parentheses. -/
def attributeWith (name word : String) : List Tree :=
  attributed (spell name ++ parens (spell word))

/-- A documentation comment. -/
def documentation (text : String) : List Tree :=
  attributed (spell "doc =" ++ textLiteral text)

/-- The token of a name. -/
def named (i : Ident) : List Tree := [i.token]

/-- Parts with commas between them. -/
def commas (parts : List (List Tree)) : List Tree := separated comma false parts

/-- A path into the core library. -/
def core (text : String) : List Tree := spell (":: core :: " ++ text)

/-- The trait of conversions into a type. -/
def intoTrait (t : Ty) : List Tree := core "convert :: Into" ++ angles t.tokens

/-- The result of success or failure. -/
def succeeded (ts : List Tree) : List Tree := core "result :: Result :: Ok" ++ parens ts

/-- A failure. -/
def refused (ts : List Tree) : List Tree := core "result :: Result :: Err" ++ parens ts

/-- A value that is there. -/
def present (ts : List Tree) : List Tree := core "option :: Option :: Some" ++ parens ts

/-- A value that is missing. -/
def absent : List Tree := core "option :: Option :: None"

end SharedMembers.Emission
