import SharedMembers.Type.Tokens

/-!
# Pieces of code

Code is built from pieces: words, operators, bracketed groups, names and the arguments of a path.

* `tokensAll_ofTokens`: tokens taken as code are those tokens.
* `tokensAll_joined`, `tokensAll_separated`, `tokensAll_flatMap`: putting code together puts its
  tokens together.
-/

namespace SharedMembers

namespace Code

/-- Tokens that are taken as they are. -/
def ofTokens (ts : List Tree) : Code :=
  ts.map Fragment.tree

/-- A word and where it was written. -/
def wordAt (o : Origin) (name : String) : Code :=
  [.tree (.word name o)]

/-- A word that was made up. -/
def word (name : String) : Code :=
  wordAt none name

/-- A word that is there or not; if it is there, with its place. -/
def wordIf (o : Option Origin) (name : String) : Code :=
  match o with
  | some o => wordAt o name
  | none => []

/-- An operator and where it was written. -/
def operatorAt (o : Origin) (text : String) : Code :=
  ofTokens (operatorTokens o text.toList)

/-- An operator that was made up. -/
def operator (text : String) : Code :=
  operatorAt none text

/-- A comma. -/
def comma : Fragment :=
  .tree SharedMembers.comma

/-- A name. -/
def name (i : Ident) : Code :=
  [.tree i.token]

/-- A lifetime. -/
def lifetime (i : Ident) : Code :=
  [.tree i.lifetimeToken]

/-- Code in brackets. -/
def group (d : Delimiter) (opened : Origin) (body : Code) : Code :=
  [.group d opened none body]

theorem tokensAll_ofTokens (ts : List Tree) : Fragment.tokensAll (ofTokens ts) = ts := by
  induction ts with
  | nil => rfl
  | cons t ts ih => simp_all [ofTokens, Fragment.tokensAll, Fragment.tokens]

theorem tokensAll_joined (between : Code) (parts : List Code) :
    Fragment.tokensAll (joined between parts) =
      joined (Fragment.tokensAll between) (parts.map Fragment.tokensAll) := by
  induction parts with
  | nil => rfl
  | cons part parts ih =>
    cases parts with
    | nil => rfl
    | cons next parts =>
      simp only [joined, Fragment.tokensAll_append, List.map_cons] at ih ⊢
      rw [ih]

theorem tokensAll_separated (trailing : Bool) (parts : List Code) :
    Fragment.tokensAll (separated comma trailing parts) =
      separated SharedMembers.comma trailing (parts.map Fragment.tokensAll) := by
  induction parts with
  | nil => rfl
  | cons part parts ih =>
    cases parts with
    | nil => cases trailing <;> simp [separated, Fragment.tokensAll_append, comma] <;> rfl
    | cons next parts =>
      simp only [separated, Fragment.tokensAll_append, Fragment.tokensAll, List.map_cons] at ih ⊢
      rw [ih]
      rfl

theorem tokensAll_flatMap {α : Type} (f : α → Code) (as : List α) :
    Fragment.tokensAll (as.flatMap f) = as.flatMap fun a => Fragment.tokensAll (f a) := by
  induction as with
  | nil => rfl
  | cons a as ih => rw [List.flatMap_cons, Fragment.tokensAll_append, ih, List.flatMap_cons]

end Code

namespace Argument

/-- An argument as code. -/
def code : Argument → Code
  | lifetime i => Code.lifetime i
  | type t => [.type t]
  | other c => c

end Argument

/-- The list of arguments behind a segment's name, as code. -/
def Segment.argumentCode : Segment → Code
  | plain _ => []
  | generic _ colons args trailing =>
    (if colons then Code.operator "::" else []) ++ Code.operator "<" ++
      arranged Code.comma trailing (args.map fun a => (a.isLifetime, a.code)) ++ Code.operator ">"

end SharedMembers
