import SharedMembers.Directive.Basic

/-!
# Arguments of directives

The directives on members may hide a member, rename it, or make it a setter. The directives on
wrappers name the traits that nested wrappers derive.

The model of `MemberArgs` and `WrapperArgs`.

* `MemberArguments.take`, `WrapperArguments.take`: the arguments that are taken off an item.
-/

namespace SharedMembers

/-- The problem of an entry that ought to have another form. A list is looked into first. -/
def formProblem (e : Entry) (name : String) : Problem :=
  match e with
  | .literal => .literalEntry
  | .word _ => .form "word" name
  | .value _ value => .kind value.kindName name
  | .list _ tokens =>
    match Entry.listOfTokens tokens with
    | .ok _ => .form "list" name
    | .error f => .unreadable f name

/-! ## Members -/

/-- What the directives on a member say (`MemberArgs`). -/
structure MemberArguments where
  skip : Bool
  rename : Option Ident
  setter : Option Ident

namespace MemberArguments

/-- A member without directives. -/
def none : MemberArguments := ⟨false, .none, .none⟩

/-- The name that a text spells, blanks and comments around it left out. -/
def identOfText? (text : String) (o : Origin) : Option Ident :=
  match Tree.ofText? text with
  | some [.word name _] => if keywords.contains name then .none else some ⟨name, o⟩
  | _ => .none

/-- The name that an entry gives: as a plain name or in a string. -/
def identOf (e : Entry) (name : String) : Except Problem Ident :=
  match e with
  | .value _ value =>
    match value.kind with
    | .path p =>
      match p.ident? with
      | some i => .ok i
      | .none => .error (.kind "path" name)
    | .literal [.literal spelling o] =>
      match Literal.stringValue? spelling with
      | some text =>
        match identOfText? text o with
        | some i => .ok i
        | .none => .error (.value text name)
      | .none => .error (formProblem e name)
    | _ => .error (formProblem e name)
  | _ => .error (formProblem e name)

/-- How the entries on members are read. -/
def readers : List (EntryReader MemberArguments) :=
  [⟨"skip", fun e a =>
      match e with
      | .word _ => .ok { a with skip := true }
      | _ => .error (formProblem e "skip")⟩,
   ⟨"rename", fun e a => (identOf e "rename").map fun i => { a with rename := some i }⟩,
   ⟨"setter", fun e a => (identOf e "setter").map fun i => { a with setter := some i }⟩]

/-- Takes the directives off a member; without any it has no arguments. -/
def take (attributes : List Attribute) : Except Refusal (MemberArguments × List Attribute) := do
  let (found, rest) ← takeArguments readers none attributes
  return (found.getD none, rest)

end MemberArguments

/-! ## Wrappers -/

/-- What the directives on a wrapper say: the traits that nested wrappers derive (`WrapperArgs`). -/
structure WrapperArguments where
  nestedDerive : List Path

namespace WrapperArguments

/-- The paths that stand alone in a list; anything else in it is a problem. -/
def wordsOf (entries : List Entry) : Except Problem (List Path) :=
  entries.mapM fun
    | .word p => .ok p
    | _ => .error (.kind "non-word" "nested_derive")

/-- How the entries on wrappers are read. -/
def readers : List (EntryReader WrapperArguments) :=
  [⟨"nested_derive", fun e _ =>
      match e with
      | .list _ tokens =>
        match Entry.listOfTokens tokens with
        | .ok entries => (wordsOf entries).map WrapperArguments.mk
        | .error f => .error (.unreadable f "nested_derive")
      | _ => .error (formProblem e "nested_derive")⟩]

/-- Takes the directives off a wrapper; without any the enum is none. -/
def take (attributes : List Attribute) :
    Except Refusal (Option WrapperArguments × List Attribute) :=
  takeArguments readers ⟨[]⟩ attributes

end WrapperArguments

end SharedMembers
