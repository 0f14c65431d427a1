import SharedMembers.Refusal
import SharedMembers.Item.Attribute

/-!
# Directives

The attributes called `superstruct` direct the expansion. Those of one item are taken off it, and
their entries are read as one list.

The model of `take_superstruct_attrs`.

* `takeDirectives`: the entries of an item's directives and the attributes that are left.
* `readEntries`: the entries one by one, each known name at most once.
* `takeDirectives_attributes`: exactly the directives are taken.
-/

namespace SharedMembers

/-- The name of the attributes that direct the expansion. -/
def directiveName : String := "superstruct"

namespace Attribute

/-- The attribute directs the expansion. -/
def isDirective (a : Attribute) : Bool :=
  a.isNamed directiveName

/-- The entries of a directive; one without a list has none. -/
def entries (a : Attribute) : Except Refusal (List Entry) :=
  match a.arguments with
  | .nothing => .ok []
  | .list _ _ _ tokens =>
    match Entry.listOfTokens tokens with
    | .ok es => .ok es
    | .error f => .error ⟨.directiveList f, f.origin⟩
  | .value _ => .error ⟨.directiveValue, startOf a.path.tokens⟩

end Attribute

/-- The entries of the directives on an item, and the place of the last directive. -/
structure Directives where
  origin : Origin
  entries : List Entry

/-- The directives among the attributes as one, if there are any. -/
def directivesOf (attributes : List Attribute) : Except Refusal (Option Directives) := do
  let directives := attributes.filter Attribute.isDirective
  let lists ← directives.mapM Attribute.entries
  return directives.getLast?.map fun last => ⟨last.origin, lists.flatten⟩

/-- Takes the directives off an item: what they say together, and the other attributes. -/
def takeDirectives (attributes : List Attribute) :
    Except Refusal (Option Directives × List Attribute) := do
  return (← directivesOf attributes, attributes.filter (!·.isDirective))

theorem takeDirectives_attributes {attributes rest : List Attribute} {found : Option Directives}
    (h : takeDirectives attributes = .ok (found, rest)) :
    rest = attributes.filter (!·.isDirective) := by
  unfold takeDirectives at h
  cases hd : directivesOf attributes with
  | error r => simp [hd, bind, Except.bind] at h
  | ok d =>
    simp only [hd, bind, Except.bind, pure, Except.pure, Except.ok.injEq, Prod.mk.injEq] at h
    exact h.2.symm

/-! ## Reading entries -/

/-- How the entries of one name are read into a record of arguments. -/
structure EntryReader (α : Type) where
  name : String
  read : Entry → α → Except Problem α

/-- What is read so far: the arguments, the names that occurred, and the problems. -/
structure Reading (α : Type) where
  arguments : α
  seen : List String
  problems : List Problem

namespace Reading

/-- One more problem. -/
def fail {α : Type} (r : Reading α) (p : Problem) : Reading α :=
  { r with problems := r.problems ++ [p] }

/-- One more entry. -/
def step {α : Type} (readers : List (EntryReader α)) (r : Reading α) (e : Entry) : Reading α :=
  match e.name? with
  | none => r.fail .literalEntry
  | some name =>
    match readers.find? (·.name == name) with
    | none => r.fail (.unknown name (Text.closest? name (readers.map (·.name))))
    | some reader =>
      if r.seen.contains name then r.fail (.duplicate name)
      else
        let r := { r with seen := name :: r.seen }
        match reader.read e r.arguments with
        | .ok arguments => { r with arguments := arguments }
        | .error p => r.fail p

end Reading

/-- The arguments that the directives on an item give; none without directives. -/
def readEntries {α : Type} (readers : List (EntryReader α)) (initial : α) (d : Directives) :
    Except Refusal α :=
  let r := d.entries.foldl (Reading.step readers) ⟨initial, [], []⟩
  match r.problems with
  | [] => .ok r.arguments
  | ps => .error ⟨.directiveEntries ps, d.origin⟩

/-- Takes the directives off an item and reads them (`take_superstruct_attrs`). -/
def takeArguments {α : Type} (readers : List (EntryReader α)) (initial : α)
    (attributes : List Attribute) : Except Refusal (Option α × List Attribute) := do
  let (found, rest) ← takeDirectives attributes
  match found with
  | none => return (none, rest)
  | some d => return (some (← readEntries readers initial d), rest)

end SharedMembers
