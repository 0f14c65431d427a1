import SharedMembers.Proofs.Descriptions

/-!
# Which types can visibly be cloned

A type can visibly be cloned if it is put together, by references that are shared, by parentheses,
tuples, arrays and the containers of the standard library, from types that can: from those for
which the module says so, and from those of the standard library, which are known by the last name
of a path. That name is not compared with the types of the module: one that is called like a type
of the standard library is taken for it, whether it can be cloned or not.

Results:
* `mem_cloneable_iff`: the types for which the module says that they can be cloned.
* `blank_mem_key`: the key of a path that ends in a list of arguments holds a blank.
* `isClone_iff`: the function accepts what can visibly be cloned, and nothing else.
* `isClone_exact`: what it accepts in a module, for which modules it tells their own types from
  those of the standard library, and that it accepts nothing that holds another type.
* `isClone_of_hidden_standard`: a struct called `String` is accepted.
-/

namespace SharedMembers

/-! ## What is promised -/

/-- The items say that the type with the name can be cloned: a struct derives it, an enum without
parameters derives it, or `Clone` is implemented for the name. -/
inductive ClonedBy (items : List Item) : String → Prop where
  | struct {s : StructItem} (listed : .struct s ∈ items)
      (derives : deriveClone s.attributes = true) : ClonedBy items s.ident.name
  | enum {e : EnumItem} (listed : .enum e ∈ items)
      (plain : e.generics.parameters.isEmpty = true) (derives : deriveClone e.attributes = true) :
      ClonedBy items e.ident.name
  | impl {i : ImplItem} {t : Ident} (listed : .impl i ∈ items) (clones : i.clonedType? = some t) :
      ClonedBy items t.name

/-- The type with the name is a struct or an enum of the items. -/
inductive OwnType (items : List Item) : String → Prop where
  | struct {s : StructItem} (listed : .struct s ∈ items) : OwnType items s.ident.name
  | enum {e : EnumItem} (listed : .enum e ∈ items) : OwnType items e.ident.name

/-- The segment that names something of the module itself: the only one of a path, or the one
behind a `self::`. -/
def Path.local? : Path → Option Segment
  | .plain none [s] => some s
  | .plain none [first, s] => if first.ident.name = "self" then some s else none
  | _ => none

/-- The path does not name a struct or an enum of the items. -/
def Path.Foreign (items : List Item) (p : Path) : Prop :=
  ∀ s, p.local? = some s → ¬ OwnType items s.ident.name

/-- The type can visibly be cloned, if those types of the module can that are `cloned`, and if a
path may be one to the standard library when it is `standard`. -/
inductive VisiblyClone (cloned : String → Prop) (standard : Path → Prop) : Ty → Prop where
  | reference {o : Origin} {lifetime : Option Ident} {referent : Ty} :
      VisiblyClone cloned standard (.reference o lifetime false referent)
  | paren {o : Origin} {inner : Ty} (held : VisiblyClone cloned standard inner) :
      VisiblyClone cloned standard (.paren o inner)
  | tuple {o : Origin} {elems : List Ty} {trailing : Bool}
      (held : ∀ t ∈ elems, VisiblyClone cloned standard t) :
      VisiblyClone cloned standard (.tuple o elems trailing)
  | array {o : Origin} {elem : Ty} {length : Code} (held : VisiblyClone cloned standard elem) :
      VisiblyClone cloned standard (.array o elem length)
  | own {leading : Option Origin} {segments : List Segment}
      (clones : cloned (Ty.path (.plain leading segments)).key) :
      VisiblyClone cloned standard (.path (.plain leading segments))
  | plain {leading : Option Origin} {segments : List Segment} {s : Segment}
      (last : segments.getLast? = some s) (known : standard (.plain leading segments))
      (listed : s.ident.name ∈ Catalogue.plainCloneable) (bare : s.args = []) :
      VisiblyClone cloned standard (.path (.plain leading segments))
  | shared {leading : Option Origin} {segments : List Segment} {s : Segment}
      (last : segments.getLast? = some s) (known : standard (.plain leading segments))
      (listed : s.ident.name ∈ Catalogue.sharedCloneable) :
      VisiblyClone cloned standard (.path (.plain leading segments))
  | container {leading : Option Origin} {segments : List Segment} {s : Segment}
      (last : segments.getLast? = some s) (known : standard (.plain leading segments))
      (listed : s.ident.name ∈ Catalogue.containers)
      (held : ∀ t, Argument.type t ∈ s.args → VisiblyClone cloned standard t) :
      VisiblyClone cloned standard (.path (.plain leading segments))

/-- The type is the one that the module knows by the name, or a tuple, an array or a container of
the standard library that holds it. -/
inductive Ty.Holds (name : String) : Ty → Prop where
  | own {p : Path} {i : Ident} (named : p.local? = some (.plain i)) (same : i.name = name) :
      Holds name (.path p)
  | paren {o : Origin} {inner : Ty} (held : inner.Holds name) : Holds name (.paren o inner)
  | tuple {o : Origin} {elems : List Ty} {trailing : Bool} {t : Ty} (listed : t ∈ elems)
      (held : t.Holds name) : Holds name (.tuple o elems trailing)
  | array {o : Origin} {elem : Ty} {length : Code} (held : elem.Holds name) :
      Holds name (.array o elem length)
  | container {leading : Option Origin} {segments : List Segment} {s : Segment} {t : Ty}
      (last : segments.getLast? = some s) (listed : s.ident.name ∈ Catalogue.containers)
      (passed : Argument.type t ∈ s.args) (held : t.Holds name) :
      Holds name (.path (.plain leading segments))

/-- The names by which types of the standard library are known. -/
def standardNames : List String :=
  Catalogue.plainCloneable ++ Catalogue.sharedCloneable ++ Catalogue.containers

theorem mem_standardNames_iff {name : String} :
    name ∈ standardNames ↔ name ∈ Catalogue.plainCloneable ∨ name ∈ Catalogue.sharedCloneable ∨
      name ∈ Catalogue.containers := by
  rw [standardNames, List.append_assoc, List.mem_append, List.mem_append]

/-! ## Types for which the module says it -/

/-- A name is in the list at the end iff an item adds it or it was there. -/
theorem Catalogue.mem_cloneable_of_readEach
    {step : Catalogue → Item → Except Refusal (Catalogue × Item)} {adds : Item → Prop}
    {name : String} {c c' : Catalogue} {items items' : List Item}
    (h : Catalogue.readEach step c items = .ok (c', items'))
    (each : ∀ c item c' item', step c item = .ok (c', item') →
      (name ∈ c'.cloneable ↔ adds item ∨ name ∈ c.cloneable)) :
    name ∈ c'.cloneable ↔ (∃ item ∈ items, adds item) ∨ name ∈ c.cloneable := by
  induction items generalizing c items' with
  | nil =>
    cases h
    simp
  | cons item items ih =>
    rw [Catalogue.readEach] at h
    obtain ⟨⟨c₁, item'⟩, first, h⟩ := bind_eq_ok_iff.1 h
    obtain ⟨⟨c₂, rest⟩, later, h⟩ := bind_eq_ok_iff.1 h
    cases h
    rw [ih later, each _ _ _ _ first, List.exists_mem_cons_iff, or_left_comm, or_assoc]

/-- The item defines a type with the name and derives that it can be cloned. -/
def Item.DerivesClone (name : String) : Item → Prop
  | .struct s => deriveClone s.attributes = true ∧ s.ident.name = name
  | .enum e =>
    e.generics.parameters.isEmpty = true ∧ deriveClone e.attributes = true ∧ e.ident.name = name
  | _ => False

/-- The item implements `Clone` for the name. -/
def Item.ImplementsClone (name : String) (item : Item) : Prop :=
  ∃ i t, item.impl? = some i ∧ i.clonedType? = some t ∧ t.name = name

theorem Catalogue.mem_noteClone_iff {c : Catalogue} {noted name : String} :
    name ∈ (c.noteClone noted).cloneable ↔ noted = name ∨ name ∈ c.cloneable := by
  unfold Catalogue.noteClone
  rw [List.mem_cons]
  exact or_congr_left eq_comm

theorem Catalogue.mem_cloneable_readDefinition {c c' : Catalogue} {item item' : Item}
    (h : c.readDefinition item = .ok (c', item')) (name : String) :
    name ∈ c'.cloneable ↔ item.DerivesClone name ∨ name ∈ c.cloneable := by
  have noted {derives : Bool} {i : Ident} :
      name ∈ (if derives then c.noteClone i.name else c).cloneable ↔
        (derives = true ∧ i.name = name) ∨ name ∈ c.cloneable := by
    cases derives with
    | true => simp [Catalogue.mem_noteClone_iff]
    | false => simp
  cases item with
  | struct s =>
    rw [Catalogue.readDefinition] at h
    obtain ⟨⟨table, taken⟩, -, h⟩ := bind_eq_ok_iff.1 h
    cases h
    split
    · exact noted
    · exact noted
  | enum e =>
    rw [Catalogue.readDefinition] at h
    split at h
    · next plain =>
      cases h
      exact noted.trans (or_congr_left (and_iff_right plain).symm)
    · next generic =>
      cases h
      simp [Item.DerivesClone, generic]
  | impl i | other kind names code =>
    cases h
    simp [Item.DerivesClone]

theorem Catalogue.mem_cloneable_readMethods {c c' : Catalogue} {item item' : Item}
    (h : c.readMethods item = .ok (c', item')) (name : String) :
    name ∈ c'.cloneable ↔ item.ImplementsClone name ∨ name ∈ c.cloneable := by
  cases item with
  | impl i =>
    rw [Catalogue.readMethods_impl] at h
    obtain ⟨taken, -, h⟩ := map_eq_ok_iff.1 h
    cases h
    have noted : name ∈ (c.noteCloned i).cloneable ↔
        (Item.impl i).ImplementsClone name ∨ name ∈ c.cloneable := by
      unfold Catalogue.noteCloned Item.ImplementsClone
      cases clones : i.clonedType? with
      | none => simp [Item.impl?, clones]
      | some t => simp [Item.impl?, clones, Catalogue.mem_noteClone_iff]
    split
    · exact noted
    · exact noted
  | struct s | enum e | other kind names code =>
    cases h
    simp [Item.ImplementsClone, Item.impl?]

/-- What the items say is what their definitions derive and their implementations implement. -/
theorem clonedBy_iff {items : List Item} {name : String} :
    ClonedBy items name ↔
      (∃ item ∈ items, item.DerivesClone name) ∨
        ∃ i ∈ items.filterMap Item.impl?, ∃ t, i.clonedType? = some t ∧ t.name = name := by
  constructor
  · rintro (⟨listed, derives⟩ | ⟨listed, plain, derives⟩ | ⟨listed, clones⟩)
    · exact .inl ⟨_, listed, derives, rfl⟩
    · exact .inl ⟨_, listed, plain, derives, rfl⟩
    · exact .inr ⟨_, List.mem_filterMap.2 ⟨_, listed, rfl⟩, _, clones, rfl⟩
  · rintro (⟨item, listed, derives⟩ | ⟨i, listed, t, clones, rfl⟩)
    · cases item with
      | struct s =>
        obtain ⟨derives, rfl⟩ := derives
        exact .struct listed derives
      | enum e =>
        obtain ⟨plain, derives, rfl⟩ := derives
        exact .enum listed plain derives
      | impl i | other kind names code => exact derives.elim
    · obtain ⟨item, listed, same⟩ := List.mem_filterMap.1 listed
      cases item with
      | impl j =>
        cases same
        exact .impl listed clones
      | struct s | enum e | other kind names code => cases same

/-- The catalogue lists the types for which the items say that they can be cloned. -/
theorem mem_cloneable_iff {items kept : List Item} {c : Catalogue}
    (h : collect items = .ok (c, kept)) {name : String} :
    name ∈ c.cloneable ↔ ClonedBy items name := by
  rw [collect] at h
  obtain ⟨⟨c₁, items₁⟩, defined, methods⟩ := bind_eq_ok_iff.1 h
  have derived := Catalogue.mem_cloneable_of_readEach defined
    fun _ _ _ _ read => Catalogue.mem_cloneable_readDefinition read name
  have implemented := Catalogue.mem_cloneable_of_readEach methods
    fun _ _ _ _ read => Catalogue.mem_cloneable_readMethods read name
  rw [implemented, derived, clonedBy_iff, ← impls_readDefinitions defined]
  simp only [Catalogue.empty, List.not_mem_nil, or_false]
  rw [or_comm]
  refine or_congr_right ⟨?_, ?_⟩
  · rintro ⟨item, listed, i, t, same, clones, named⟩
    exact ⟨i, List.mem_filterMap.2 ⟨item, listed, same⟩, t, clones, named⟩
  · rintro ⟨i, listed, t, clones, named⟩
    obtain ⟨item, listed, same⟩ := List.mem_filterMap.1 listed
    exact ⟨item, listed, i, t, same, clones, named⟩

/-! ## What the function accepts -/

theorem Catalogue.standardIsClone_iff {name : String} {bare cloneable : Bool} :
    standardIsClone name bare cloneable = true ↔
      name ∈ plainCloneable ∧ bare = true ∨ name ∈ sharedCloneable ∨
        name ∈ containers ∧ cloneable = true := by
  simp only [standardIsClone, Bool.or_eq_true, Bool.and_eq_true, List.contains_iff_mem, or_assoc,
    and_comm]

/-- A path to the standard library, by its last segment. -/
theorem Catalogue.lastIsClone_iff (c : Catalogue) (segments : List Segment) :
    c.lastIsClone segments = true ↔
      ∃ s, segments.getLast? = some s ∧ standardIsClone s.ident.name s.args.isEmpty
        (c.argumentsAreClone s.args) = true := by
  induction segments with
  | nil => simp [lastIsClone]
  | cons first rest ih =>
    cases rest with
    | nil => cases first <;> simp [lastIsClone, segmentIsClone, Segment.ident, Segment.args,
        argumentsAreClone]
    | cons second rest =>
      rw [lastIsClone, ih, List.getLast?_cons_cons]
      simp

section

variable {c : Catalogue} {cloned : String → Prop}

/-- A path is accepted for its key, or for its last segment. -/
theorem Catalogue.visiblyClone_path_iff (listed : ∀ name, name ∈ c.cloneable ↔ cloned name)
    {leading : Option Origin} {segments : List Segment}
    (held : ∀ s, segments.getLast? = some s → (c.argumentsAreClone s.args = true ↔
      ∀ t, Argument.type t ∈ s.args → VisiblyClone cloned (fun _ => True) t)) :
    c.isClone (.path (.plain leading segments)) = true ↔
      VisiblyClone cloned (fun _ => True) (.path (.plain leading segments)) := by
  rw [isClone, Bool.or_eq_true, List.contains_iff_mem, listed, lastIsClone_iff]
  constructor
  · rintro (clones | ⟨s, last, accepted⟩)
    · exact .own clones
    · rcases standardIsClone_iff.1 accepted with ⟨known, bare⟩ | known | ⟨known, all⟩
      · exact .plain last trivial known (List.isEmpty_iff.1 bare)
      · exact .shared last trivial known
      · exact .container last trivial known ((held s last).1 all)
  · rintro (_ | _ | _ | _ | ⟨clones⟩ | ⟨last, -, known, bare⟩ | ⟨last, -, known⟩ |
      ⟨last, -, known, all⟩)
    · exact .inl clones
    · exact .inr ⟨_, last, standardIsClone_iff.2 (.inl ⟨known, List.isEmpty_iff.2 bare⟩)⟩
    · exact .inr ⟨_, last, standardIsClone_iff.2 (.inr (.inl known))⟩
    · exact .inr ⟨_, last, standardIsClone_iff.2 (.inr (.inr ⟨known, (held _ last).2 all⟩))⟩

mutual

/-- A type is accepted if it can visibly be cloned, and only then. -/
theorem Catalogue.isClone_iff (listed : ∀ name, name ∈ c.cloneable ↔ cloned name) :
    ∀ t : Ty, c.isClone t = true ↔ VisiblyClone cloned (fun _ => True) t
  | .reference _ _ mutable _ => by
    rw [isClone]
    cases mutable with
    | false => exact iff_of_true rfl .reference
    | true => exact iff_of_false nofun nofun
  | .paren _ inner => by
    rw [isClone, Catalogue.isClone_iff listed inner]
    exact ⟨.paren, fun | .paren held => held⟩
  | .tuple _ elems _ => by
    rw [isClone, Catalogue.areClone_iff listed elems]
    exact ⟨.tuple, fun | .tuple held => held⟩
  | .array _ elem _ => by
    rw [isClone, Catalogue.isClone_iff listed elem]
    exact ⟨.array, fun | .array held => held⟩
  | .path (.plain _ segments) =>
    Catalogue.visiblyClone_path_iff listed (Catalogue.lastArguments_iff listed segments)
  | .path (.qualified ..) => iff_of_false nofun nofun
  | .pointer .. | .slice .. | .never _ | .inferred _ | .function _ | .traitObject _
  | .implTrait _ | .invocation .. | .unparsed _ => iff_of_false nofun nofun

theorem Catalogue.areClone_iff (listed : ∀ name, name ∈ c.cloneable ↔ cloned name) :
    ∀ ts : List Ty, c.areClone ts = true ↔ ∀ t ∈ ts, VisiblyClone cloned (fun _ => True) t
  | [] => iff_of_true rfl nofun
  | t :: ts => by
    rw [areClone, Bool.and_eq_true, Catalogue.isClone_iff listed t,
      Catalogue.areClone_iff listed ts, List.forall_mem_cons]

theorem Catalogue.argumentsAreClone_iff (listed : ∀ name, name ∈ c.cloneable ↔ cloned name) :
    ∀ as : List Argument, c.argumentsAreClone as = true ↔
      ∀ t, Argument.type t ∈ as → VisiblyClone cloned (fun _ => True) t
  | [] => iff_of_true rfl nofun
  | .type t :: as => by
    rw [argumentsAreClone, argumentIsClone, Bool.and_eq_true, Catalogue.isClone_iff listed t,
      Catalogue.argumentsAreClone_iff listed as]
    simp
  | .lifetime _ :: as | .other _ :: as => by
    rw [argumentsAreClone, argumentIsClone, Bool.true_and,
      Catalogue.argumentsAreClone_iff listed as]
    · simp
    · exact nofun

theorem Catalogue.lastArguments_iff (listed : ∀ name, name ∈ c.cloneable ↔ cloned name) :
    ∀ (segments : List Segment) (s : Segment), segments.getLast? = some s →
      (c.argumentsAreClone s.args = true ↔
        ∀ t, Argument.type t ∈ s.args → VisiblyClone cloned (fun _ => True) t)
  | [], _, last => nomatch last
  | [.plain _], _, rfl => iff_of_true rfl nofun
  | [.generic _ _ args _], _, rfl => Catalogue.argumentsAreClone_iff listed args
  | _ :: second :: rest, s, last => Catalogue.lastArguments_iff listed (second :: rest) s last

end

end

/-! ## Keys with blanks -/

/-- A token that is not joint has a blank behind it. -/
theorem Tree.blank_mem_displayAll (before : List Tree) {t u : Tree} (after : List Tree)
    (apart : t.isJoint = false) : ' ' ∈ (displayAll (before ++ t :: u :: after)).toList := by
  induction before with
  | nil => simp [displayAll, apart]
  | cons first before ih =>
    rw [List.cons_append, displayAll, String.toList_append]
    exact List.mem_append_right _ ih

/-- What is joined ends in its last part. -/
theorem joined_concat {α : Type} (between : List α) (parts : List (List α)) (last : List α) :
    ∃ before, joined between (parts ++ [last]) = before ++ last := by
  induction parts with
  | nil => exact ⟨[], rfl⟩
  | cons part parts ih =>
    obtain ⟨before, same⟩ := ih
    obtain ⟨next, rest, parted⟩ : ∃ next rest, parts ++ [last] = next :: rest :=
      List.exists_cons_of_ne_nil (by simp)
    refine ⟨part ++ between ++ before, ?_⟩
    rw [List.cons_append, parted, joined, ← parted, same, List.append_assoc _ before]
    simp

theorem Segment.tokensEach_eq_map (segments : List Segment) :
    tokensEach segments = segments.map tokens := by
  induction segments with
  | nil => rfl
  | cons s segments ih => rw [tokensEach, ih, List.map_cons]

/-- The type as it is named inside its module ends as it did. -/
theorem Ty.normal_plain (leading : Option Origin) (segments : List Segment) :
    ∃ segments', (Ty.path (.plain leading segments)).normal = .path (.plain leading segments') ∧
      segments'.getLast? = segments.getLast? := by
  unfold Ty.normal
  split
  · next same => cases same
  · next first second rest same =>
    cases same
    split
    · exact ⟨second :: rest, rfl, rfl⟩
    · exact ⟨first :: second :: rest, rfl, rfl⟩
  · exact ⟨segments, rfl, rfl⟩

/-- The key of a path that ends in a list of arguments holds a blank. -/
theorem Ty.blank_mem_key {leading : Option Origin} {segments : List Segment} {i : Ident}
    {colons : Bool} {args : List Argument} {trailing : Bool}
    (last : segments.getLast? = some (.generic i colons args trailing)) :
    ' ' ∈ (Ty.path (.plain leading segments)).key.toList := by
  obtain ⟨segments', normal, same⟩ := Ty.normal_plain leading segments
  obtain ⟨initial, rfl⟩ := List.getLast?_eq_some_iff.1 (same.trans last)
  have parts : Segment.tokensEach (initial ++ [.generic i colons args trailing]) =
      initial.map Segment.tokens ++ [(Segment.generic i colons args trailing).tokens] := by
    rw [Segment.tokensEach_eq_map, List.map_append, List.map_singleton]
  obtain ⟨before, ends⟩ := joined_concat (operator "::") (initial.map Segment.tokens)
    (Segment.generic i colons args trailing).tokens
  obtain ⟨next, after, named⟩ : ∃ next after,
      (Segment.generic i colons args trailing).tokens = i.token :: next :: after := by
    rw [Segment.tokens]
    cases colons <;> exact ⟨_, _, rfl⟩
  rw [Ty.key, normal, Ty.display, Ty.tokens, Path.tokens, parts, ends, named, ← List.append_assoc]
  exact Tree.blank_mem_displayAll _ _ rfl

/-- The key of a path to something of the module without arguments is its name. -/
theorem Path.key_of_local? {p : Path} {i : Ident} (named : p.local? = some (.plain i)) :
    (Ty.path p).key = i.name := by
  unfold Path.local? at named
  split at named
  · cases named
    exact Ty.key_ofIdent i
  · split at named
    · next first s behind =>
      cases named
      have key := Ty.key_ofIdent i
      rw [Ty.key, Ty.normal_ofIdent] at key
      rw [Ty.key, Ty.normal, if_pos behind]
      exact key
    · cases named
  · cases named

/-! ## Modules -/

/-- The segment that names something of the module is the last one. -/
theorem Path.last_of_local? {leading : Option Origin} {segments : List Segment} {s : Segment}
    (named : (Path.plain leading segments).local? = some s) : segments.getLast? = some s := by
  unfold Path.local? at named
  split at named
  · next same =>
    cases same
    exact named
  · next same =>
    cases same
    split at named
    · exact named
    · cases named
  · cases named

/-- What can be cloned if some paths are standard can be if more of those are that end in the name
of a standard type. -/
theorem VisiblyClone.imp {cloned : String → Prop} {standard standard' : Path → Prop} {t : Ty}
    (h : VisiblyClone cloned standard t)
    (weaker : ∀ leading segments s, segments.getLast? = some s → s.ident.name ∈ standardNames →
      standard (.plain leading segments) → standard' (.plain leading segments)) :
    VisiblyClone cloned standard' t := by
  induction h with
  | reference => exact .reference
  | paren _ ih => exact .paren ih
  | tuple _ ih => exact .tuple ih
  | array _ ih => exact .array ih
  | own clones => exact .own clones
  | plain last known listed bare =>
    have standardName := mem_standardNames_iff.2 (.inl listed)
    exact .plain last (weaker _ _ _ last standardName known) listed bare
  | shared last known listed =>
    have standardName := mem_standardNames_iff.2 (.inr (.inl listed))
    exact .shared last (weaker _ _ _ last standardName known) listed
  | container last known listed _ ih =>
    have standardName := mem_standardNames_iff.2 (.inr (.inr listed))
    exact .container last (weaker _ _ _ last standardName known) listed ih

/-- A standard name with an empty list of arguments. -/
def Path.emptied (name : String) : Path :=
  .plain none [.generic (.generated name) false [] false]

theorem visiblyClone_emptied {cloned : String → Prop} {standard : Path → Prop} {name : String}
    (listed : name ∈ standardNames) (known : standard (Path.emptied name)) :
    VisiblyClone cloned standard (.path (Path.emptied name)) := by
  rcases mem_standardNames_iff.1 listed with plain | shared | container
  · exact .plain rfl known plain rfl
  · exact .shared rfl known shared
  · exact .container rfl known container nofun

/-- A path of the module that is visibly standard does not name one of its own types. -/
theorem not_visiblyClone_emptied {items : List Item} {name : String} (own : OwnType items name)
    (spelled : ∀ cloned, ClonedBy items cloned → ' ' ∉ cloned.toList) :
    ¬ VisiblyClone (ClonedBy items) (Path.Foreign items) (.path (Path.emptied name)) := by
  rintro (_ | _ | _ | _ | ⟨clones⟩ | ⟨-, known⟩ | ⟨-, known⟩ | ⟨-, known⟩)
  · exact spelled _ clones (Ty.blank_mem_key rfl)
  all_goals exact known _ rfl own

/-- What holds a type of another name, which the module does not say can be cloned, cannot visibly
be cloned either. -/
theorem Ty.Holds.not_visiblyClone {cloned : String → Prop} {standard : Path → Prop}
    {name : String} {t : Ty} (holds : t.Holds name) (unsaid : ¬ cloned name)
    (other : name ∉ standardNames) (spelled : ∀ name, cloned name → ' ' ∉ name.toList) :
    ¬ VisiblyClone cloned standard t := by
  induction holds with
  | own named same =>
    subst same
    rintro (_ | _ | _ | _ | ⟨clones⟩ | ⟨last', -, listed⟩ | ⟨last', -, listed⟩ |
      ⟨last', -, listed⟩)
    · exact unsaid (Path.key_of_local? named ▸ clones)
    all_goals
      cases (Path.last_of_local? named).symm.trans last'
      apply other
      rw [mem_standardNames_iff]
    · exact .inl listed
    · exact .inr (.inl listed)
    · exact .inr (.inr listed)
  | paren _ ih => exact fun | .paren held => ih held
  | tuple listed _ ih => exact fun | .tuple held => ih (held _ listed)
  | array _ ih => exact fun | .array held => ih held
  | @container leading segments s t last listed passed _ ih =>
    rintro (_ | _ | _ | _ | ⟨clones⟩ | ⟨last', -, -, bare⟩ | ⟨last', -, shared⟩ |
      ⟨last', -, -, held⟩)
    · cases s with
      | plain => cases passed
      | generic => exact spelled _ clones (Ty.blank_mem_key last)
    · cases last.symm.trans last'
      rw [bare] at passed
      cases passed
    · have apart : ∀ name ∈ Catalogue.sharedCloneable, name ∉ Catalogue.containers := by decide
      cases last.symm.trans last'
      exact apart _ shared listed
    · cases last.symm.trans last'
      exact ih (held _ passed)

/-- What can be cloned in a module. A type is accepted iff it can visibly be cloned, where the last
name of a path decides about types of the standard library. If no name of a type holds a blank, the
types of the module are told from those, for all types, iff none of them is called like one; and
what holds a type of another name, for which the module does not say that it can be cloned, is never
accepted. -/
theorem isClone_exact {items kept : List Item} {c : Catalogue}
    (collected : collect items = .ok (c, kept)) :
    (∀ t, c.isClone t = true ↔ VisiblyClone (ClonedBy items) (fun _ => True) t) ∧
      ((∀ name, ClonedBy items name → ' ' ∉ name.toList) →
        ((∀ t, c.isClone t = true → VisiblyClone (ClonedBy items) (Path.Foreign items) t) ↔
          ∀ name ∈ standardNames, ¬ OwnType items name) ∧
        ∀ name, ¬ ClonedBy items name → name ∉ standardNames →
          ∀ t : Ty, t.Holds name → c.isClone t = false) := by
  have accepted := Catalogue.isClone_iff fun _ => mem_cloneable_iff collected
  refine ⟨accepted, fun spelled => ⟨⟨fun strict name listed own => ?_, fun apart t ht => ?_⟩, ?_⟩⟩
  · refine not_visiblyClone_emptied own spelled (strict _ ((accepted _).2 ?_))
    exact visiblyClone_emptied listed trivial
  · refine ((accepted t).1 ht).imp fun leading segments s last listed _ s' named => ?_
    cases last.symm.trans (Path.last_of_local? named)
    exact apart _ listed
  · intro name unsaid other t holds
    rw [← Bool.not_eq_true, accepted]
    exact holds.not_visiblyClone unsaid other spelled

/-- An implementation of `Clone` for a type with a plain name. -/
def cloneFor (type : String) : Item :=
  .impl ⟨[], [], none, .empty, some ⟨false, .ofIdent (.generated "Clone")⟩, .ofName type, []⟩

/-- The type of optional values. -/
def Ty.optional (t : Ty) : Ty :=
  .path (.plain none [.generic (.generated "Option") false [.type t] false])

/-- Two structs, one of which can be cloned. -/
def lockable : List Item :=
  [openStruct "Key" [], openStruct "Lock" [], cloneFor "Key"]

theorem isClone_exact_lockable :
    ∃ c kept, collect lockable = .ok (c, kept) ∧
      VisiblyClone (· = "Key") (fun _ => True) (.optional (.ofName "Key")) ∧
      c.isClone (.optional (.ofName "Lock")) = false := by
  obtain ⟨⟨c, kept⟩, collected, found⟩ := exists_ok_of_toOption
    (x := collect lockable)
    (f := fun r => (r.1.cloneable, r.1.isClone (.optional (.ofName "Key")))) (b := (["Key"], true))
    (by decide +kernel)
  obtain ⟨listed, accepted⟩ := Prod.mk.inj found
  have said (name : String) : ClonedBy lockable name ↔ name = "Key" := by
    rw [← mem_cloneable_iff collected, listed, List.mem_singleton]
  obtain ⟨exact, spelled⟩ := isClone_exact collected
  obtain ⟨-, refused⟩ := spelled fun name clones => by
    rw [(said name).1 clones]
    decide
  refine ⟨c, kept, collected, ?_, ?_⟩
  · rw [← funext fun name => propext (said name)]
    exact (exact _).1 accepted
  · refine refused "Lock" (fun clones => absurd ((said _).1 clones) (by decide)) (by decide) _ ?_
    exact .container rfl (by decide) List.mem_cons_self (.own rfl rfl)

/-- A struct that is called like a type of the standard library. -/
def ownString : List Item := [openStruct "String" []]

/-- A struct that is called like a type of the standard library is taken for it: nothing says that
it can be cloned, but it is accepted. -/
theorem isClone_of_hidden_standard :
    ∃ c kept, collect ownString = .ok (c, kept) ∧
      OwnType ownString "String" ∧ ¬ ClonedBy ownString "String" ∧
      c.isClone (.ofName "String") = true ∧
      ¬ VisiblyClone (ClonedBy ownString) (Path.Foreign ownString) (.ofName "String") := by
  obtain ⟨⟨c, kept⟩, collected, found⟩ := exists_ok_of_toOption
    (x := collect ownString)
    (f := fun r => (r.1.cloneable, r.1.isClone (.ofName "String"))) (b := ([], true))
    (by decide +kernel)
  obtain ⟨listed, accepted⟩ := Prod.mk.inj found
  have own : OwnType ownString "String" := .struct List.mem_cons_self
  have unsaid (name : String) : ¬ ClonedBy ownString name := by
    rw [← mem_cloneable_iff collected, listed]
    exact List.not_mem_nil
  refine ⟨c, kept, collected, own, unsaid _, accepted, ?_⟩
  rintro (_ | _ | _ | _ | ⟨clones⟩ | ⟨-, known⟩ | ⟨-, known⟩ | ⟨-, known⟩)
  · exact unsaid _ clones
  all_goals exact known _ rfl own

end SharedMembers
