import SharedMembers.Proofs.Preparation

/-!
# Where members come from

Every member in the catalogue of a module was contributed by an item of the module: by a field of a
struct, or by a method of an implementation that is written for the type by its plain name.

Results:
* `Catalogue.readDefinition_contributed`, `Catalogue.readMethods_contributed`: one item adds only
  what it contributes.
* `collect_contributed`: the tables of the catalogue hold only what the items contribute.
* `prepare_contributed`: so it is for the items of a module.
-/

namespace SharedMembers

/-- The items contribute the member to the type with the name. -/
inductive Contributed (items : List Item) (name : String) : Key × Signature → Prop
  | field {s : StructItem} {f : Field} {opened : Origin} {fields : List Field} {trailing : Bool}
      {args : MemberArguments} {rest : List Attribute} {e : Key × Signature}
      (item : .struct s ∈ items) (owner : s.ident.name = name)
      (listed : s.fields = .named opened fields trailing) (hf : f ∈ fields)
      (said : MemberArguments.take f.attributes = .ok (args, rest))
      (entry : e ∈ f.entries s.ident args) : Contributed items name e
  | method {i : ImplItem} {m : Method} {self : Ident} {args : MemberArguments}
      {rest : List Attribute} {e : Key × Signature}
      (item : .impl i ∈ items) (own : i.ownType? = some self) (owner : self.name = name)
      (hm : .method m ∈ i.members) (said : MemberArguments.take m.attributes = .ok (args, rest))
      (entry : m.entry? self args = .ok (some e)) : Contributed items name e

/-- What some of the items contribute is contributed by all of them. -/
theorem Contributed.mono {items items' : List Item} {name : String} {e : Key × Signature}
    (h : Contributed items name e) (more : items ⊆ items') : Contributed items' name e := by
  cases h with
  | field item owner listed hf said entry =>
    exact .field (more item) owner listed hf said entry
  | method item own owner hm said entry => exact .method (more item) own owner hm said entry

/-- Every type of the catalogue is entered under its name, and its members are contributed by the
items. -/
def Catalogue.From (items : List Item) (c : Catalogue) : Prop :=
  ∀ d ∈ c.types, d.2.ident.name = d.1 ∧ ∀ e ∈ d.2.table, Contributed items d.1 e

/-! ## Structs and enums -/

/-- The directives that are taken off a field leave everything else of it. -/
theorem Field.take_eq_ok {f f' : Field} {args : MemberArguments} (h : f.take = .ok (args, f')) :
    ∃ rest, MemberArguments.take f.attributes = .ok (args, rest) ∧ args.setter = none ∧
      f' = { f with attributes := rest } := by
  rw [Field.take] at h
  obtain ⟨⟨args', rest⟩, said, h⟩ := bind_eq_ok_iff.1 h
  dsimp only at h
  split at h
  · cases h
  · next unset =>
    cases h
    exact ⟨rest, said, unset, rfl⟩

/-- The members of a struct are contributed by its fields. -/
theorem StructItem.collect_contributed {items : List Item} {s s' : StructItem} {t : Table}
    (item : .struct s ∈ items) (h : s.collect = .ok (t, s')) :
    ∀ e ∈ t, Contributed items s.ident.name e := by
  rw [StructItem.collect] at h
  split at h
  · next opened fields trailing listed =>
    obtain ⟨taken, each, h⟩ := bind_eq_ok_iff.1 h
    cases h
    intro e he
    rcases Table.mem_addNew he with he | he
    · obtain ⟨⟨args, f'⟩, hf', he⟩ := List.mem_flatMap.1 he
      obtain ⟨f, hf, took⟩ := exists_of_mem_mapM each hf'
      obtain ⟨rest, said, -, rfl⟩ := Field.take_eq_ok took
      exact .field item rfl listed hf said he
    · simp at he
  · cases h
    intro e he
    simp at he

/-- One more type that is described by what the items contribute. -/
theorem Catalogue.From.define {items : List Item} {c : Catalogue} {d : Descriptor}
    (h : c.From items) (contributed : ∀ e ∈ d.table, Contributed items d.ident.name e) :
    (c.define d).From items := by
  intro d' hd'
  rcases List.mem_cons.1 hd' with rfl | hd'
  · exact ⟨rfl, contributed⟩
  · exact h d' hd'

theorem Catalogue.readDefinition_contributed {items : List Item} {c c' : Catalogue}
    {i i' : Item} (hi : i ∈ items) (h : c.From items) (read : c.readDefinition i = .ok (c', i')) :
    c'.From items := by
  cases i with
  | struct s =>
    rw [Catalogue.readDefinition] at read
    obtain ⟨⟨table, taken⟩, collected, read⟩ := bind_eq_ok_iff.1 read
    cases read
    have noted : (if deriveClone s.attributes then c.noteClone s.ident.name else c).From items := by
      split <;> exact h
    split
    · exact noted.define (StructItem.collect_contributed hi collected)
    · exact noted
  | enum e =>
    rw [Catalogue.readDefinition] at read
    split at read
    · cases read
      have noted : (if deriveClone e.attributes then c.noteClone e.ident.name else c).From items := by
        split <;> exact h
      exact noted.define (by simp)
    · cases read
      exact h
  | impl i => cases read; exact h
  | other kind names code => cases read; exact h

/-- Implementations stay as they are while definitions are read. -/
theorem Catalogue.mem_of_readDefinition {c c' : Catalogue} {items items' : List Item}
    (read : Catalogue.readEach Catalogue.readDefinition c items = .ok (c', items')) {i : ImplItem}
    (hi : .impl i ∈ items') : .impl i ∈ items := by
  induction items generalizing c items' with
  | nil =>
    cases read
    exact hi
  | cons item items ih =>
    rw [Catalogue.readEach] at read
    obtain ⟨⟨c₁, item'⟩, first, read⟩ := bind_eq_ok_iff.1 read
    obtain ⟨⟨c₂, rest⟩, later, read⟩ := bind_eq_ok_iff.1 read
    cases read
    rcases List.mem_cons.1 hi with rfl | hi
    · cases item with
      | struct s =>
        obtain ⟨⟨_, _⟩, -, first⟩ := bind_eq_ok_iff.1 first
        cases first
      | enum e =>
        rw [Catalogue.readDefinition] at first
        split at first <;> cases first
      | impl j =>
        cases first
        exact List.mem_cons_self
      | other kind names code => cases first
    · exact List.mem_cons_of_mem _ (ih later hi)

/-! ## Implementations -/

/-- What a member of an implementation enters is a method's. -/
theorem ImplMember.collect_eq_ok {self? : Option Ident} {m m' : ImplMember} {e : Key × Signature}
    (h : m.collect self? = .ok (some e, m')) :
    ∃ method self args rest, m = .method method ∧ self? = some self ∧
      MemberArguments.take method.attributes = .ok (args, rest) ∧
      method.entry? self args = .ok (some e) := by
  cases m with
  | other code => cases h
  | method m =>
    rw [ImplMember.collect] at h
    obtain ⟨⟨args, rest⟩, said, h⟩ := bind_eq_ok_iff.1 h
    cases self? with
    | none => cases h
    | some self =>
      obtain ⟨entry, entered, h⟩ := bind_eq_ok_iff.1 h
      cases h
      exact ⟨m, self, args, rest, rfl, rfl, said, entered⟩

/-- The revision of a type's members by what the items contribute to it. -/
theorem Catalogue.From.revise {items : List Item} {c : Catalogue} {name : String}
    {entries : List (Key × Signature)} (h : c.From items)
    (contributed : ∀ e ∈ entries, Contributed items name e) :
    (c.revise name (Table.addAll entries)).From items := by
  intro d hd
  obtain ⟨⟨n, d⟩, old, rfl⟩ := List.mem_map.1 hd
  obtain ⟨named, members⟩ := h _ old
  dsimp only
  split
  · next same =>
    obtain rfl : n = name := eq_of_beq same
    refine ⟨named, fun e he => ?_⟩
    rcases Table.mem_addAll he with he | he
    · exact contributed e he
    · exact members e he
  · exact ⟨named, members⟩

theorem Catalogue.From.noteCloned {items : List Item} {c : Catalogue} (h : c.From items)
    (i : ImplItem) :
    (match i.clonedType? with
      | some t => c.noteClone t.name
      | none => c).From items := by
  split <;> exact h

theorem Catalogue.readMethods_contributed {items : List Item} {c c' : Catalogue} {i i' : Item}
    (hi : i ∈ items) (h : c.From items) (read : c.readMethods i = .ok (c', i')) :
    c'.From items := by
  cases i with
  | impl i =>
    rw [Catalogue.readMethods] at read
    obtain ⟨taken, each, read⟩ := bind_eq_ok_iff.1 read
    cases read
    have noted := h.noteCloned i
    split
    · next self own =>
      refine noted.revise fun e he => ?_
      obtain ⟨⟨_, m'⟩, hm', rfl⟩ := List.mem_filterMap.1 he
      obtain ⟨m, hm, collected⟩ := exists_of_mem_mapM each hm'
      obtain ⟨method, self', args, rest, rfl, same, said, entry⟩ :=
        ImplMember.collect_eq_ok collected
      cases own.symm.trans same
      exact .method hi (Option.filter_eq_some_iff.1 own).1 rfl hm said entry
    · exact noted
  | struct s => cases read; exact h
  | enum e => cases read; exact h
  | other kind names code => cases read; exact h

/-! ## Modules -/

/-- The tables of a module's catalogue hold only what its items contribute. -/
theorem collect_contributed {items kept : List Item} {c : Catalogue}
    (h : collect items = .ok (c, kept)) : c.From items := by
  rw [collect] at h
  obtain ⟨⟨c₁, items₁⟩, defined, methods⟩ := bind_eq_ok_iff.1 h
  have after : c₁.From items :=
    Catalogue.readEach_induction (fun _ hi _ _ _ => Catalogue.readDefinition_contributed hi)
      (fun d hd => by simp [Catalogue.empty] at hd) defined
  refine Catalogue.readEach_induction (P := Catalogue.From items) ?_ after methods
  intro i hi c c' i' from_items read
  cases i with
  | impl i =>
    exact Catalogue.readMethods_contributed (Catalogue.mem_of_readDefinition defined hi)
      from_items read
  | struct s => cases read; exact from_items
  | enum e => cases read; exact from_items
  | other kind names code => cases read; exact from_items

/-- The tables of the catalogue to which a module is prepared hold only what its items contribute. -/
theorem prepare_contributed {m : Module} {c : Catalogue} {kept : List Item} {r : Registry}
    (h : m.prepare = .ok (c, kept, r)) : c.From (m.items.getD []) := by
  obtain ⟨items, others, inline, parted, collected, -⟩ := prepare_eq_ok h
  rw [inline]
  intro d hd
  obtain ⟨named, members⟩ := collect_contributed collected d hd
  exact ⟨named, fun e he => (members e he).mono (takeWrappers_subset parted)⟩

end SharedMembers
