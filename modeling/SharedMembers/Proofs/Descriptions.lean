import SharedMembers.Proofs.Precedence

/-!
# Descriptions of types

Which members a type of a module has can be told from the items without going through them: by the
definition of the type and by the methods for it, in their order. Where the definition stands among
the implementations does not matter.

* `methodsOf`, `definedTypes`: the methods for a type, and the types that are defined.
* `find?_readDefinition`, `find?_readMethods`: what one item enters.
* `find?_collect`: the description of a type by the items alone.
* `Contributed.registers`: which fields and methods contribute a member.
* `exists_collect_iff`: which items can be collected.
* `exists_collect_of_perm`: items in another order are collected to the same descriptions.
* `collect_precedence`: the tables of a module go by precedence, wherever the items stand.
-/

namespace SharedMembers

/-! ## What items define -/

/-- The fields with names. -/
def Fields.withNames : Fields → List Field
  | .named _ fields _ => fields
  | _ => []

/-- The type that an item defines without parameters, and its fields with names. -/
def Item.definition? : Item → Option (Ident × List Field)
  | .struct s =>
    if s.generics.parameters.isEmpty then some (s.ident, s.fields.withNames) else none
  | .enum e => if e.generics.parameters.isEmpty then some (e.ident, []) else none
  | _ => none

/-- The implementation that the item is. -/
def Item.impl? : Item → Option ImplItem
  | .impl i => some i
  | _ => none

/-- The methods of an implementation for a type that is written as a plain name, with that name. -/
def ImplItem.methods (i : ImplItem) : List (Ident × Method) :=
  match i.ownType? with
  | none => []
  | some self => i.members.filterMap fun
    | .method m => some (self, m)
    | .other _ => none

/-- The methods for the type with the name, in the order of the items. -/
def methodsOf (items : List Item) (name : String) : List (Ident × Method) :=
  ((items.filterMap Item.impl?).flatMap ImplItem.methods).filter (·.1.name == name)

/-- The names of the types that items define without parameters. -/
def definedTypes (items : List Item) : List String :=
  (items.filterMap Item.definition?).map (·.1.name)

/-! ## Definitions -/

/-- The definition of the type with the name that counts. -/
def lastDefinition? (items : List Item) (name : String) : Option (Ident × List Field) :=
  (items.filterMap Item.definition?).reverse.find? (·.1.name == name)

theorem lastDefinition?_cons (item : Item) (items : List Item) (name : String) :
    lastDefinition? (item :: items) name =
      (lastDefinition? items name).or (item.definition?.filter (·.1.name == name)) := by
  unfold lastDefinition?
  cases defines : item.definition? with
  | none => simp [defines]
  | some d =>
    rw [List.filterMap_cons_some defines, List.reverse_cons, List.find?_append]
    congr 1
    rw [Option.filter_some]
    by_cases same : (d.1.name == name) = true <;> simp [same]

/-- If no type is defined twice, every definition counts. -/
theorem lastDefinition?_eq_some_iff {items : List Item} (unique : (definedTypes items).Nodup)
    {name : String} {d : Ident × List Field} :
    lastDefinition? items name = some d ↔
      d ∈ items.filterMap Item.definition? ∧ d.1.name = name := by
  constructor
  · intro h
    have same := List.find?_some h
    exact ⟨List.mem_reverse.1 (List.mem_of_find?_eq_some h), eq_of_beq same⟩
  · rintro ⟨hd, rfl⟩
    cases found : lastDefinition? items d.1.name with
    | none =>
      have := List.find?_eq_none.1 found d (List.mem_reverse.2 hd)
      exact absurd (beq_self_eq_true _) this
    | some d' =>
      have same := List.find?_some found
      have hd' := List.mem_reverse.1 (List.mem_of_find?_eq_some found)
      exact congrArg some (List.inj_on_of_nodup_map unique hd' hd (eq_of_beq same))

/-- A type is defined if a definition of it counts. -/
theorem isSome_lastDefinition? (items : List Item) (name : String) :
    (lastDefinition? items name).isSome = (definedTypes items).contains name := by
  rw [Bool.eq_iff_iff, List.contains_iff_mem, definedTypes, List.mem_map, lastDefinition?,
    List.find?_isSome]
  constructor
  · rintro ⟨d, hd, same⟩
    exact ⟨d, List.mem_reverse.1 hd, eq_of_beq same⟩
  · rintro ⟨d, hd, rfl⟩
    exact ⟨d, List.mem_reverse.2 hd, beq_self_eq_true _⟩

/-- The fields of a struct contribute what they did before their directives were taken off. -/
theorem Field.contributions_of_take {self : Ident} {f f' : Field} {args : MemberArguments}
    (h : f.take = .ok (args, f')) : f'.entries self args = f.contributions self := by
  obtain ⟨rest, said, -, rfl⟩ := Field.take_eq_ok h
  unfold Field.contributions
  rw [said]
  rfl

/-- The members of a struct are those of its fields. -/
theorem StructItem.table_of_collect {s s' : StructItem} {t : Table}
    (h : s.collect = .ok (t, s')) :
    t = Table.addNew (s.fields.withNames.flatMap (Field.contributions s.ident)) [] := by
  rw [StructItem.collect] at h
  split at h
  · next opened fields trailing listed =>
    obtain ⟨taken, each, h⟩ := bind_eq_ok_iff.1 h
    cases h
    have told := map_eq_of_mapM (g := fun taken => taken.2.entries s.ident taken.1)
      (k := Field.contributions s.ident) (fun _ _ => Field.contributions_of_take) each
    rw [listed, List.flatMap_def, List.flatMap_def]
    exact congrArg (fun entries => Table.addNew entries.flatten []) told
  · next unnamed =>
    cases h
    cases listed : s.fields with
    | unit | positional => rfl
    | named opened fields trailing => exact absurd listed (unnamed opened fields trailing)

/-- What a definition enters. -/
theorem find?_readDefinition {c c' : Catalogue} {item item' : Item}
    (h : c.readDefinition item = .ok (c', item')) (name : String) :
    c'.find? name = ((item.definition?.filter (·.1.name == name)).map fun d =>
      Descriptor.of d.1 d.2 []).or (c.find? name) := by
  have entered (c : Catalogue) (d : Ident × List Field) :
      (c.define (Descriptor.of d.1 d.2 [])).find? name =
        (((some d).filter (·.1.name == name)).map fun d => Descriptor.of d.1 d.2 []).or
          (c.find? name) := by
    rw [Catalogue.find?_define, Option.filter_some]
    show (if name = d.1.name then _ else _) = _
    by_cases same : d.1.name = name
    · rw [if_pos same.symm, if_pos (beq_iff_eq.2 same)]
      rfl
    · rw [if_neg (Ne.symm same), if_neg (beq_iff_eq.not.2 same)]
      rfl
  cases item with
  | struct s =>
    rw [Catalogue.readDefinition] at h
    obtain ⟨⟨table, taken⟩, collected, h⟩ := bind_eq_ok_iff.1 h
    cases h
    have noted : (if deriveClone s.attributes then c.noteClone s.ident.name else c).find? name =
        c.find? name := by
      split <;> rfl
    by_cases plain : s.generics.parameters.isEmpty = true
    · have defines : (Item.struct s).definition? = some (s.ident, s.fields.withNames) :=
        if_pos plain
      rw [if_pos plain, defines, StructItem.table_of_collect collected, ← noted]
      exact entered _ (s.ident, s.fields.withNames)
    · have defines : (Item.struct s).definition? = none := if_neg plain
      rw [if_neg plain, defines]
      exact noted
  | enum e =>
    rw [Catalogue.readDefinition] at h
    by_cases plain : e.generics.parameters.isEmpty = true
    · rw [if_pos plain] at h
      cases h
      have noted : (if deriveClone e.attributes then c.noteClone e.ident.name else c).find? name =
          c.find? name := by
        split <;> rfl
      have defines : (Item.enum e).definition? = some (e.ident, []) := if_pos plain
      rw [defines, ← noted]
      exact entered _ (e.ident, [])
    · rw [if_neg plain] at h
      cases h
      have defines : (Item.enum e).definition? = none := if_neg plain
      rw [defines]
      rfl
  | impl i =>
    cases h
    rfl
  | other kind names code =>
    cases h
    rfl

/-- After all definitions are read, types are described by those that count. -/
theorem find?_readDefinitions {c c' : Catalogue} {items items' : List Item}
    (h : Catalogue.readEach Catalogue.readDefinition c items = .ok (c', items')) (name : String) :
    c'.find? name = ((lastDefinition? items name).map fun d =>
      Descriptor.of d.1 d.2 []).or (c.find? name) := by
  induction items generalizing c items' with
  | nil =>
    cases h
    rfl
  | cons item items ih =>
    rw [Catalogue.readEach] at h
    obtain ⟨⟨c₁, item'⟩, first, h⟩ := bind_eq_ok_iff.1 h
    obtain ⟨⟨c₂, rest⟩, later, h⟩ := bind_eq_ok_iff.1 h
    cases h
    rw [ih later, find?_readDefinition first, lastDefinition?_cons, ← Option.or_assoc]
    cases lastDefinition? items name <;> simp

/-! ## Methods -/

/-- The member that a member of an implementation contributes to the type `self`. -/
def ImplMember.contribution? (self : Ident) : ImplMember → Option (Key × Signature)
  | method m => m.contribution? self
  | other _ => none

/-- What a member of an implementation enters is its contribution. -/
theorem ImplMember.contribution_of_collect {self : Ident} {m : ImplMember}
    {taken : Option (Key × Signature) × ImplMember} (h : m.collect (some self) = .ok taken) :
    taken.1 = m.contribution? self := by
  cases m with
  | other code =>
    cases h
    rfl
  | method m =>
    rw [ImplMember.collect] at h
    obtain ⟨⟨args, rest⟩, said, h⟩ := bind_eq_ok_iff.1 h
    obtain ⟨entry, entered, h⟩ := bind_eq_ok_iff.1 h
    cases h
    show entry = m.contribution? self
    unfold Method.contribution?
    rw [said]
    show entry = (m.entry? self args).toOption.join
    rw [show m.entry? self args = .ok entry from entered]
    rfl

/-- What an implementation enters is what its methods contribute. -/
theorem ImplItem.entries_of_collect {i : ImplItem} {self : Ident}
    {taken : List (Option (Key × Signature) × ImplMember)} (own : i.ownType? = some self)
    (h : i.members.mapM (ImplMember.collect (some self)) = .ok taken) :
    taken.filterMap (·.1) = i.methods.filterMap fun x => x.2.contribution? x.1 := by
  have told : taken.map (·.1) = i.members.map (ImplMember.contribution? self) :=
    map_eq_of_mapM (fun _ _ => ImplMember.contribution_of_collect) h
  calc taken.filterMap (·.1)
    _ = (taken.map (·.1)).filterMap id := by
      rw [List.filterMap_map]
      rfl
    _ = i.members.filterMap (ImplMember.contribution? self) := by
      rw [told, List.filterMap_map]
      rfl
    _ = i.methods.filterMap fun x => x.2.contribution? x.1 := by
      unfold ImplItem.methods
      rw [own, List.filterMap_filterMap]
      congr 1
      funext m
      cases m <;> rfl

theorem Descriptor.of_append (self : Ident) (fields : List Field)
    (methods more : List (Ident × Method)) :
    { of self fields methods with
      table := Table.addAll (more.filterMap fun x => x.2.contribution? x.1)
        (of self fields methods).table } = of self fields (methods ++ more) := by
  unfold of Table.addAll
  rw [List.filterMap_append, List.foldl_append]

/-- All methods of an implementation are for one type. -/
theorem methodsOf_impl {i : ImplItem} {self : Ident} (own : i.ownType? = some self)
    (name : String) : methodsOf [.impl i] name = if name = self.name then i.methods else [] := by
  have named : ∀ x ∈ i.methods, x.1 = self := by
    intro x hx
    unfold ImplItem.methods at hx
    rw [own] at hx
    obtain ⟨m, -, hm⟩ := List.mem_filterMap.1 hx
    cases m with
    | other code => cases hm
    | method m =>
      cases hm
      rfl
  show (i.methods ++ []).filter _ = _
  rw [List.append_nil]
  split
  · next same =>
    refine List.filter_eq_self.2 fun x hx => ?_
    rw [named x hx, same]
    exact beq_self_eq_true _
  · next different =>
    refine List.filter_eq_nil_iff.2 fun x hx same => different ?_
    rw [← eq_of_beq same, named x hx]

theorem methodsOf_cons (item : Item) (items : List Item) (name : String) :
    methodsOf (item :: items) name = methodsOf [item] name ++ methodsOf items name := by
  unfold methodsOf
  rw [← List.filter_append, ← List.flatMap_append, ← List.filterMap_append]
  rfl

/-- The type of the catalogue that the methods of an implementation are for. -/
def ImplItem.target? (c : Catalogue) (i : ImplItem) : Option Ident :=
  i.ownType?.filter fun t => (c.find? t.name).isSome

/-- The catalogue after it is noted what the implementation lets be cloned. -/
def Catalogue.noteCloned (c : Catalogue) (i : ImplItem) : Catalogue :=
  match i.clonedType? with
  | some t => c.noteClone t.name
  | none => c

theorem Catalogue.find?_noteCloned (c : Catalogue) (i : ImplItem) :
    (c.noteCloned i).find? = c.find? := by
  unfold Catalogue.noteCloned
  split <;> rfl

/-- What can be cloned does not tell which types there are. -/
theorem ImplItem.target?_noteCloned (c : Catalogue) (i : ImplItem) :
    i.target? (c.noteCloned i) = i.target? c := by
  unfold ImplItem.target?
  rw [Catalogue.find?_noteCloned]

/-- What an implementation revises. -/
theorem Catalogue.readMethods_impl (c : Catalogue) (i : ImplItem) :
    c.readMethods (.impl i) = (i.members.mapM (ImplMember.collect (i.target? c))).map fun taken =>
      (match i.target? c with
        | some self => (c.noteCloned i).revise self.name (Table.addAll (taken.filterMap (·.1)))
        | none => c.noteCloned i,
        .impl { i with members := taken.map (·.2) }) := by
  rw [← ImplItem.target?_noteCloned]
  rfl

/-- A type that is not in the catalogue gets no methods of an implementation. -/
theorem methodsOf_eq_nil {c : Catalogue} {i : ImplItem} {name : String}
    (unknown : i.target? c = none) (found : (c.find? name).isSome = true) :
    methodsOf [.impl i] name = [] := by
  unfold ImplItem.target? at unknown
  cases own : i.ownType? with
  | none =>
    show (i.methods ++ []).filter _ = _
    unfold ImplItem.methods
    rw [own]
    rfl
  | some self =>
    rw [methodsOf_impl own, if_neg]
    rintro rfl
    rw [own, Option.filter_some, if_pos found] at unknown
    cases unknown

/-- One implementation adds its methods to the description of the type they are for. -/
theorem find?_readMethods {c c' : Catalogue} {item item' : Item}
    (h : c.readMethods item = .ok (c', item')) {name : String} {d? : Option (Ident × List Field)}
    {methods : List (Ident × Method)}
    (found : c.find? name = d?.map fun d => Descriptor.of d.1 d.2 methods) :
    c'.find? name = d?.map fun d => Descriptor.of d.1 d.2 (methods ++ methodsOf [item] name) := by
  cases item with
  | impl i =>
    rw [Catalogue.readMethods_impl] at h
    obtain ⟨taken, each, h⟩ := map_eq_ok_iff.1 h
    cases h
    cases d? with
    | none =>
      split
      · rw [Catalogue.find?_revise, Catalogue.find?_noteCloned, found]
        rfl
      · rw [Catalogue.find?_noteCloned, found]
        rfl
    | some d =>
      split
      · next self known =>
        rw [known] at each
        have own := (Option.filter_eq_some_iff.1 known).1
        rw [Catalogue.find?_revise, Catalogue.find?_noteCloned, found, Option.map_some,
          Option.map_some, Option.map_some, methodsOf_impl own,
          ImplItem.entries_of_collect own each]
        split
        · rw [Descriptor.of_append]
        · rw [List.append_nil]
      · next unknown =>
        rw [Catalogue.find?_noteCloned, methodsOf_eq_nil unknown (by rw [found]; rfl),
          List.append_nil, found]
  | struct s | enum e | other kind names code =>
    cases h
    rw [found, show methodsOf [_] name = [] from rfl, List.append_nil]

/-- All implementations add their methods, in their order. -/
theorem find?_readMethodsOfAll {c c' : Catalogue} {items items' : List Item}
    (h : Catalogue.readEach Catalogue.readMethods c items = .ok (c', items')) {name : String}
    {d? : Option (Ident × List Field)} {methods : List (Ident × Method)}
    (found : c.find? name = d?.map fun d => Descriptor.of d.1 d.2 methods) :
    c'.find? name = d?.map fun d => Descriptor.of d.1 d.2 (methods ++ methodsOf items name) := by
  induction items generalizing c items' methods with
  | nil =>
    cases h
    rw [found, show methodsOf [] name = [] from rfl, List.append_nil]
  | cons item items ih =>
    rw [Catalogue.readEach] at h
    obtain ⟨⟨c₁, item'⟩, first, h⟩ := bind_eq_ok_iff.1 h
    obtain ⟨⟨c₂, rest⟩, later, h⟩ := bind_eq_ok_iff.1 h
    cases h
    rw [ih later (find?_readMethods first found), methodsOf_cons item items, List.append_assoc]

/-! ## Modules -/

/-- Implementations stay as they are, in their order, while definitions are read. -/
theorem impls_readDefinitions {c c' : Catalogue} {items items' : List Item}
    (h : Catalogue.readEach Catalogue.readDefinition c items = .ok (c', items')) :
    items'.filterMap Item.impl? = items.filterMap Item.impl? := by
  have same : items'.map Item.impl? = items.map Item.impl? := by
    refine Catalogue.readEach_map (fun c item c' item' read => ?_) h
    cases item with
    | struct s =>
      obtain ⟨⟨_, _⟩, -, read⟩ := bind_eq_ok_iff.1 read
      cases read
      rfl
    | enum e =>
      rw [Catalogue.readDefinition] at read
      split at read <;> cases read <;> rfl
    | impl i | other kind names code =>
      cases read
      rfl
  have through (items : List Item) :
      items.filterMap Item.impl? = (items.map Item.impl?).filterMap id := by
    rw [List.filterMap_map]
    rfl
  rw [through, same, ← through]

/-- The description of a type is by the definition that counts, and by the methods for it. -/
theorem find?_collect {items kept : List Item} {c : Catalogue}
    (h : collect items = .ok (c, kept)) (name : String) :
    c.find? name = (lastDefinition? items name).map fun d =>
      Descriptor.of d.1 d.2 (methodsOf items name) := by
  rw [collect] at h
  obtain ⟨⟨c₁, items₁⟩, defined, methods⟩ := bind_eq_ok_iff.1 h
  have found := find?_readDefinitions defined name
  rw [show Catalogue.empty.find? name = none from rfl, Option.or_none] at found
  rw [find?_readMethodsOfAll methods found, List.nil_append]
  unfold methodsOf
  rw [impls_readDefinitions defined]

/-- A field is read or written as a whole. -/
theorem Field.Registers.signature_cases {self : Ident} {f : Field} {k : Key} {s : Signature}
    (h : f.Registers self k s) :
    ∃ ident, k.shape = .read ∧
        s = ⟨.shared, .field ident, [], [], some (f.type.withSelf self)⟩ ∨
      k.shape = .write ∧
        s = ⟨.mutable, .field ident, [.generated "value"], [f.type.withSelf self], none⟩ := by
  obtain @⟨_, _, ident, -, -, -, -, -, -, signature⟩ := h
  refine ⟨ident, ?_⟩
  cases shape : k.shape with
  | read =>
    rw [shape] at signature
    exact .inl ⟨rfl, (Option.some.inj signature).symm⟩
  | write =>
    rw [shape] at signature
    exact .inr ⟨rfl, (Option.some.inj signature).symm⟩
  | call n =>
    rw [shape] at signature
    cases signature

theorem Method.Registers.signature_eq {self : Ident} {m : Method} {k : Key} {s : Signature}
    (h : m.Registers self k s) : m.head.signature? self = some s := by
  obtain ⟨-, -, -, signature, -, -⟩ := h
  exact signature

/-- What the items contribute is provided by a field of a struct, or by a method for the type. -/
theorem Contributed.registers {items : List Item} {name : String} {k : Key} {s : Signature}
    (h : Contributed items name (k, s)) :
    (∃ d f, .struct d ∈ items ∧ d.ident.name = name ∧ f ∈ d.fields.withNames ∧
      Field.Registers d.ident f k s) ∨
    ∃ i m self, .impl i ∈ items ∧ i.ownType? = some self ∧ self.name = name ∧
      .method m ∈ i.members ∧ Method.Registers self m k s := by
  cases h with
  | @field d f opened fields trailing args rest _ item owner listed hf said entry =>
    have named : f ∈ d.fields.withNames := by
      rw [listed]
      exact hf
    obtain ⟨ident, name, kept, shared, key, shown, signature⟩ := Field.mem_entries_iff.1 entry
    exact .inl ⟨d, f, item, owner, named, said, kept, shared, name, key, shown, signature⟩
  | @method i m self args rest _ item own owner hm said entry =>
    obtain ⟨kept, shared, signature, key, shown⟩ := Method.entry?_eq_some_iff.1 entry
    exact .inr ⟨i, m, self, item, own, owner, hm, said, kept, shared, signature, key, shown⟩

/-! ## Items in another order -/

/-- What a step needs to succeed, if what it needs of the catalogue stays, all steps need. -/
theorem exists_readEach_iff {step : Catalogue → Item → Except Refusal (Catalogue × Item)}
    {P : Catalogue → Prop} {Q : Item → Prop}
    (needs : ∀ c item, P c → ((∃ r, step c item = .ok r) ↔ Q item))
    (keeps : ∀ c item c' item', P c → step c item = .ok (c', item') → P c')
    {c : Catalogue} (start : P c) (items : List Item) :
    (∃ r, Catalogue.readEach step c items = .ok r) ↔ ∀ item ∈ items, Q item := by
  induction items generalizing c with
  | nil =>
    simp [Catalogue.readEach]
  | cons item items ih =>
    rw [List.forall_mem_cons, ← needs c item start]
    unfold Catalogue.readEach
    constructor
    · rintro ⟨r, h⟩
      obtain ⟨⟨c₁, item'⟩, first, h⟩ := bind_eq_ok_iff.1 h
      obtain ⟨⟨c₂, rest⟩, later, h⟩ := bind_eq_ok_iff.1 h
      exact ⟨⟨_, first⟩, (ih (keeps _ _ _ _ start first)).1 ⟨_, later⟩⟩
    · rintro ⟨⟨⟨c₁, item'⟩, first⟩, rest⟩
      obtain ⟨⟨c₂, rest⟩, later⟩ := (ih (keeps _ _ _ _ start first)).2 rest
      refine ⟨(c₂, item' :: rest), bind_eq_ok_iff.2 ⟨_, first, ?_⟩⟩
      exact bind_eq_ok_iff.2 ⟨_, later, rfl⟩

/-- The directives on the fields of the item can be taken off. -/
def Item.FieldsReadable : Item → Prop
  | .struct s => ∃ r, s.collect = .ok r
  | _ => True

/-- The directives on the methods of the implementation can be taken off, and those methods can be
entered whose type is defined. -/
def ImplItem.Readable (defined : List String) (i : ImplItem) : Prop :=
  ∃ r, i.members.mapM
    (ImplMember.collect (i.ownType?.filter fun t => defined.contains t.name)) = .ok r

theorem exists_readDefinition_iff (c : Catalogue) (item : Item) :
    (∃ r, c.readDefinition item = .ok r) ↔ item.FieldsReadable := by
  cases item with
  | struct s =>
    constructor
    · rintro ⟨r, h⟩
      obtain ⟨taken, collected, -⟩ := bind_eq_ok_iff.1 h
      exact ⟨taken, collected⟩
    · rintro ⟨taken, collected⟩
      exact ⟨_, bind_eq_ok_iff.2 ⟨taken, collected, rfl⟩⟩
  | enum e =>
    refine ⟨fun _ => trivial, fun _ => ?_⟩
    rw [Catalogue.readDefinition]
    split <;> exact ⟨_, rfl⟩
  | impl i | other kind names code => exact ⟨fun _ => trivial, fun _ => ⟨_, rfl⟩⟩

theorem exists_readMethods_iff {defined : List String} {c : Catalogue}
    (known : ∀ name, (c.find? name).isSome = defined.contains name) (item : Item) :
    (∃ r, c.readMethods item = .ok r) ↔ ∀ i, item.impl? = some i → i.Readable defined := by
  cases item with
  | impl i =>
    have target : i.target? c = i.ownType?.filter fun t => defined.contains t.name := by
      unfold ImplItem.target?
      congr 1
      funext t
      exact known t.name
    rw [Catalogue.readMethods_impl, target]
    constructor
    · rintro ⟨r, h⟩ _ same
      cases same
      obtain ⟨taken, each, -⟩ := map_eq_ok_iff.1 h
      exact ⟨taken, each⟩
    · intro readable
      obtain ⟨taken, each⟩ := readable i rfl
      exact ⟨_, map_eq_ok_iff.2 ⟨taken, each, rfl⟩⟩
  | struct s | enum e | other kind names code => exact ⟨fun _ => nofun, fun _ => ⟨_, rfl⟩⟩

/-- Methods make no types. -/
theorem isSome_readMethods {c c' : Catalogue} {item item' : Item}
    (h : c.readMethods item = .ok (c', item')) (name : String) :
    (c'.find? name).isSome = (c.find? name).isSome := by
  cases item with
  | impl i =>
    rw [Catalogue.readMethods_impl] at h
    obtain ⟨taken, -, h⟩ := map_eq_ok_iff.1 h
    cases h
    split
    · rw [Catalogue.find?_revise, Catalogue.find?_noteCloned, Option.isSome_map]
    · rw [Catalogue.find?_noteCloned]
  | struct s | enum e | other kind names code =>
    cases h
    rfl

/-- Items can be collected if the directives on all fields and methods can be read, in whatever
order the items stand. -/
theorem exists_collect_iff (items : List Item) :
    (∃ r, collect items = .ok r) ↔ (∀ item ∈ items, item.FieldsReadable) ∧
      ∀ i ∈ items.filterMap Item.impl?, i.Readable (definedTypes items) := by
  have definitions : (∃ r, Catalogue.readEach Catalogue.readDefinition .empty items = .ok r) ↔
      ∀ item ∈ items, item.FieldsReadable :=
    exists_readEach_iff (P := fun _ => True) (fun c item _ => exists_readDefinition_iff c item)
      (fun _ _ _ _ _ _ => trivial) trivial items
  have methods {c : Catalogue} {items' : List Item}
      (defined : Catalogue.readEach Catalogue.readDefinition .empty items = .ok (c, items')) :
      (∃ r, Catalogue.readEach Catalogue.readMethods c items' = .ok r) ↔
        ∀ i ∈ items.filterMap Item.impl?, i.Readable (definedTypes items) := by
    have known (name : String) : (c.find? name).isSome = (definedTypes items).contains name := by
      rw [find?_readDefinitions defined, ← isSome_lastDefinition?]
      cases lastDefinition? items name <;> rfl
    rw [exists_readEach_iff (fun _ item known => exists_readMethods_iff known item)
      (fun _ _ _ _ known read name => (isSome_readMethods read name).trans (known name)) known,
      ← impls_readDefinitions defined]
    constructor
    · intro readable i hi
      obtain ⟨item, hitem, is⟩ := List.mem_filterMap.1 hi
      exact readable item hitem i is
    · intro readable item hitem i is
      exact readable i (List.mem_filterMap.2 ⟨item, hitem, is⟩)
  unfold collect
  constructor
  · rintro ⟨r, h⟩
    obtain ⟨⟨c, items'⟩, defined, h⟩ := bind_eq_ok_iff.1 h
    exact ⟨definitions.1 ⟨_, defined⟩, (methods defined).1 ⟨r, h⟩⟩
  · rintro ⟨fields, impls⟩
    obtain ⟨⟨c, items'⟩, defined⟩ := definitions.2 fields
    obtain ⟨r, h⟩ := (methods defined).2 impls
    exact ⟨r, bind_eq_ok_iff.2 ⟨_, defined, h⟩⟩

/-- If no type is defined twice, the same definitions count in any order. -/
theorem lastDefinition?_perm {items items' : List Item} (unique : (definedTypes items).Nodup)
    (perm : items'.Perm items) (name : String) :
    lastDefinition? items' name = lastDefinition? items name := by
  have definitions := perm.filterMap Item.definition?
  have unique' : (definedTypes items').Nodup :=
    (List.Perm.map (fun d : Ident × List Field => d.1.name) definitions).nodup_iff.2 unique
  refine Option.ext fun d => ?_
  rw [lastDefinition?_eq_some_iff unique, lastDefinition?_eq_some_iff unique',
    definitions.mem_iff]

/-- Items in another order are collected to the same descriptions if the implementations keep
theirs. -/
theorem exists_collect_of_perm {items items' kept : List Item} {c : Catalogue}
    (unique : (definedTypes items).Nodup) (h : collect items = .ok (c, kept))
    (perm : items'.Perm items)
    (impls : items'.filterMap Item.impl? = items.filterMap Item.impl?) :
    ∃ c' kept', collect items' = .ok (c', kept') ∧ ∀ t, c'.get? t = c.get? t := by
  have readable : ∃ r, collect items' = .ok r := by
    obtain ⟨fields, methods⟩ := (exists_collect_iff items).1 ⟨_, h⟩
    refine (exists_collect_iff items').2 ⟨fun item hitem => fields item (perm.mem_iff.1 hitem), ?_⟩
    have same (name : String) :
        (definedTypes items').contains name = (definedTypes items).contains name := by
      rw [← isSome_lastDefinition?, ← isSome_lastDefinition?, lastDefinition?_perm unique perm]
    rw [impls]
    intro i hi
    unfold ImplItem.Readable
    simp only [same]
    exact methods i hi
  obtain ⟨⟨c', kept'⟩, h'⟩ := readable
  refine ⟨c', kept', h', fun t => ?_⟩
  unfold Catalogue.get?
  rw [find?_collect h, find?_collect h', lastDefinition?_perm unique perm]
  unfold methodsOf
  rw [impls]

/-- The tables of a module in which no type is defined twice go by precedence: each type that is
defined without parameters has, under each key, the last member that a method provides for it, else
the first that a field provides, else none. Where the other items stand among the implementations
does not matter. -/
theorem collect_precedence {items kept : List Item} {c : Catalogue}
    (unique : (definedTypes items).Nodup) (h : collect items = .ok (c, kept)) :
    (∀ item ∈ items, ∀ (T : Ident) (fields : List Field), item.definition? = some (T, fields) →
      ∃ d, c.get? (.ofIdent T) = some d ∧ d.ident = T ∧
        ∀ k, Precedence T fields (methodsOf items T.name) k (d.table.get? k)) ∧
    ∀ items', items'.Perm items → items'.filterMap Item.impl? = items.filterMap Item.impl? →
      ∃ c' kept', collect items' = .ok (c', kept') ∧ ∀ t, c'.get? t = c.get? t := by
  constructor
  · intro item hitem T fields defines
    have counts : lastDefinition? items T.name = some (T, fields) :=
      (lastDefinition?_eq_some_iff unique).2 ⟨List.mem_filterMap.2 ⟨item, hitem, defines⟩, rfl⟩
    refine ⟨Descriptor.of T fields (methodsOf items T.name), ?_, rfl, Descriptor.get?_of T fields _⟩
    rw [Catalogue.get?, Ty.key_ofIdent, find?_collect h, counts]
    rfl
  · intro items' perm impls
    exact exists_collect_of_perm unique h perm impls

/-- A struct with a field of the name. -/
def meter (name : String) : Item :=
  openStruct "Meter" [openField name (.ofName "u32")]

/-- For each type a method of the name, which gives it. -/
def meterReadings (name : String) (types : List String) : List Item :=
  types.map fun t => openMethod "Meter" name [] (some (.ofName t))

/-- Wherever the struct stands, the last method is read and the field is written. -/
theorem collect_precedence_meter :
    (definedTypes (meterReadings "level" ["u8", "u16"] ++ [meter "level"])).Nodup ∧
      ∃ c kept d, collect (meterReadings "level" ["u8", "u16"] ++ [meter "level"]) = .ok (c, kept) ∧
        c.get? (.ofName "Meter") = some d ∧
        d.table.map (fun e => (e.1, e.2.target.isField, e.2.output.map Ty.key)) =
          [(⟨"level", .read⟩, false, some "u16"), (⟨"level", .write⟩, true, none)] ∧
        (∀ k, Precedence (.generated "Meter") [openField "level" (.ofName "u32")]
          (methodsOf (meterReadings "level" ["u8", "u16"]) "Meter") k (d.table.get? k)) ∧
        ∃ c' kept', collect (meter "level" :: meterReadings "level" ["u8", "u16"]) =
          .ok (c', kept') ∧ c'.get? (.ofName "Meter") = some d := by
  have unique : (definedTypes (meterReadings "level" ["u8", "u16"] ++ [meter "level"])).Nodup := by
    decide +kernel
  obtain ⟨⟨c, kept⟩, h, table⟩ := exists_ok_of_toOption
    (x := collect (meterReadings "level" ["u8", "u16"] ++ [meter "level"]))
    (f := fun r => (r.1.get? (.ofName "Meter")).map fun d =>
      d.table.map fun e => (e.1, e.2.target.isField, e.2.output.map Ty.key))
    (b := some [(⟨"level", .read⟩, false, some "u16"), (⟨"level", .write⟩, true, none)])
    (by decide +kernel)
  obtain ⟨described, reordered⟩ := collect_precedence unique h
  obtain ⟨d, found, -, precedence⟩ :=
    described (meter "level") (List.mem_append_right _ List.mem_cons_self) _ _ rfl
  obtain ⟨c', kept', h', same⟩ :=
    reordered ([meter "level"] ++ meterReadings "level" ["u8", "u16"]) List.perm_append_comm rfl
  refine ⟨unique, c, kept, d, h, found, ?_, precedence, c', kept', h', (same _).trans found⟩
  rw [show c.get? (.ofName "Meter") = some d from found] at table
  exact Option.some.inj table

end SharedMembers
