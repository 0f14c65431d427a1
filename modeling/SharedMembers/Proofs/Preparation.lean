import SharedMembers.Expansion.Basic
import SharedMembers.Proofs.Signatures

/-!
# Preparing a module

Before any member is forwarded, the wrappers are taken out of a module, the members of its types are
collected, and the names are taken. All of this has to succeed.

Results:
* `wellFormed_of_check`: in a wrapper that passes its check no type and no name occurs twice.
* `takeNames_spec`: the names of the wrappers are new, and taken in the end.
* `takeArguments_eq_ok`: what is taken off an item with its directives.
* `takeWrappers_declared`, `takeWrappers_declares`: a declared wrapper is as its enum is, and an
  item that defines a name is kept or declares a wrapper of that name.
* `takeWrappers_others`: which items are left.
* `prepare_eq_ok`: the steps of a preparation.
* `definedName_taken`: every name of a type or trait that the module defines is taken.
* `prepare_fits`: the signatures that are collected fit their keys.
* `expand_eq_ok`: an expansion is that of the registry that was prepared.
* `moduleOf`: modules that are written down in a few words.
-/

namespace SharedMembers

/-! ## Checks of wrappers -/

/-- No type and no name of a variant occurs twice. -/
structure Wrapper.WellFormed (w : Wrapper) : Prop where
  types : (w.types.map Ty.key).Nodup
  names : (w.variants.map (·.1.name)).Nodup

theorem heldTwice?_eq_none {seen vs : List (Ident × Ty)} (h : Wrapper.heldTwice? seen vs = none) :
    (vs.map (·.2.key)).Nodup ∧ ∀ v ∈ vs, ∀ u ∈ seen, u.2.key ≠ v.2.key := by
  induction vs generalizing seen with
  | nil => simp
  | cons v vs ih =>
    obtain ⟨variant, type⟩ := v
    rw [Wrapper.heldTwice?] at h
    split at h
    · cases h
    · next unseen =>
      obtain ⟨nodup, apart⟩ := ih h
      have new : ∀ u ∈ seen, u.2.key ≠ type.key := by simpa using unseen
      rw [List.map_cons, List.nodup_cons, List.forall_mem_cons]
      refine ⟨⟨fun again => ?_, nodup⟩, new, fun v hv u hu => ?_⟩
      · obtain ⟨v, hv, same⟩ := List.mem_map.1 again
        exact apart v hv _ List.mem_cons_self same.symm
      · exact apart v hv u (List.mem_cons_of_mem _ hu)

theorem namedTwice?_eq_none {seen : List String} {vs : List (Ident × Ty)}
    (h : Wrapper.namedTwice? seen vs = none) :
    (vs.map (·.1.name)).Nodup ∧ ∀ v ∈ vs, v.1.name ∉ seen := by
  induction vs generalizing seen with
  | nil => simp
  | cons v vs ih =>
    obtain ⟨variant, type⟩ := v
    rw [Wrapper.namedTwice?] at h
    split at h
    · cases h
    · next unseen =>
      obtain ⟨nodup, apart⟩ := ih h
      rw [List.map_cons, List.nodup_cons, List.forall_mem_cons]
      refine ⟨⟨fun again => ?_, nodup⟩, by simpa using unseen, fun v hv old => ?_⟩
      · obtain ⟨v, hv, same⟩ := List.mem_map.1 again
        exact apart v hv (same ▸ List.mem_cons_self)
      · exact apart v hv (List.mem_cons_of_mem _ old)

/-- In a wrapper that passes its check no type and no name of a variant occurs twice. -/
theorem wellFormed_of_check {w : Wrapper} (h : w.check = .ok ()) : w.WellFormed := by
  rw [Wrapper.check] at h
  split at h
  · cases h
  next unheld =>
  split at h
  · cases h
  next unnamed =>
  constructor
  · rw [Wrapper.types, List.map_map]
    exact (heldTwice?_eq_none unheld).1
  · exact (namedTwice?_eq_none unnamed).1

/-! ## Names that are taken -/

/-- The names of the wrappers are different from one another and from those that were taken, and
all of them are taken in the end. -/
theorem takeNames_spec {taken names : List String} {ws : List Wrapper}
    (h : takeNames taken ws = .ok names) :
    (ws.map (·.ident.name)).Nodup ∧ (∀ w ∈ ws, w.ident.name ∉ taken) ∧
      taken ⊆ names ∧ ∀ w ∈ ws, w.ident.name ∈ names := by
  induction ws generalizing taken with
  | nil =>
    cases h
    simp
  | cons w ws ih =>
    rw [takeNames] at h
    split at h
    · cases h
    · next free =>
      obtain ⟨nodup, fresh, more, held⟩ := ih h
      rw [List.contains_iff_mem] at free
      refine ⟨List.nodup_cons.2 ⟨fun again => ?_, nodup⟩, ?_, ?_, ?_⟩
      · obtain ⟨v, hv, same⟩ := List.mem_map.1 again
        exact fresh v hv (same ▸ List.mem_cons_self)
      · rw [List.forall_mem_cons]
        exact ⟨free, fun v hv old => fresh v hv (List.mem_cons_of_mem _ old)⟩
      · exact fun name old => more (List.mem_cons_of_mem _ old)
      · rw [List.forall_mem_cons]
        exact ⟨more List.mem_cons_self, held⟩

/-- Wrappers that are called alike take the same names. -/
theorem takeNames_related {R : Wrapper → Wrapper → Prop}
    (keeps : ∀ w v, R w v → w.ident.name = v.ident.name) {taken names names' : List String}
    {ws vs : List Wrapper} (sides : List.Forall₂ R ws vs) (h : takeNames taken ws = .ok names)
    (h' : takeNames taken vs = .ok names') : names = names' := by
  induction sides generalizing taken with
  | nil =>
    cases h
    cases h'
    rfl
  | cons first _ ih =>
    rw [takeNames, keeps _ _ first] at h
    rw [takeNames] at h'
    split at h
    · cases h
    · next free =>
      rw [if_neg free] at h'
      exact ih h h'

/-! ## Declared wrappers -/

/-- The wrapper is declared by the enum: it is called like it and as visible, has variants, and
belongs to no other wrapper. -/
structure Wrapper.DeclaredBy (e : EnumItem) (w : Wrapper) : Prop where
  ident : w.ident = e.ident
  visibility : w.visibility = e.visibility
  several : w.variants ≠ []
  unowned : w.owner = none

theorem declaredBy_of_ofEnum {e : EnumItem} {args : WrapperArguments} {w : Wrapper}
    (h : Wrapper.ofEnum e args = .ok w) : w.DeclaredBy e := by
  rw [Wrapper.ofEnum] at h
  split at h
  · cases h
  split at h
  · cases h
  next several =>
  obtain ⟨variants, all, rfl⟩ := map_eq_ok_iff.1 h
  refine ⟨rfl, rfl, fun nil => several ?_, rfl⟩
  have same := (mapM_eq_ok_iff.1 all).length_eq
  rw [show variants = [] from nil, List.length_nil] at same
  rw [List.isEmpty_iff, List.length_eq_zero_iff.1 same]

/-- Taking directives leaves the other attributes, and finds arguments iff there is a directive. -/
theorem takeArguments_eq_ok {α : Type} {readers : List (EntryReader α)} {initial : α}
    {attributes rest : List Attribute} {found : Option α}
    (h : takeArguments readers initial attributes = .ok (found, rest)) :
    rest = attributes.filter (!·.isDirective) ∧
      found.isSome = attributes.any Attribute.isDirective := by
  obtain ⟨⟨d, left⟩, taken, h⟩ := bind_eq_ok_iff.1 h
  have attributesLeft := takeDirectives_attributes taken
  obtain ⟨_, gathered, same⟩ := bind_eq_ok_iff.1 taken
  cases same
  obtain ⟨lists, -, same⟩ := bind_eq_ok_iff.1 gathered
  cases same
  have last : (attributes.filter Attribute.isDirective).getLast?.isSome =
      attributes.any Attribute.isDirective := by
    rw [Bool.eq_iff_iff, List.getLast?_isSome]
    simp
  rw [← last]
  cases directive : (attributes.filter Attribute.isDirective).getLast? with
  | none =>
    rw [directive] at h
    cases h
    exact ⟨attributesLeft, rfl⟩
  | some d =>
    rw [directive] at h
    obtain ⟨_, -, h⟩ := bind_eq_ok_iff.1 h
    cases h
    exact ⟨attributesLeft, rfl⟩

/-- The item is an enum with a directive. -/
def Item.declaresWrapper : Item → Bool
  | .enum e => e.attributes.any Attribute.isDirective
  | _ => false

/-- An enum with a directive declares a wrapper; any other item is kept as it is. -/
theorem declaredOrKept_cases {i : Item} {part : Wrapper ⊕ Item} (h : declaredOrKept i = .ok part) :
    (i.declaresWrapper = true ∧ ∃ e w, i = .enum e ∧ part = .inl w ∧ w.DeclaredBy e) ∨
      i.declaresWrapper = false ∧ part = .inr i := by
  cases i with
  | enum e =>
    rw [declaredOrKept] at h
    obtain ⟨⟨args, rest⟩, taken, h⟩ := bind_eq_ok_iff.1 h
    have directed := (takeArguments_eq_ok taken).2.symm
    cases args with
    | none =>
      cases h
      exact .inr ⟨directed, rfl⟩
    | some args =>
      obtain ⟨w, declared, h⟩ := bind_eq_ok_iff.1 h
      cases h
      have by_enum := declaredBy_of_ofEnum declared
      exact .inl ⟨directed, e, w, rfl, rfl, by_enum.ident, by_enum.visibility, by_enum.several,
        by_enum.unowned⟩
  | struct s => cases h; exact .inr ⟨rfl, rfl⟩
  | impl i => cases h; exact .inr ⟨rfl, rfl⟩
  | other kind names code => cases h; exact .inr ⟨rfl, rfl⟩

/-- A wrapper that is taken out is declared by an item with a directive. -/
theorem takeWrappers_declared {items others : List Item} {ws : List Wrapper}
    (h : takeWrappers items = .ok (ws, others)) {w : Wrapper} (hw : w ∈ ws) :
    ∃ e, .enum e ∈ items ∧ (Item.enum e).declaresWrapper = true ∧ w.DeclaredBy e := by
  obtain ⟨parts, all, made⟩ := bind_eq_ok_iff.1 h
  cases made
  obtain ⟨part, hpart, left⟩ := List.mem_filterMap.1 hw
  obtain ⟨item, hitem, made⟩ := exists_of_mem_mapM all hpart
  rcases declaredOrKept_cases made with ⟨declares, e, w', rfl, rfl, declared⟩ | ⟨-, rfl⟩
  · cases left
    exact ⟨e, hitem, declares, declared⟩
  · cases left

/-- A wrapper that is taken out has variants and no owner; an item that defines a name is one of the
others, or a wrapper of that name. -/
theorem takeWrappers_declares {items others : List Item} {ws : List Wrapper}
    (h : takeWrappers items = .ok (ws, others)) :
    (∀ w ∈ ws, w.variants ≠ [] ∧ w.owner = none) ∧
      ∀ item ∈ items, ∀ i, item.definedName? = some i → item ∈ others ∨ ∃ w ∈ ws, w.ident = i := by
  constructor
  · intro w hw
    obtain ⟨e, -, -, declared⟩ := takeWrappers_declared h hw
    exact ⟨declared.several, declared.unowned⟩
  · obtain ⟨parts, all, made⟩ := bind_eq_ok_iff.1 h
    cases made
    intro item hitem i name
    obtain ⟨part, paired, made⟩ := exists_mem_zip (mapM_eq_ok_iff.1 all) hitem
    have hpart := (List.of_mem_zip paired).2
    rcases declaredOrKept_cases made with ⟨-, e, w, rfl, rfl, declared⟩ | ⟨-, rfl⟩
    · refine .inr ⟨w, List.mem_filterMap.2 ⟨.inl w, hpart, rfl⟩, ?_⟩
      exact declared.ident.trans (Option.some.inj name)
    · exact .inl (List.mem_filterMap.2 ⟨_, hpart, rfl⟩)

/-- The items that declare no wrapper are left as they are. -/
theorem takeWrappers_others {items others : List Item} {ws : List Wrapper}
    (h : takeWrappers items = .ok (ws, others)) :
    others = items.filter (!·.declaresWrapper) := by
  obtain ⟨parts, all, made⟩ := bind_eq_ok_iff.1 h
  have sides := mapM_eq_ok_iff.1 all
  cases made
  clear h all
  induction sides with
  | nil => rfl
  | cons first _ ih =>
    rcases declaredOrKept_cases first with ⟨declares, e, w, -, rfl, -⟩ | ⟨declares, rfl⟩
    · rw [List.filter_cons_of_neg (by simpa using declares)]
      exact ih
    · rw [List.filter_cons_of_pos (by simpa using declares)]
      exact congrArg (_ :: ·) ih

theorem takeWrappers_subset {items others : List Item} {ws : List Wrapper}
    (h : takeWrappers items = .ok (ws, others)) : others ⊆ items := by
  rw [takeWrappers_others h]
  exact List.filter_subset_self _

/-! ## Names that are defined -/

theorem StructItem.collect_ident {s s' : StructItem} {t : Table}
    (h : s.collect = .ok (t, s')) : s'.ident = s.ident := by
  rw [StructItem.collect] at h
  split at h
  · obtain ⟨taken, -, h⟩ := bind_eq_ok_iff.1 h
    cases h
    rfl
  · cases h
    rfl

theorem Catalogue.readDefinition_definedName? {c c' : Catalogue} {item item' : Item}
    (h : c.readDefinition item = .ok (c', item')) : item'.definedName? = item.definedName? := by
  cases item with
  | struct s =>
    rw [Catalogue.readDefinition] at h
    obtain ⟨⟨table, taken⟩, ht, h⟩ := bind_eq_ok_iff.1 h
    cases h
    exact congrArg some (StructItem.collect_ident ht)
  | enum e =>
    rw [Catalogue.readDefinition] at h
    split at h <;> cases h <;> rfl
  | impl i => cases h; rfl
  | other kind names code => cases h; rfl

theorem Catalogue.readMethods_definedName? {c c' : Catalogue} {item item' : Item}
    (h : c.readMethods item = .ok (c', item')) : item'.definedName? = item.definedName? := by
  cases item with
  | impl i =>
    rw [Catalogue.readMethods] at h
    obtain ⟨taken, -, h⟩ := bind_eq_ok_iff.1 h
    cases h
    rfl
  | struct s => cases h; rfl
  | enum e => cases h; rfl
  | other kind names code => cases h; rfl

/-- Collecting members leaves the names that items define. -/
theorem collect_definedNames {items kept : List Item} {c : Catalogue}
    (h : collect items = .ok (c, kept)) :
    kept.map Item.definedName? = items.map Item.definedName? := by
  rw [collect] at h
  obtain ⟨⟨c₁, items₁⟩, h₁, h₂⟩ := bind_eq_ok_iff.1 h
  have definitions : items₁.map Item.definedName? = items.map Item.definedName? :=
    Catalogue.readEach_map (fun _ _ _ _ => Catalogue.readDefinition_definedName?) h₁
  rw [← definitions]
  exact Catalogue.readEach_map (fun _ _ _ _ => Catalogue.readMethods_definedName?) h₂

theorem definedNames_kept {items kept : List Item} {c : Catalogue}
    (h : collect items = .ok (c, kept)) : definedNames kept = definedNames items := by
  have := congrArg (List.filterMap (Option.map Ident.name)) (collect_definedNames h)
  rwa [List.filterMap_map, List.filterMap_map] at this

/-- Items that define the same names one by one define the same names. -/
theorem definedNames_related {R : Item → Item → Prop}
    (keeps : ∀ i j, R i j → i.definedName?.map Ident.name = j.definedName?.map Ident.name)
    {is js : List Item} (sides : List.Forall₂ R is js) : definedNames is = definedNames js := by
  induction sides with
  | nil => rfl
  | cons first _ ih =>
    unfold definedNames at *
    rw [List.filterMap_cons, List.filterMap_cons, keeps _ _ first, ih]

/-! ## Declarations -/

theorem declare_eq_ok {r s : Registry} {w : Wrapper} (h : r.declare w = .ok s) :
    w.check = .ok () ∧ s = r.push w := by
  obtain ⟨_, checked, same⟩ := map_eq_ok_iff.1 h
  exact ⟨checked, same.symm⟩

/-- Wrappers are declared behind those that are there, and all of them are checked. -/
theorem declareAll_eq_ok {r s : Registry} {ws : List Wrapper} (h : r.declareAll ws = .ok s) :
    s.wrappers = r.wrappers ++ ws ∧ s.taken = r.taken ∧ ∀ w ∈ ws, w.check = .ok () := by
  induction ws generalizing r with
  | nil =>
    cases h
    exact ⟨(List.append_nil _).symm, rfl, by simp⟩
  | cons w ws ih =>
    obtain ⟨r', first, rest⟩ := bind_eq_ok_iff.1 h
    obtain ⟨checked, rfl⟩ := declare_eq_ok first
    obtain ⟨wrappers, taken, all⟩ := ih rest
    refine ⟨?_, taken, List.forall_mem_cons.2 ⟨checked, all⟩⟩
    rw [wrappers, Registry.push, List.append_assoc, List.singleton_append]

/-! ## The preparation -/

/-- The steps of a preparation that succeeds. -/
theorem prepare_eq_ok {m : Module} {c : Catalogue} {kept : List Item} {r : Registry}
    (h : m.prepare = .ok (c, kept, r)) :
    ∃ items others, m.items = some items ∧ takeWrappers items = .ok (r.wrappers, others) ∧
      collect others = .ok (c, kept) ∧ takeNames (definedNames kept) r.wrappers = .ok r.taken ∧
      (Registry.new r.taken).declareAll r.wrappers = .ok r := by
  rw [Module.prepare] at h
  split at h
  · cases h
  · next items found =>
    obtain ⟨⟨wrappers, others⟩, parted, h⟩ := bind_eq_ok_iff.1 h
    dsimp only at h
    split at h
    · cases h
    · obtain ⟨⟨c, kept⟩, collected, h⟩ := bind_eq_ok_iff.1 h
      obtain ⟨_, -, h⟩ := bind_eq_ok_iff.1 h
      obtain ⟨taken, named, h⟩ := bind_eq_ok_iff.1 h
      obtain ⟨s, declared, h⟩ := bind_eq_ok_iff.1 h
      cases h
      obtain ⟨same, names, -⟩ := declareAll_eq_ok declared
      obtain rfl : r.wrappers = wrappers := same
      obtain rfl : r.taken = taken := names
      exact ⟨items, others, found, parted, collected, named, declared⟩

/-- Every name of a type or trait that the module defines is taken. -/
theorem definedName_taken {m : Module} {c : Catalogue} {kept : List Item} {r : Registry}
    (h : m.prepare = .ok (c, kept, r)) {items : List Item} (inline : m.items = some items)
    {item : Item} (hitem : item ∈ items) {i : Ident} (defines : item.definedName? = some i) :
    i.name ∈ r.taken := by
  obtain ⟨items', others, inline', parted, collected, named, -⟩ := prepare_eq_ok h
  cases inline.symm.trans inline'
  obtain ⟨-, -, more, held⟩ := takeNames_spec named
  rcases (takeWrappers_declares parted).2 item hitem i defines with other | ⟨w, hw, rfl⟩
  · apply more
    rw [definedNames_kept collected]
    exact List.mem_filterMap.2 ⟨item, other, by rw [defines]; rfl⟩
  · exact held w hw

/-- The catalogue of a module that is expanded has signatures that fit their keys. -/
theorem prepare_fits {m : Module} {c : Catalogue} {kept : List Item} {r : Registry}
    (h : m.prepare = .ok (c, kept, r)) : c.Fits := by
  obtain ⟨items, others, -, -, collected, -⟩ := prepare_eq_ok h
  exact collect_fits collected

/-- An expansion is that of the registry that was prepared, behind the items that were kept. -/
theorem expand_eq_ok {m : Module} {library : Path} {e : Expansion}
    (h : m.expand library = .ok e) :
    ∃ c kept r, m.prepare = .ok (c, kept, r) ∧ r.expand c = .ok (e.wrappers, e.warnings) ∧
      e = ⟨m, kept, library, e.wrappers, e.warnings⟩ := by
  rw [Module.expand] at h
  split at h
  · cases h
  · next c kept r prepared =>
    split at h
    · cases h
    · next wrappers warnings expanded =>
      cases h
      exact ⟨c, kept, r, prepared, expanded, rfl⟩

/-! ## Modules of plain structs -/

/-- The type with a plain name. -/
def Ty.ofName (name : String) : Ty :=
  .ofIdent (.generated name)

/-- A field that everyone may use. -/
def openField (name : String) (type : Ty) : Field :=
  ⟨[], .everywhere none, some (.generated name), type⟩

/-- A struct that everyone may use. -/
def openStruct (name : String) (fields : List Field) : Item :=
  .struct ⟨[], .everywhere none, none, .generated name, .empty, .named none fields false⟩

/-- An implementation of a method that everyone may use, which reads a value of the type. -/
def openMethod (type method : String) (arguments : List Ty) (output : Option Ty) : Item :=
  .impl ⟨[], [], none, .empty, none, .ofName type,
    [.method ⟨[], .everywhere none, none,
      ⟨none, none, none, none, none, .generated method, .empty,
        .self ⟨[], some (none, none), false, none, none⟩ ::
          arguments.map (.typed [] ⟨none, []⟩), false, none, output⟩, []⟩]⟩

/-- An enum that declares a wrapper over types with plain names. -/
def declaringEnum (name : String) (subtypes : List String) : Item :=
  .enum ⟨[⟨none, false, .ofIdent (.generated directiveName), .nothing⟩], .everywhere none, none,
    .generated name, .empty, subtypes.map fun t => ⟨[], .generated t, .unit, none⟩, false⟩

/-- The directive that leaves a member out. -/
def skipDirective : Attribute :=
  ⟨none, false, .ofIdent (.generated directiveName),
    .list .parenthesis none none [.word "skip" none]⟩

/-- The directive that gives a member another name. -/
def renameDirective (name : String) : Attribute :=
  ⟨none, false, .ofIdent (.generated directiveName),
    .list .parenthesis none none [.word "rename" none, .punct '=' false none, .word name none]⟩

/-- A module with the items. -/
def moduleOf (items : List Item) : Module :=
  ⟨[], .inherited, none, none, .generated "shapes", some items⟩

/-- The wrappers by name with their accessors' names and the keys of what these return. -/
def Expansion.overview (e : Expansion) : List (String × List (String × Option String)) :=
  e.wrappers.map fun g =>
    (g.wrapper.ident.name, g.accessors.map fun a => (a.key.accessorName, a.output.map Ty.key))

end SharedMembers
