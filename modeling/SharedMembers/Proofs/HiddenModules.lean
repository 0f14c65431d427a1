import SharedMembers.Proofs.HiddenMembers
import SharedMembers.Proofs.PlacelessText

/-!
# Modules with hidden members

Adding or removing hidden fields and methods, any number of them anywhere in a module, changes
nothing of what is generated and nothing of the warnings.

Two runs are followed side by side: through the collection of members, where the hidden ones are
passed over, and from there through the same steps, but for the places where things were written.

Results:
* `collect_hidden`: the catalogues of two modules that agree but for hidden members agree.
* `prepare_hidden`: so do the wrappers that they declare.
* `expand_hidden`: so do the generated items and the warnings.
-/

namespace SharedMembers

/-! ## The items one after the other -/

/-- Only what is an implementation has methods, and then the methods agree. -/
inductive Item.SameMethods : Item → Item → Prop
  | impl {i j : ImplItem} (same : i.Same j) : SameMethods (.impl i) (.impl j)
  | others {a b : Item} (left : ∀ i, a ≠ .impl i) (right : ∀ j, b ≠ .impl j) : SameMethods a b

theorem Item.Same.definedName? {a b : Item} (h : a.Same b) :
    a.definedName?.map Ident.name = b.definedName?.map Ident.name := by
  cases h with
  | struct same =>
    exact congrArg some (Ident.name_eq_of_unplaced (congrArg StructItem.ident same.places))
  | enum same =>
    exact congrArg some (Ident.name_eq_of_unplaced (congrArg EnumItem.ident same.places))
  | impl same => rfl
  | @other kind names names' code code' sameNames sameCode =>
    have head : names.head?.map Ident.name = names'.head?.map Ident.name := by
      have := congrArg (fun ns => ns.head?.map Ident.name) sameNames
      simpa [Function.comp_def] using this
    cases kind <;> first | exact head | rfl

theorem Item.Same.readDefinition {c d c' d' : Catalogue} {a b a' b' : Item}
    (catalogues : c.unplaced = d.unplaced) (h : a.Same b) (ha : c.readDefinition a = .ok (c', a'))
    (hb : d.readDefinition b = .ok (d', b')) :
    c'.unplaced = d'.unplaced ∧ a'.SameMethods b' := by
  cases h with
  | @struct s t same =>
    have ident : s.ident.unplaced = t.ident.unplaced := congrArg StructItem.ident same.places
    have name : s.ident.name = t.ident.name := Ident.name_eq_of_unplaced ident
    have generics : s.generics.parameters.isEmpty = t.generics.parameters.isEmpty := by
      have := congrArg (fun s => s.generics.parameters.isEmpty) same.places
      simpa [StructItem.unplaced] using this
    rw [Catalogue.readDefinition] at ha hb
    obtain ⟨⟨table, taken⟩, hs, ha⟩ := bind_eq_ok_iff.1 ha
    obtain ⟨⟨table', taken'⟩, ht, hb⟩ := bind_eq_ok_iff.1 hb
    have tables := same.table hs ht
    cases ha
    cases hb
    refine ⟨?_, .others (by rintro _ ⟨⟩) (by rintro _ ⟨⟩)⟩
    rw [same.attributes.clone, name, generics]
    split <;> split <;>
      simp [catalogues, Descriptor.unplaced, ident, tables]
  | @enum e f same =>
    have ident : e.ident.unplaced = f.ident.unplaced := congrArg EnumItem.ident same.places
    have name : e.ident.name = f.ident.name := Ident.name_eq_of_unplaced ident
    have generics : e.generics.parameters.isEmpty = f.generics.parameters.isEmpty := by
      have := congrArg (fun e => e.generics.parameters.isEmpty) same.places
      simpa [EnumItem.unplaced] using this
    rw [Catalogue.readDefinition, same.attributes.clone, name, generics] at ha
    rw [Catalogue.readDefinition] at hb
    split at ha
    · next plain =>
      rw [if_pos plain] at hb
      cases ha
      cases hb
      refine ⟨?_, .others (by rintro _ ⟨⟩) (by rintro _ ⟨⟩)⟩
      split <;> simp [catalogues, Descriptor.unplaced, ident]
    · next generic =>
      rw [if_neg generic] at hb
      cases ha
      cases hb
      exact ⟨catalogues, .others (by rintro _ ⟨⟩) (by rintro _ ⟨⟩)⟩
  | impl same =>
    cases ha
    cases hb
    exact ⟨catalogues, .impl same⟩
  | other sameNames sameCode =>
    cases ha
    cases hb
    exact ⟨catalogues, .others (by rintro _ ⟨⟩) (by rintro _ ⟨⟩)⟩

/-- Which type an implementation lets clone is noted alike. -/
theorem ImplItem.Same.noteClone {i j : ImplItem} (h : i.Same j) {c d : Catalogue}
    (catalogues : c.unplaced = d.unplaced) :
    (match i.clonedType? with | some t => c.noteClone t.name | none => c).unplaced =
      (match j.clonedType? with | some t => d.noteClone t.name | none => d).unplaced := by
  have cloned : i.clonedType?.map Ident.unplaced = j.clonedType?.map Ident.unplaced := by
    have := congrArg ImplItem.clonedType? h.places
    rwa [ImplItem.clonedType?_unplaced, ImplItem.clonedType?_unplaced] at this
  revert cloned
  generalize i.clonedType? = t
  generalize j.clonedType? = u
  intro cloned
  match t, u, cloned with
  | none, none, _ => exact catalogues
  | some t, some u, same =>
    have name : t.name = u.name := Ident.name_eq_of_unplaced (Option.some.inj same)
    simp only [Catalogue.noteClone_unplaced, catalogues, name]
  | none, some _, same | some _, none, same => cases same

/-- The type that an implementation gives its members to. -/
theorem ImplItem.Same.owner {i j : ImplItem} (h : i.Same j) {c d : Catalogue}
    (catalogues : c.unplaced = d.unplaced) :
    (i.ownType?.filter fun t => (c.find? t.name).isSome).map Ident.unplaced =
      (j.ownType?.filter fun t => (d.find? t.name).isSome).map Ident.unplaced := by
  have own : i.ownType?.map Ident.unplaced = j.ownType?.map Ident.unplaced := by
    have := congrArg ImplItem.ownType? h.places
    rwa [ImplItem.ownType?_unplaced, ImplItem.ownType?_unplaced] at this
  have defined : ∀ (e : Catalogue) (t : Option Ident),
      (t.filter fun t => (e.find? t.name).isSome).map Ident.unplaced =
        (t.map Ident.unplaced).filter fun t => (e.unplaced.find? t.name).isSome := by
    intro e t
    cases t with
    | none => rfl
    | some t =>
      cases found : e.find? t.name <;> simp [Option.filter, found]
  rw [defined, own, catalogues, ← defined]

theorem Item.SameMethods.readMethods {c d c' d' : Catalogue} {a b a' b' : Item}
    (catalogues : c.unplaced = d.unplaced) (h : a.SameMethods b)
    (ha : c.readMethods a = .ok (c', a')) (hb : d.readMethods b = .ok (d', b')) :
    c'.unplaced = d'.unplaced := by
  cases h with
  | others left right =>
    have kept : ∀ {c c' : Catalogue} {a a' : Item}, (∀ i, a ≠ .impl i) →
        c.readMethods a = .ok (c', a') → c' = c := by
      intro c c' a a' other read
      cases a with
      | impl i => exact absurd rfl (other i)
      | struct | enum | other =>
        cases read
        rfl
    rw [kept left ha, kept right hb, catalogues]
  | @impl i j same =>
    rw [Catalogue.readMethods] at ha hb
    obtain ⟨taken, hi, ha⟩ := bind_eq_ok_iff.1 ha
    obtain ⟨taken', hj, hb⟩ := bind_eq_ok_iff.1 hb
    cases ha
    cases hb
    have noted := same.noteClone catalogues
    have owner := same.owner noted
    have entries := same.entries owner hi hj
    revert owner
    generalize Option.filter _ i.ownType? = t
    generalize Option.filter _ j.ownType? = u
    intro owner
    cases t with
    | none =>
      cases u with
      | none => exact noted
      | some u => cases owner
    | some t =>
      cases u with
      | none => cases owner
      | some u =>
        have name : t.name = u.name := Ident.name_eq_of_unplaced (Option.some.inj owner)
        rw [Catalogue.revise_addAll_unplaced, Catalogue.revise_addAll_unplaced, name, entries]
        exact congrArg (Catalogue.revise · _ _) noted

/-- Items that agree but for hidden members are collected into catalogues that agree. -/
theorem collect_hidden {items items' kept kept' : List Item} {c c' : Catalogue}
    (same : List.Forall₂ Item.Same items items') (h : collect items = .ok (c, kept))
    (h' : collect items' = .ok (c', kept')) : c.unplaced = c'.unplaced := by
  rw [collect] at h h'
  obtain ⟨⟨d, defined⟩, hd, h⟩ := bind_eq_ok_iff.1 h
  obtain ⟨⟨d', defined'⟩, hd', h'⟩ := bind_eq_ok_iff.1 h'
  obtain ⟨catalogues, methods⟩ := Catalogue.readEach_related
    (C := fun c d => c.unplaced = d.unplaced) (S := Item.SameMethods)
    (fun _ _ _ _ _ _ _ _ catalogues same => same.readDefinition catalogues) rfl same hd hd'
  exact (Catalogue.readEach_related (C := fun c d => c.unplaced = d.unplaced)
    (S := fun _ _ => True) (fun _ _ _ _ _ _ _ _ catalogues same ha hb =>
      ⟨same.readMethods catalogues ha hb, trivial⟩) catalogues methods h h').1

/-! ## Taking wrappers out -/

/-- Items that agree both declare wrappers, and these agree, or both declare none. -/
theorem Item.Same.declaredOrKept {a b : Item} {part part' : Wrapper ⊕ Item} (h : a.Same b)
    (ha : declaredOrKept a = .ok part) (hb : declaredOrKept b = .ok part') :
    Sum.LiftRel (fun w v => w.unplaced = v.unplaced) Item.Same part part' := by
  cases h with
  | @enum e f same =>
    obtain ⟨⟨args, rest⟩, taken, ha⟩ := bind_eq_ok_iff.1 ha
    obtain ⟨⟨args', rest'⟩, taken', hb⟩ := bind_eq_ok_iff.1 hb
    have said : args.map WrapperArguments.unplaced = args'.map WrapperArguments.unplaced :=
      same.attributes.wrapper taken taken'
    match args, args', said with
    | none, none, _ =>
      cases ha
      cases hb
      exact .inr (.enum same)
    | some args, some args', said =>
      obtain ⟨w, declared, ha⟩ := bind_eq_ok_iff.1 ha
      obtain ⟨v, declared', hb⟩ := bind_eq_ok_iff.1 hb
      cases ha
      cases hb
      have left :
          { e with attributes := rest }.unplaced = { f with attributes := rest' }.unplaced := by
        have places := same.places
        simp only [EnumItem.unplaced, EnumItem.mk.injEq] at places ⊢
        refine ⟨?_, places.2⟩
        rw [(takeArguments_eq_ok taken).1, (takeArguments_eq_ok taken').1]
        exact same.attributes.rest
      have first := ofEnum_unplaced declared
      rw [left, Option.some.inj said] at first
      exact .inl (Except.ok.inj (first.symm.trans (ofEnum_unplaced declared')))
    | none, some _, said | some _, none, said => cases said
  | struct same =>
    cases ha
    cases hb
    exact .inr (.struct same)
  | impl same =>
    cases ha
    cases hb
    exact .inr (.impl same)
  | other sameNames sameCode =>
    cases ha
    cases hb
    exact .inr (.other sameNames sameCode)

theorem takeWrappers_hidden {items items' others others' : List Item} {ws ws' : List Wrapper}
    (same : List.Forall₂ Item.Same items items') (h : takeWrappers items = .ok (ws, others))
    (h' : takeWrappers items' = .ok (ws', others')) :
    List.Forall₂ (fun w v => w.unplaced = v.unplaced) ws ws' ∧
      List.Forall₂ Item.Same others others' := by
  obtain ⟨parts, hparts, h⟩ := bind_eq_ok_iff.1 h
  obtain ⟨parts', hparts', h'⟩ := bind_eq_ok_iff.1 h'
  cases h
  cases h'
  have sides := forall₂_of_mapM (f := declaredOrKept) (g := declaredOrKept)
    (fun _ _ _ _ same => same.declaredOrKept) same hparts hparts'
  constructor
  · refine List.rel_filterMap ?_ sides
    rintro p p' (same | same)
    · exact .some same
    · exact .none
  · refine List.rel_filterMap ?_ sides
    rintro p p' (same | same)
    · exact .none
    · exact .some same

/-! ## Expansions -/

/-- Wrappers that are the same but for their places are declared alike. -/
theorem declareAll_unplaced {r r' s s' : Registry} {ws ws' : List Wrapper}
    (start : r.unplaced = r'.unplaced)
    (same : List.Forall₂ (fun w v => w.unplaced = v.unplaced) ws ws')
    (h : r.declareAll ws = .ok s) (h' : r'.declareAll ws' = .ok s') : s.unplaced = s'.unplaced := by
  induction same generalizing r r' with
  | nil =>
    cases h
    cases h'
    exact start
  | cons first _ ih =>
    obtain ⟨_, declared, rest⟩ := bind_eq_ok_iff.1 h
    obtain ⟨_, declared', rest'⟩ := bind_eq_ok_iff.1 h'
    obtain ⟨-, rfl⟩ := declare_eq_ok declared
    obtain ⟨-, rfl⟩ := declare_eq_ok declared'
    exact ih (by rw [Registry.push_unplaced, Registry.push_unplaced, start, first]) rest rest'

theorem prepare_hidden {m m' : Module} {c c' : Catalogue} {kept kept' : List Item}
    {r r' : Registry} (same : m.Same m') (h : m.prepare = .ok (c, kept, r))
    (h' : m'.prepare = .ok (c', kept', r')) :
    c.unplaced = c'.unplaced ∧ r.unplaced = r'.unplaced := by
  obtain ⟨items, others, inline, parted, collected, named, declared⟩ :=
    prepare_eq_ok h
  obtain ⟨items', others', inline', parted', collected', named', declared'⟩ := prepare_eq_ok h'
  rw [Module.Same, inline, inline'] at same
  obtain ⟨same⟩ := same
  obtain ⟨wrappers, others⟩ := takeWrappers_hidden same parted parted'
  have names : definedNames kept = definedNames kept' := by
    rw [definedNames_kept collected, definedNames_kept collected']
    exact definedNames_related (fun _ _ same => same.definedName?) others
  rw [names] at named
  have idents : ∀ w v : Wrapper, w.unplaced = v.unplaced → w.ident.name = v.ident.name :=
    fun w v same => Ident.name_eq_of_unplaced (congrArg Wrapper.ident same)
  have taken : r.taken = r'.taken := takeNames_related idents wrappers named named'
  rw [← taken] at declared'
  exact ⟨collect_hidden others collected collected',
    declareAll_unplaced rfl wrappers declared declared'⟩

/-- The text that is generated, without its places, is that of the wrappers without theirs. -/
theorem generated_unplaced {m : Module} {library : Path} {e : Expansion}
    (h : m.expand library = .ok e) :
    e.generated.map Tree.unplaced = (e.wrappers.map Registry.Forwarded.unplaced).flatMap fun f =>
      storeTokens library.unplaced f.wrapper ++ accessorImpl f.wrapper.ident f.accessors := by
  obtain ⟨-, kept, -, -, -, same⟩ := expand_eq_ok h
  have library_eq : e.library = library := by rw [same]
  rw [Expansion.generated, List.map_flatMap, List.flatMap_map, library_eq]
  refine congrArg (e.wrappers.flatMap ·) (funext fun f => ?_)
  rw [List.map_append, storeTokens_unplaced, accessorImpl_unplaced]
  rfl

/-- Hidden members, however many and wherever, change nothing: two modules that agree but for them
and for places have the same text generated and the same warnings. -/
theorem expand_hidden {m m' : Module} {library : Path} {e e' : Expansion} (same : m.Same m')
    (h : m.expand library = .ok e) (h' : m'.expand library = .ok e') :
    e.generated.map Tree.unplaced = e'.generated.map Tree.unplaced ∧
      e.warnings.map Warning.message = e'.warnings.map Warning.message := by
  obtain ⟨c, kept, r, prepared, expanded, -⟩ := expand_eq_ok h
  obtain ⟨c', kept', r', prepared', expanded', -⟩ := expand_eq_ok h'
  obtain ⟨catalogues, registries⟩ := prepare_hidden same prepared prepared'
  have run := Registry.expand_unplaced expanded
  rw [catalogues, registries, Registry.expand_unplaced expanded'] at run
  obtain ⟨wrappers, warnings⟩ := Prod.mk.inj (Except.ok.inj run)
  constructor
  · rw [generated_unplaced h, generated_unplaced h', wrappers]
  · have messages : ∀ ws : List Warning,
        ws.map Warning.message = (ws.map Warning.unplaced).map Warning.message := fun ws => by
      rw [List.map_map]
      rfl
    rw [messages, ← warnings, ← messages]

/-! ### Circles -/

/-- A method of circles that everyone may use and that reads a value. -/
def circleMethod (name : String) : Method :=
  ⟨[], .everywhere none, none,
    ⟨none, none, none, none, none, .generated name, .empty,
      [.self ⟨[], some (none, none), false, none, none⟩], false, none, some (.ofName "f64")⟩, []⟩

/-- The field for the radius, whose name is written at the place. -/
def radius (place : Origin) : Field :=
  { openField "radius" (.ofName "f64") with name := some ⟨"radius", place⟩ }

/-- Circles with a radius and an area, and with more fields and methods in front of these. -/
def circles (place : Origin) (fields : List Field) (methods : List Method) : Module :=
  moduleOf
    [openStruct "Circle" (fields ++ [radius place]),
     .impl ⟨[], [], none, .empty, none, .ofName "Circle",
      methods.map .method ++ [.method (circleMethod "area")]⟩,
     declaringEnum "Shape" ["Circle"]]

/-- Fields that are hidden, each for another reason. -/
def hiddenFields : List Field :=
  [{ openField "cache" (.ofName "u8") with visibility := .inherited },
   { openField "own" (.ofName "u8") with
      visibility := .restricted none false (.ofIdent (.generated "self")) },
   { openField "raw" (.ofName "u8") with attributes := [skipDirective] },
   openField "__id" (.ofName "u8")]

/-- Methods that are hidden, each for another reason. -/
def hiddenMethods : List Method :=
  let head := (circleMethod "odd").head
  [{ circleMethod "helper" with visibility := .inherited },
   { circleMethod "raw" with attributes := [skipDirective] },
   circleMethod "__area",
   { circleMethod "unit" with head := { head with inputs := [] } },
   { circleMethod "later" with head := { head with asynchronous := some none } },
   { circleMethod "open" with head := { head with output := some (.implTrait []) } }]

theorem take_skipDirective :
    ∃ args rest, MemberArguments.take [skipDirective] = .ok (args, rest) ∧ args.skip = true := by
  obtain ⟨⟨args, rest⟩, taken, skip⟩ := exists_ok_of_toOption
    (x := MemberArguments.take [skipDirective]) (f := (·.1.skip)) (b := true) (by decide +kernel)
  exact ⟨args, rest, taken, skip⟩

theorem take_nil : MemberArguments.take [] = .ok (.none, []) := rfl

theorem hidden_of_mem_hiddenFields : ∀ f ∈ hiddenFields, f.Hidden := by
  obtain ⟨args, rest, taken, skip⟩ := take_skipDirective
  simp only [hiddenFields, List.forall_mem_cons]
  exact ⟨.unshared rfl, .unshared rfl, .skipped taken skip, .named take_nil rfl rfl,
    List.forall_mem_nil _⟩

theorem hidden_of_mem_hiddenMethods : ∀ m ∈ hiddenMethods, m.Hidden := by
  obtain ⟨args, rest, taken, skip⟩ := take_skipDirective
  simp only [hiddenMethods, List.forall_mem_cons]
  exact ⟨.unshared rfl, .skipped taken skip, .named take_nil (by decide +kernel),
    .receiverless rfl, .unordinary rfl, .result rfl rfl, List.forall_mem_nil _⟩

theorem circles_same (place : Origin) :
    (circles none [openField "__old" (.ofName "u8")] []).Same
      (circles place hiddenFields hiddenMethods) := by
  have fields : SameBut Field.Hidden Field.Same
      [openField "__old" (.ofName "u8"), radius none] (hiddenFields ++ [radius place]) :=
    .left (.named take_nil rfl rfl)
      (.append_right hidden_of_mem_hiddenFields (.same ⟨.refl _, rfl⟩ .nil))
  have methods : SameBut ImplMember.Hidden ImplMember.Same [.method (circleMethod "area")]
      (hiddenMethods.map .method ++ [.method (circleMethod "area")]) :=
    .append_right (List.forall_mem_map.2 hidden_of_mem_hiddenMethods)
      (.same (.method ⟨.refl _, rfl⟩) .nil)
  exact .some (.cons (.struct ⟨.refl _, rfl, .named fields⟩)
    (.cons (.impl ⟨rfl, methods⟩) (.cons (.enum ⟨.refl _, rfl⟩) .nil)))

/-- What is forwarded for circles. -/
def circlesOverview : List (String × List (String × Option String)) :=
  [("Shape", [("area", some "f64"), ("radius", some "f64"), ("set_radius", none)])]

theorem expand_hidden_circles :
    ∃ e e', (circles none [openField "__old" (.ofName "u8")] []).Same
        (circles (some ⟨3, 8⟩) hiddenFields hiddenMethods) ∧
      (circles none [openField "__old" (.ofName "u8")] []).expand defaultLibrary = .ok e ∧
      (circles (some ⟨3, 8⟩) hiddenFields hiddenMethods).expand defaultLibrary = .ok e' ∧
      e.overview = circlesOverview ∧
      e.generated.map Tree.unplaced = e'.generated.map Tree.unplaced ∧
      e.warnings.map Warning.message = e'.warnings.map Warning.message := by
  obtain ⟨e, first, overview⟩ := exists_ok_of_toOption
    (x := (circles none [openField "__old" (.ofName "u8")] []).expand defaultLibrary)
    (f := Expansion.overview) (b := circlesOverview) (by decide +kernel)
  obtain ⟨e', second, -⟩ := exists_ok_of_toOption
    (x := (circles (some ⟨3, 8⟩) hiddenFields hiddenMethods).expand defaultLibrary)
    (f := Expansion.overview) (b := circlesOverview) (by decide +kernel)
  have same := circles_same (some ⟨3, 8⟩)
  exact ⟨e, e', same, first, second, overview, expand_hidden same first second⟩

end SharedMembers
