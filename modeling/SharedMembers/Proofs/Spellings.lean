import SharedMembers.Proofs.Cloning

/-!
# How the type of an implementation is written

Inside its module a type has several spellings: its plain name, the name behind `self::`, and either
of them in parentheses. Who asks for a type may use any of them. An implementation may not: it is
read only if its type is written as a plain name.

Results:
* `get?_congr_normal`, `isClone_congr_normal`: all spellings of a type get the same answers.
* `exists_collect_read`: implementations that are not written by a plain name count for nothing.
* `collect_respelled`: what stays when the types of implementations are spelled in another way.
* `respelling_changes_answers`: with `self::` in front of the name, a method is lost, and so is the
  word that the type can be cloned.
-/

namespace SharedMembers

/-! ## What is promised -/

/-- The two catalogues describe the same types, with the same members, and let the same types be
cloned. -/
def Catalogue.AnswersLike (c c' : Catalogue) : Prop :=
  ∀ t, c.get? t = c'.get? t ∧ c.isClone t = c'.isClone t

/-- The second item is the first, or it is the same implementation whose type is spelled in another
way. -/
inductive Item.Respelled : Item → Item → Prop where
  | same (item : Item) : Respelled item item
  | impl {i : ImplItem} {self : Ty} (respelled : self.normal = i.self.normal) :
      Respelled (.impl i) (.impl { i with self })

/-- The type of the implementation is written as a plain name. -/
def ImplItem.isNamed (i : ImplItem) : Bool :=
  match i.self with
  | .path p => p.ident?.isSome
  | _ => false

/-- The item is not an implementation, or one whose type is written as a plain name. -/
def Item.isRead : Item → Bool
  | .impl i => i.isNamed
  | _ => true

/-! ## Who asks -/

/-- All spellings of a type are described alike. -/
theorem get?_congr_normal (c : Catalogue) {t t' : Ty} (same : t.normal = t'.normal) :
    c.get? t = c.get? t' := by
  unfold Catalogue.get? Ty.key
  rw [same]

/-- The type can visibly be cloned, told from the way it is named inside its module. -/
def Catalogue.isCloneNamed (c : Catalogue) : Ty → Bool
  | .path (.plain leading segments) =>
    c.cloneable.contains (Ty.path (.plain leading segments)).display || c.lastIsClone segments
  | t => c.isClone t

theorem Catalogue.isClone_eq (c : Catalogue) (t : Ty) : c.isClone t = c.isCloneNamed t.normal := by
  induction t using Ty.normal.induct with
  | case1 o inner ih => rw [isClone, ih, Ty.normal_paren]
  | case2 first second rest behind =>
    rw [isClone, Ty.key, Ty.normal, if_pos behind, lastIsClone]
    · rfl
    · simp
  | case3 first second rest front =>
    rw [isClone, Ty.key, Ty.normal, if_neg front]
    rfl
  | case4 t unwrapped single =>
    have normal : t.normal = t := by
      rw [Ty.normal]
      · exact unwrapped
      · exact single
    rw [normal]
    unfold isCloneNamed
    split
    · rw [isClone, Ty.key, normal]
    · rfl

/-- All spellings of a type are accepted alike. -/
theorem isClone_congr_normal (c : Catalogue) {t t' : Ty} (same : t.normal = t'.normal) :
    c.isClone t = c.isClone t' := by
  rw [Catalogue.isClone_eq, same, ← Catalogue.isClone_eq]

/-- Catalogues that list the same types accept the same. -/
theorem isClone_congr {c c' : Catalogue} (same : ∀ name, name ∈ c.cloneable ↔ name ∈ c'.cloneable)
    (t : Ty) : c.isClone t = c'.isClone t := by
  rw [Bool.eq_iff_iff, Catalogue.isClone_iff same, ← Catalogue.isClone_iff fun _ => Iff.rfl]

/-! ## Implementations that are not read -/

/-- An implementation that is not written by a plain name is for no type. -/
theorem ImplItem.types_of_not_isNamed {i : ImplItem} (unnamed : i.isNamed = false) :
    i.ownType? = none ∧ i.clonedType? = none := by
  unfold isNamed at unnamed
  unfold ownType? clonedType?
  split at unnamed
  · next p written =>
    rw [written, Option.isSome_eq_false_iff, Option.isNone_iff_eq_none] at *
    cases i.trait <;> simp [unnamed]
  · next other =>
    cases self : i.self with
    | path p => exact absurd self (other p)
    | _ => cases i.trait <;> exact ⟨rfl, rfl⟩

theorem Item.eq_impl_of_not_isRead {item : Item} (unread : item.isRead = false) :
    ∃ i, item = .impl i ∧ i.ownType? = none ∧ i.clonedType? = none := by
  cases item with
  | impl i => exact ⟨i, rfl, ImplItem.types_of_not_isNamed unread⟩
  | struct s | enum e | other kind names code => cases unread

/-- Only items that are read define types. -/
theorem definitions_read (items : List Item) :
    (items.filter Item.isRead).filterMap Item.definition? = items.filterMap Item.definition? := by
  rw [List.filterMap_filter]
  congr 1
  funext item
  split
  · rfl
  · next unread =>
    obtain ⟨i, rfl, -⟩ := Item.eq_impl_of_not_isRead (Bool.not_eq_true _ ▸ unread)
    rfl

theorem definedTypes_read (items : List Item) :
    definedTypes (items.filter Item.isRead) = definedTypes items := by
  rw [definedTypes, definitions_read, ← definedTypes]

theorem lastDefinition?_read (items : List Item) (name : String) :
    lastDefinition? (items.filter Item.isRead) name = lastDefinition? items name := by
  rw [lastDefinition?, definitions_read, ← lastDefinition?]

/-- Only items that are read hold methods for a type. -/
theorem methodsOf_read (items : List Item) (name : String) :
    methodsOf (items.filter Item.isRead) name = methodsOf items name := by
  induction items with
  | nil => rfl
  | cons item items ih =>
    rw [methodsOf_cons item items]
    cases read : item.isRead with
    | true => rw [List.filter_cons_of_pos read, methodsOf_cons, ih]
    | false =>
      obtain ⟨i, rfl, unowned, -⟩ := Item.eq_impl_of_not_isRead read
      have none : methodsOf [.impl i] name = [] := by
        show (i.methods ++ []).filter _ = _
        rw [ImplItem.methods, unowned]
        rfl
      rw [List.filter_cons_of_neg (by simp [read]), ih, none, List.nil_append]

/-- Only items that are read say that a type can be cloned. -/
theorem clonedBy_read {items : List Item} {name : String} :
    ClonedBy (items.filter Item.isRead) name ↔ ClonedBy items name := by
  constructor
  · rintro (⟨listed, derives⟩ | ⟨listed, plain, derives⟩ | ⟨listed, clones⟩)
    · exact .struct (List.mem_of_mem_filter listed) derives
    · exact .enum (List.mem_of_mem_filter listed) plain derives
    · exact .impl (List.mem_of_mem_filter listed) clones
  · rintro (⟨listed, derives⟩ | ⟨listed, plain, derives⟩ | ⟨listed, clones⟩)
    · exact .struct (List.mem_filter.2 ⟨listed, rfl⟩) derives
    · exact .enum (List.mem_filter.2 ⟨listed, rfl⟩) plain derives
    · refine .impl (List.mem_filter.2 ⟨listed, ?_⟩) clones
      by_contra unread
      obtain ⟨-, uncloned⟩ := ImplItem.types_of_not_isNamed (Bool.not_eq_true _ ▸ unread)
      cases uncloned.symm.trans clones

/-- Items with the same definitions and methods, which say of the same types that they can be
cloned, are answered for alike. -/
theorem answersLike_of_collect {items items' kept kept' : List Item} {c c' : Catalogue}
    (h : collect items = .ok (c, kept)) (h' : collect items' = .ok (c', kept'))
    (definitions : ∀ name, lastDefinition? items name = lastDefinition? items' name)
    (methods : ∀ name, methodsOf items name = methodsOf items' name)
    (cloned : ∀ name, ClonedBy items name ↔ ClonedBy items' name) : c.AnswersLike c' := by
  refine fun t => ⟨?_, isClone_congr (fun name => ?_) t⟩
  · rw [Catalogue.get?, Catalogue.get?, find?_collect h, find?_collect h', definitions, methods]
  · rw [mem_cloneable_iff h, mem_cloneable_iff h', cloned]

/-- Without the implementations that are not written by a plain name the answers are the same. -/
theorem exists_collect_read {items kept : List Item} {c : Catalogue}
    (h : collect items = .ok (c, kept)) :
    ∃ c' kept', collect (items.filter Item.isRead) = .ok (c', kept') ∧ c.AnswersLike c' := by
  obtain ⟨fields, impls⟩ := (exists_collect_iff items).1 ⟨_, h⟩
  obtain ⟨⟨c', kept'⟩, h'⟩ := (exists_collect_iff (items.filter Item.isRead)).2
    ⟨fun item hitem => fields item (List.mem_of_mem_filter hitem), fun i hi => by
      rw [definedTypes_read]
      exact impls i (List.Sublist.filterMap _ List.filter_sublist |>.subset hi)⟩
  exact ⟨c', kept', h', answersLike_of_collect h h' (fun name => (lastDefinition?_read _ name).symm)
    (fun name => (methodsOf_read _ name).symm) fun _ => clonedBy_read.symm⟩

/-! ## Implementations that are spelled in another way -/

/-- A plain name is how a type is named inside its module. -/
theorem ImplItem.normal_of_isNamed {i : ImplItem} (named : i.isNamed = true) :
    i.self.normal = i.self := by
  unfold isNamed at named
  split at named
  · next p written =>
    obtain ⟨t, ident⟩ := Option.isSome_iff_exists.1 named
    rw [written]
    unfold Path.ident? at ident
    split at ident
    · exact Ty.normal_ofIdent _
    · cases ident
  · cases named

/-- An item that is read is not read any more when it is spelled in another way. -/
theorem Item.Respelled.eq_of_isRead {item item' : Item} (h : item.Respelled item')
    (read : item.isRead = true) (read' : item'.isRead = true) : item = item' := by
  cases h with
  | same => rfl
  | @impl i self respelled =>
    have unchanged : self = i.self := by
      rw [← ImplItem.normal_of_isNamed read, ← respelled]
      exact (ImplItem.normal_of_isNamed read').symm
    rw [unchanged]

/-- The items that are read stay, if each of the others is spelled so that it is still not read. -/
theorem read_of_respelled {items items' : List Item}
    (sides : List.Forall₂ (fun i j => i.Respelled j ∧ i.isRead = j.isRead) items items') :
    items.filter Item.isRead = items'.filter Item.isRead := by
  induction sides with
  | nil => rfl
  | @cons item item' items items' first _ ih =>
    obtain ⟨respelled, same⟩ := first
    cases read : item.isRead with
    | true =>
      have read' := same.symm.trans read
      rw [List.filter_cons_of_pos read, List.filter_cons_of_pos read', ih,
        respelled.eq_of_isRead read read']
    | false =>
      have read' := same.symm.trans read
      rw [List.filter_cons_of_neg (by simp [read]), List.filter_cons_of_neg (by simp [read']), ih]

/-- The methods of an implementation that is spelled in another way can be read as before. -/
theorem ImplItem.Readable.respelled {defined : List String} {i : ImplItem} {self : Ty}
    (h : i.Readable defined) (respelled : self.normal = i.self.normal)
    (same : (Item.impl i).isRead = (Item.impl { i with self }).isRead) :
    ImplItem.Readable defined { i with self } := by
  cases read : i.isNamed with
  | true =>
    have unchanged := (Item.Respelled.impl respelled).eq_of_isRead read (same.symm.trans read)
    rwa [← Item.impl.inj unchanged]
  | false =>
    have unread : ImplItem.isNamed { i with self } = false := same.symm.trans read
    unfold ImplItem.Readable at *
    rwa [(ImplItem.types_of_not_isNamed unread).1, ← (ImplItem.types_of_not_isNamed read).1]

/-- Items that were spelled in another way can be collected as they could before. -/
theorem exists_collect_respelled {items items' : List Item}
    (sides : List.Forall₂ (fun i j => i.Respelled j ∧ i.isRead = j.isRead) items items')
    (h : ∃ r, collect items = .ok r) : ∃ r, collect items' = .ok r := by
  obtain ⟨fields, impls⟩ := (exists_collect_iff items).1 h
  have defined : definedTypes items' = definedTypes items := by
    rw [← definedTypes_read, ← read_of_respelled sides, definedTypes_read]
  refine (exists_collect_iff items').2 ⟨fun item' hitem' => ?_, fun i' hi' => ?_⟩
  · obtain ⟨item, paired, respelled, -⟩ := exists_mem_zip sides.flip hitem'
    have hitem := (List.of_mem_zip paired).2
    cases respelled with
    | same => exact fields _ hitem
    | impl => exact trivial
  · obtain ⟨item', hitem', holds⟩ := List.mem_filterMap.1 hi'
    obtain ⟨item, paired, respelled, same⟩ := exists_mem_zip sides.flip hitem'
    have hitem := (List.of_mem_zip paired).2
    rw [defined]
    cases respelled with
    | same => exact impls i' (List.mem_filterMap.2 ⟨_, hitem, holds⟩)
    | @impl i self respelled =>
      cases holds
      exact (impls i (List.mem_filterMap.2 ⟨_, hitem, rfl⟩)).respelled respelled same

/-- What the spelling of types does to a module. Who asks for a type may spell it in every way. An
implementation that is not written by a plain name counts for nothing: without it the answers are
the same. So implementations may be spelled in another way if none comes to be written by a plain
name and none ceases to be. -/
theorem collect_respelled {items kept : List Item} {c : Catalogue}
    (collected : collect items = .ok (c, kept)) :
    (∀ t t' : Ty, t.normal = t'.normal → c.get? t = c.get? t' ∧ c.isClone t = c.isClone t') ∧
      (∃ c' kept', collect (items.filter Item.isRead) = .ok (c', kept') ∧ c.AnswersLike c') ∧
      ∀ items', List.Forall₂ (fun i j => i.Respelled j ∧ i.isRead = j.isRead) items items' →
        ∃ c' kept', collect items' = .ok (c', kept') ∧ c.AnswersLike c' := by
  have read := exists_collect_read collected
  refine ⟨fun t t' same => ⟨get?_congr_normal c same, isClone_congr_normal c same⟩, read, ?_⟩
  intro items' sides
  obtain ⟨⟨c', kept'⟩, collected'⟩ := exists_collect_respelled sides ⟨_, collected⟩
  obtain ⟨c₁, kept₁, read, like⟩ := read
  obtain ⟨c₂, kept₂, read', like'⟩ := exists_collect_read collected'
  rw [read_of_respelled sides, read'] at read
  cases read
  refine ⟨c', kept', collected', fun t => ⟨?_, ?_⟩⟩
  · exact (like t).1.trans (like' t).1.symm
  · exact (like t).2.trans (like' t).2.symm

/-- The type of the module with the name, with `self::` in front. -/
def Ty.behindSelf (name : String) : Ty :=
  .path (.plain none [.plain (.generated "self"), .plain (.generated name)])

/-- An implementation with its type written like this. -/
def Item.spelled (self : Ty) : Item → Item
  | .impl i => .impl { i with self }
  | item => item

/-- A struct with a method whose implementation writes the type like this. -/
def gauge (self : Ty) : List Item :=
  [openStruct "A" [], (openMethod "A" "size" [] none).spelled self, (cloneFor "A").spelled self]

theorem collect_respelled_gauge :
    ∃ c kept c' kept', collect (gauge (.behindSelf "A")) = .ok (c, kept) ∧
      collect (gauge (.paren none (.ofName "A"))) = .ok (c', kept') ∧ c.AnswersLike c' := by
  obtain ⟨⟨c, kept⟩, collected, -⟩ := exists_ok_of_toOption
    (x := collect (gauge (.behindSelf "A"))) (f := fun _ => ()) (b := ()) (by decide +kernel)
  obtain ⟨c', kept', collected', like⟩ := (collect_respelled collected).2.2
    (gauge (.paren none (.ofName "A")))
    (.cons ⟨.same _, rfl⟩ (.cons ⟨.impl rfl, rfl⟩ (.cons ⟨.impl rfl, rfl⟩ .nil)))
  exact ⟨c, kept, c', kept', collected, collected', like⟩

/-- With `self::` in front of the name an implementation is not read: the type loses the method and
the word that it can be cloned. -/
theorem respelling_changes_answers :
    List.Forall₂ Item.Respelled (gauge (.ofName "A")) (gauge (.behindSelf "A")) ∧
      ∃ c kept c' kept', collect (gauge (.ofName "A")) = .ok (c, kept) ∧
        collect (gauge (.behindSelf "A")) = .ok (c', kept') ∧
        (c.table? (.ofName "A")).map Table.keys = some [⟨"size", .read⟩] ∧
        (c'.table? (.ofName "A")).map Table.keys = some [] ∧
        c.isClone (.ofName "A") = true ∧ c'.isClone (.ofName "A") = false := by
  refine ⟨.cons (.same _) (.cons (.impl rfl) (.cons (.impl rfl) .nil)), ?_⟩
  have answers (self : Ty) (r : Option (List Key) × Bool)
      (h : (collect (gauge self)).toOption.map (fun x =>
        ((x.1.table? (.ofName "A")).map Table.keys, x.1.isClone (.ofName "A"))) = some r) :
      ∃ c kept, collect (gauge self) = .ok (c, kept) ∧
        (c.table? (.ofName "A")).map Table.keys = r.1 ∧ c.isClone (.ofName "A") = r.2 := by
    obtain ⟨⟨c, kept⟩, collected, rfl⟩ := exists_ok_of_toOption h
    exact ⟨c, kept, collected, rfl, rfl⟩
  obtain ⟨c, kept, collected, table, accepted⟩ :=
    answers (.ofName "A") (some [⟨"size", .read⟩], true) (by decide +kernel)
  obtain ⟨c', kept', collected', table', refused⟩ :=
    answers (.behindSelf "A") (some [], false) (by decide +kernel)
  exact ⟨c, kept, c', kept', collected, collected', table, table', accepted, refused⟩

end SharedMembers
