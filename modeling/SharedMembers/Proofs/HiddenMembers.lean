import SharedMembers.Proofs.Contributions
import SharedMembers.Proofs.PlacelessItems

/-!
# Hidden members

Some fields and methods never become members of their type. Two structs, or two implementations,
that agree in everything but these and in the places where things were written, contribute the same
members.

Results:
* `Field.Hidden.no_entries`, `Method.Hidden.no_entry`: what is hidden contributes nothing.
* `StructItem.Same.table`, `ImplItem.Same.entries`: items that agree but for what is hidden
  contribute the same.
-/

namespace SharedMembers

/-! ## What is hidden -/

/-- Why a field never becomes a member. -/
inductive Field.Hidden (f : Field) : Prop where
  /-- Only its own module may use it. -/
  | unshared (visibility : f.visibility.isShared = false)
  | skipped {args : MemberArguments} {rest : List Attribute}
      (taken : MemberArguments.take f.attributes = .ok (args, rest)) (skip : args.skip = true)
  /-- The name under which it would be used begins with two underscores. -/
  | named {args : MemberArguments} {rest : List Attribute} {ident : Ident}
      (taken : MemberArguments.take f.attributes = .ok (args, rest)) (name : f.name = some ident)
      (hidden : isHidden (args.rename.getD ident).name = true)

/-- The name under which a method is used: that of its key. -/
def Method.exposedName (m : Method) (args : MemberArguments) : String :=
  match args.setter with
  | some setter => setter.name
  | none => (Key.ofMethod (args.rename.getD m.head.ident).name m.head.inputs.tail.length).name

/-- Why a method never becomes a member. -/
inductive Method.Hidden (m : Method) : Prop where
  /-- Only its own module may use it. -/
  | unshared (visibility : m.visibility.isShared = false)
  | skipped {args : MemberArguments} {rest : List Attribute}
      (taken : MemberArguments.take m.attributes = .ok (args, rest)) (skip : args.skip = true)
  /-- The name under which it would be used begins with two underscores. -/
  | named {args : MemberArguments} {rest : List Attribute}
      (taken : MemberArguments.take m.attributes = .ok (args, rest))
      (hidden : isHidden (m.exposedName args) = true)
  /-- It takes no plain `self`, `&self` or `&mut self`. -/
  | receiverless (receiver : m.head.receiver? = none)
  /-- It is asynchronous, unchecked, foreign, variadic or generic. -/
  | unordinary (ordinary : m.head.isOrdinary = false)
  | argument {attributes : List Attribute} {pattern : Pattern} {type : Ty}
      (mem : .typed attributes pattern type ∈ m.head.inputs)
      (impl : type.mentionsImplTrait = true)
  | result {type : Ty} (output : m.head.output = some type)
      (impl : type.mentionsImplTrait = true)

/-- Of the members of an implementation only methods are hidden. -/
def ImplMember.Hidden : ImplMember → Prop
  | .method m => m.Hidden
  | .other _ => False

/-! ### It contributes nothing -/

theorem Field.Hidden.no_entries {f f' : Field} (hidden : f.Hidden) {self : Ident}
    {args : MemberArguments} (taken : f.take = .ok (args, f')) : f'.entries self args = [] := by
  obtain ⟨rest, said, -, rfl⟩ := Field.take_eq_ok taken
  rw [Field.entries]
  cases name : f.name with
  | none => rfl
  | some ident =>
    refine if_pos ?_
    cases hidden with
    | unshared visibility => simp [visibility]
    | skipped said' skip =>
      cases said.symm.trans said'
      simp [skip]
    | named said' name' hidden =>
      cases said.symm.trans said'
      cases name.symm.trans name'
      simp [hidden]

theorem FnHead.length_arguments? {self : Ident} {n : Nat} {inputs : List FnInput}
    {args : List (Ident × Ty)} (h : arguments? self n inputs = some args) :
    args.length = inputs.length := by
  induction inputs generalizing n args with
  | nil =>
    cases h
    rfl
  | cons input inputs ih =>
    cases input with
    | self i => cases h
    | typed attributes pattern type =>
      rw [arguments?] at h
      split at h
      · cases h
      · obtain ⟨more, found, rfl⟩ := Option.map_eq_some_iff.1 h
        rw [List.length_cons, ih found, List.length_cons]

/-- A signature has no types that are left open. -/
theorem FnHead.not_mentionsImplTrait_of_arguments? {self : Ident} {n : Nat}
    {inputs : List FnInput} {args : List (Ident × Ty)} (h : arguments? self n inputs = some args)
    {attributes : List Attribute} {pattern : Pattern} {type : Ty}
    (mem : .typed attributes pattern type ∈ inputs) : type.mentionsImplTrait = false := by
  induction inputs generalizing n args with
  | nil => cases mem
  | cons input inputs ih =>
    cases input with
    | self i => cases h
    | typed attributes' pattern' type' =>
      rw [arguments?] at h
      split at h
      · cases h
      next given =>
      obtain ⟨more, found, -⟩ := Option.map_eq_some_iff.1 h
      rcases List.mem_cons.1 mem with eq | mem
      · cases eq
        simpa using given
      · exact ih found mem

theorem Ty.not_mentionsImplTrait_of_isUnit {t : Ty} (unit : t.isUnit = true) :
    t.mentionsImplTrait = false := by
  cases t with
  | tuple o elems trailing =>
    cases elems with
    | nil => rfl
    | cons t ts => cases unit
  | _ => cases unit

/-- A method with a signature is ordinary, and its types are given. -/
theorem FnHead.given_of_signature? {self : Ident} {h : FnHead} {s : Signature}
    (found : h.signature? self = some s) :
    h.isOrdinary = true ∧ h.receiver? = some s.receiver ∧
      s.inputs.length = h.inputs.tail.length ∧
      (∀ attributes pattern type, .typed attributes pattern type ∈ h.inputs →
        type.mentionsImplTrait = false) ∧
      ∀ type, h.output = some type → type.mentionsImplTrait = false := by
  rw [signature?] at found
  split at found
  · next ordinary =>
    obtain ⟨receiver, hreceiver, found⟩ := Option.bind_eq_some_iff.1 found
    obtain ⟨args, hargs, found⟩ := Option.bind_eq_some_iff.1 found
    obtain ⟨output, houtput, rfl⟩ := Option.map_eq_some_iff.1 found
    refine ⟨ordinary, hreceiver, ?_, ?_, ?_⟩
    · rw [List.length_map, length_arguments? hargs]
    · intro attributes pattern type mem
      -- The first input is the receiver.
      rw [receiver?] at hreceiver
      split at hreceiver
      · next i inputs eq =>
        rw [eq] at mem hargs
        rcases List.mem_cons.1 mem with eq | mem
        · cases eq
        · exact not_mentionsImplTrait_of_arguments? hargs mem
      · cases hreceiver
    · intro type eq
      rw [output?, eq] at houtput
      dsimp only at houtput
      split at houtput
      · next unit => exact Ty.not_mentionsImplTrait_of_isUnit unit
      · split at houtput
        · cases houtput
        · next given => simpa using given
  · cases found

theorem Method.Hidden.no_entry {m : Method} (hidden : m.Hidden) {self : Ident}
    {args : MemberArguments} {rest : List Attribute}
    (taken : MemberArguments.take m.attributes = .ok (args, rest))
    {entry : Option (Key × Signature)} (h : m.entry? self args = .ok entry) : entry = none := by
  rw [Method.entry?] at h
  split at h
  · cases h
    rfl
  next entering =>
  split at h
  · cases h
    rfl
  next s found =>
  obtain ⟨ordinary, receiver, inputs, arguments, output⟩ := FnHead.given_of_signature? found
  cases hidden with
  | unshared visibility => simp [visibility] at entering
  | skipped taken' skip =>
    cases taken.symm.trans taken'
    simp [skip] at entering
  | receiverless missing =>
    rw [missing] at receiver
    cases receiver
  | unordinary strange =>
    rw [strange] at ordinary
    cases ordinary
  | argument mem impl =>
    rw [arguments _ _ _ mem] at impl
    cases impl
  | result eq impl =>
    rw [output _ eq] at impl
    cases impl
  | named taken' hidden =>
    cases taken.symm.trans taken'
    cases setter : args.setter with
    | some i =>
      rw [Method.exposedName, setter] at hidden
      simp only [setter, hidden, if_true] at h
      split at h
      · cases h
        rfl
      · cases h
    | none =>
      rw [Method.exposedName, setter, ← inputs] at hidden
      simp only [setter, hidden, if_true] at h
      cases h
      rfl

/-! ## Modules that agree but for what is hidden -/

/-- The attributes agree but for places, and what is read from their directives and derivations
agrees as well. Without these the first is enough, see `SameAttributes.of_places`. -/
structure SameAttributes (as bs : List Attribute) : Prop where
  places : as.map Attribute.unplaced = bs.map Attribute.unplaced
  member : ∀ {a b : MemberArguments × List Attribute}, MemberArguments.take as = .ok a →
    MemberArguments.take bs = .ok b → a.1.unplaced = b.1.unplaced
  wrapper : ∀ {a b : Option WrapperArguments × List Attribute}, WrapperArguments.take as = .ok a →
    WrapperArguments.take bs = .ok b →
      a.1.map WrapperArguments.unplaced = b.1.map WrapperArguments.unplaced
  clone : deriveClone as = deriveClone bs

/-- The fields agree but for places. -/
structure Field.Same (f g : Field) : Prop where
  attributes : SameAttributes f.attributes g.attributes
  places : f.unplaced = g.unplaced

/-- The methods agree but for places. -/
structure Method.Same (m n : Method) : Prop where
  attributes : SameAttributes m.attributes n.attributes
  places : m.unplaced = n.unplaced

/-- The members agree but for places. -/
inductive ImplMember.Same : ImplMember → ImplMember → Prop
  | method {m n : Method} (same : m.Same n) : Same (.method m) (.method n)
  | other {code code' : Code}
      (places : code.map Fragment.unplaced = code'.map Fragment.unplaced) :
      Same (.other code) (.other code')

/-- The lists agree but for hidden elements, any number of them, anywhere in either. -/
inductive SameBut {α : Type} (Hidden : α → Prop) (Same : α → α → Prop) : List α → List α → Prop
  | nil : SameBut Hidden Same [] []
  | same {a b : α} {as bs : List α} (same : Same a b) (rest : SameBut Hidden Same as bs) :
      SameBut Hidden Same (a :: as) (b :: bs)
  | left {a : α} {as bs : List α} (hidden : Hidden a) (rest : SameBut Hidden Same as bs) :
      SameBut Hidden Same (a :: as) bs
  | right {b : α} {as bs : List α} (hidden : Hidden b) (rest : SameBut Hidden Same as bs) :
      SameBut Hidden Same as (b :: bs)

/-- The fields agree but for hidden ones, for places, and for a comma behind the last. -/
inductive Fields.Same : Fields → Fields → Prop
  | unit : Same .unit .unit
  | named {o o' : Origin} {fs gs : List Field} {trailing trailing' : Bool}
      (same : SameBut Field.Hidden Field.Same fs gs) :
      Same (.named o fs trailing) (.named o' gs trailing')
  | positional {o o' : Origin} {fs gs : List Field} {trailing trailing' : Bool}
      (same : SameBut Field.Hidden Field.Same fs gs) :
      Same (.positional o fs trailing) (.positional o' gs trailing')

/-- The structs agree but for hidden fields and for places. -/
structure StructItem.Same (s t : StructItem) : Prop where
  attributes : SameAttributes s.attributes t.attributes
  places : { s with fields := .unit }.unplaced = { t with fields := .unit }.unplaced
  fields : s.fields.Same t.fields

/-- The enums agree but for places. -/
structure EnumItem.Same (e f : EnumItem) : Prop where
  attributes : SameAttributes e.attributes f.attributes
  places : e.unplaced = f.unplaced

/-- The implementations agree but for hidden methods and for places. -/
structure ImplItem.Same (i j : ImplItem) : Prop where
  places : { i with members := [] }.unplaced = { j with members := [] }.unplaced
  members : SameBut ImplMember.Hidden ImplMember.Same i.members j.members

/-- The items agree but for hidden members and for places. -/
inductive Item.Same : Item → Item → Prop
  | struct {s t : StructItem} (same : s.Same t) : Same (.struct s) (.struct t)
  | enum {e f : EnumItem} (same : e.Same f) : Same (.enum e) (.enum f)
  | impl {i j : ImplItem} (same : i.Same j) : Same (.impl i) (.impl j)
  | other {kind : ItemKind} {names names' : List Ident} {code code' : Code}
      (sameNames : names.map Ident.unplaced = names'.map Ident.unplaced)
      (sameCode : code.map Fragment.unplaced = code'.map Fragment.unplaced) :
      Same (.other kind names code) (.other kind names' code')

/-- The items of the modules agree but for hidden members and for places. -/
def Module.Same (m n : Module) : Prop :=
  Option.Rel (List.Forall₂ Item.Same) m.items n.items

theorem SameBut.append_right {α : Type} {Hidden : α → Prop} {Same : α → α → Prop}
    {as bs cs : List α} (hidden : ∀ b ∈ bs, Hidden b) (rest : SameBut Hidden Same as cs) :
    SameBut Hidden Same as (bs ++ cs) := by
  induction bs with
  | nil => exact rest
  | cons b bs ih =>
    rw [List.forall_mem_cons] at hidden
    exact .right hidden.1 (ih hidden.2)

theorem Ident.name_eq_of_unplaced {i j : Ident} (same : i.unplaced = j.unplaced) :
    i.name = j.name := by
  rw [← i.name_unplaced, same, j.name_unplaced]

theorem SameAttributes.refl (as : List Attribute) : SameAttributes as as where
  places := rfl
  member ha hb := by cases ha.symm.trans hb; rfl
  wrapper ha hb := by cases ha.symm.trans hb; rfl
  clone := rfl

theorem takeArguments_of_undirected {α : Type} {readers : List (EntryReader α)} {initial : α}
    {as : List Attribute} (plain : ∀ a ∈ as, a.isDirective = false) :
    takeArguments readers initial as = .ok (none, as.filter (!·.isDirective)) := by
  have none : as.filter Attribute.isDirective = [] :=
    List.filter_eq_nil_iff.2 fun a ha => by simp [plain a ha]
  rw [takeArguments, takeDirectives, directivesOf, none]
  rfl

theorem deriveClone_of_underived {as : List Attribute}
    (plain : ∀ a ∈ as, a.isNamed "derive" = false) : deriveClone as = false :=
  List.any_eq_false.2 fun a ha => by simp [plain a ha]

/-- Attributes that are neither directives nor derive anything need to agree only but for places. -/
theorem SameAttributes.of_places {as bs : List Attribute}
    (places : as.map Attribute.unplaced = bs.map Attribute.unplaced)
    (undirected : ∀ a ∈ as, a.isDirective = false)
    (underived : ∀ a ∈ as, a.isNamed "derive" = false) : SameAttributes as bs := by
  have named {name : String} (plain : ∀ a ∈ as, a.isNamed name = false) :
      ∀ b ∈ bs, b.isNamed name = false := by
    intro b hb
    obtain ⟨a, ha, same⟩ := List.mem_map.1 (places ▸ List.mem_map_of_mem hb)
    rw [← b.isNamed_unplaced, ← same, a.isNamed_unplaced, plain a ha]
  refine ⟨places, fun ha hb => ?_, fun ha hb => ?_, ?_⟩
  · rw [MemberArguments.take, takeArguments_of_undirected undirected] at ha
    rw [MemberArguments.take, takeArguments_of_undirected (named undirected)] at hb
    cases ha
    cases hb
    rfl
  · rw [WrapperArguments.take, takeArguments_of_undirected undirected] at ha
    rw [WrapperArguments.take, takeArguments_of_undirected (named undirected)] at hb
    cases ha
    cases hb
    rfl
  · rw [deriveClone_of_underived underived, deriveClone_of_underived (named underived)]
/-- What is left without the directives agrees as well. -/
theorem SameAttributes.rest {as bs : List Attribute} (h : SameAttributes as bs) :
    (as.filter (!·.isDirective)).map Attribute.unplaced =
      (bs.filter (!·.isDirective)).map Attribute.unplaced := by
  have filtered : ∀ cs : List Attribute, (cs.filter (!·.isDirective)).map Attribute.unplaced =
      (cs.map Attribute.unplaced).filter (!·.isDirective) := fun cs => by
    simp [List.filter_map, Attribute.isDirective, Function.comp_def]
  rw [filtered, h.places, filtered]

/-! ## Collecting -/

/-- If hidden elements give nothing and others give alike, then all together give alike. -/
theorem SameBut.flatMap {α β γ ε : Type} {Hidden : α → Prop} {Same : α → α → Prop}
    {f f' : α → Except ε β} {g g' : β → List γ} {as bs : List α} {xs ys : List β}
    (h : SameBut Hidden Same as bs) (left : ∀ a x, Hidden a → f a = .ok x → g x = [])
    (right : ∀ b y, Hidden b → f' b = .ok y → g' y = [])
    (same : ∀ a b x y, Same a b → f a = .ok x → f' b = .ok y → g x = g' y)
    (hxs : as.mapM f = .ok xs) (hys : bs.mapM f' = .ok ys) : xs.flatMap g = ys.flatMap g' := by
  have all := mapM_eq_ok_iff.1 hxs
  have all' := mapM_eq_ok_iff.1 hys
  clear hxs hys
  induction h generalizing xs ys with
  | nil =>
    cases all
    cases all'
    rfl
  | same s _ ih =>
    obtain ⟨x, xs, hx, rest, rfl⟩ := List.forall₂_cons_left_iff.1 all
    obtain ⟨y, ys, hy, rest', rfl⟩ := List.forall₂_cons_left_iff.1 all'
    rw [List.flatMap_cons, List.flatMap_cons, same _ _ x y s hx hy, ih rest rest']
  | left hidden _ ih =>
    obtain ⟨x, xs, hx, rest, rfl⟩ := List.forall₂_cons_left_iff.1 all
    rw [List.flatMap_cons, left _ x hidden hx, List.nil_append, ih rest all']
  | right hidden _ ih =>
    obtain ⟨y, ys, hy, rest', rfl⟩ := List.forall₂_cons_left_iff.1 all'
    rw [List.flatMap_cons, right _ y hidden hy, List.nil_append, ih all rest']

/-- What a field contributes, read off the field before its directives were taken. -/
theorem Field.Same.entries {f g f' g' : Field} (h : f.Same g) {self self' : Ident}
    (owner : self.unplaced = self'.unplaced) {a b : MemberArguments}
    (hf : f.take = .ok (a, f')) (hg : g.take = .ok (b, g')) :
    Table.unplaced (f'.entries self a) = Table.unplaced (g'.entries self' b) := by
  obtain ⟨rest, said, -, rfl⟩ := Field.take_eq_ok hf
  obtain ⟨rest', said', -, rfl⟩ := Field.take_eq_ok hg
  have args : a.unplaced = b.unplaced := h.attributes.member said said'
  calc Table.unplaced (f.entries self a)
    _ = f.unplaced.entries self.unplaced a.unplaced := (Field.entries_unplaced ..).symm
    _ = g.unplaced.entries self'.unplaced b.unplaced := by rw [h.places, owner, args]
    _ = Table.unplaced (g.entries self' b) := Field.entries_unplaced ..

/-- Structs that agree contribute the same members. -/
theorem StructItem.Same.table {s t s' t' : StructItem} {table table' : Table} (h : s.Same t)
    (hs : s.collect = .ok (table, s')) (ht : t.collect = .ok (table', t')) :
    table.unplaced = table'.unplaced := by
  have owner : s.ident.unplaced = t.ident.unplaced := congrArg StructItem.ident h.places
  obtain ⟨attributes, visibility, keyword, ident, generics, fields⟩ := s
  obtain ⟨attributes', visibility', keyword', ident', generics', fields'⟩ := t
  cases h.fields with
  | unit | positional same =>
    cases hs
    cases ht
    rfl
  | named same =>
    obtain ⟨taken, htaken, hs⟩ := bind_eq_ok_iff.1 hs
    obtain ⟨taken', htaken', ht⟩ := bind_eq_ok_iff.1 ht
    cases hs
    cases ht
    rw [Table.addNew_unplaced, Table.addNew_unplaced]
    refine congrArg (Table.addNew · _) ?_
    rw [Table.unplaced, List.map_flatMap, Table.unplaced, List.map_flatMap]
    refine same.flatMap ?_ ?_ ?_ htaken htaken'
    · rintro f ⟨a, f'⟩ hidden took
      exact congrArg (List.map _) (hidden.no_entries took)
    · rintro f ⟨a, f'⟩ hidden took
      exact congrArg (List.map _) (hidden.no_entries took)
    · rintro f g ⟨a, f'⟩ ⟨b, g'⟩ fg hf hg
      exact fg.entries owner hf hg

/-- What an implementation's member enters for a type. -/
theorem ImplMember.Hidden.no_entry {m m' : ImplMember} (hidden : m.Hidden) {self? : Option Ident}
    {entry : Option (Key × Signature)} (h : m.collect self? = .ok (entry, m')) : entry = none := by
  cases entry with
  | none => rfl
  | some e =>
    obtain ⟨method, self, args, rest, rfl, -, said, entered⟩ := ImplMember.collect_eq_ok h
    exact Method.Hidden.no_entry hidden said entered

/-- Members that agree enter the same. -/
theorem ImplMember.Same.entry {m n m' n' : ImplMember} (h : m.Same n) {self? self?' : Option Ident}
    (owner : self?.map Ident.unplaced = self?'.map Ident.unplaced)
    {entry entry' : Option (Key × Signature)} (hm : m.collect self? = .ok (entry, m'))
    (hn : n.collect self?' = .ok (entry', n')) :
    entry.map (Prod.map id Signature.unplaced) = entry'.map (Prod.map id Signature.unplaced) := by
  cases h with
  | other places =>
    cases hm
    cases hn
    rfl
  | method same =>
    rw [ImplMember.collect] at hm hn
    obtain ⟨⟨a, rest⟩, said, hm⟩ := bind_eq_ok_iff.1 hm
    obtain ⟨⟨b, rest'⟩, said', hn⟩ := bind_eq_ok_iff.1 hn
    have args : a.unplaced = b.unplaced := same.attributes.member said said'
    cases self? with
    | none =>
      cases self?' with
      | some self' => cases owner
      | none =>
        cases hm
        cases hn
        rfl
    | some self =>
      cases self?' with
      | none => cases owner
      | some self' =>
        obtain ⟨_, entered, hm⟩ := bind_eq_ok_iff.1 hm
        obtain ⟨_, entered', hn⟩ := bind_eq_ok_iff.1 hn
        cases hm
        cases hn
        have first := Method.entry?_unplaced entered
        rw [same.places, Option.some.inj owner, args] at first
        exact Except.ok.inj (first.symm.trans (Method.entry?_unplaced entered'))

/-- Implementations that agree enter the same members. -/
theorem ImplItem.Same.entries {i j : ImplItem} (h : i.Same j) {self? self?' : Option Ident}
    (owner : self?.map Ident.unplaced = self?'.map Ident.unplaced)
    {taken taken' : List (Option (Key × Signature) × ImplMember)}
    (hi : i.members.mapM (ImplMember.collect self?) = .ok taken)
    (hj : j.members.mapM (ImplMember.collect self?') = .ok taken') :
    Table.unplaced (taken.filterMap (·.1)) = Table.unplaced (taken'.filterMap (·.1)) := by
  rw [Table.unplaced, Table.unplaced, List.map_filterMap, List.map_filterMap,
    List.filterMap_eq_flatMap_toList, List.filterMap_eq_flatMap_toList]
  refine h.members.flatMap ?_ ?_ ?_ hi hj
  · rintro m ⟨entry, m'⟩ hidden took
    rw [hidden.no_entry took]
    rfl
  · rintro m ⟨entry, m'⟩ hidden took
    rw [hidden.no_entry took]
    rfl
  · rintro m n ⟨entry, m'⟩ ⟨entry', n'⟩ same hm hn
    exact congrArg Option.toList (same.entry owner hm hn)

end SharedMembers
