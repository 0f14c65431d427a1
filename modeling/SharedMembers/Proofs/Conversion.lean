import SharedMembers.Proofs.AccessorText
import SharedMembers.Proofs.Preparation
import SharedMembers.Proofs.Worklist

/-!
# Accessors convert soundly

An accessor is put together from what several passes found out: the tables of the subtypes, the
places of the arguments, the unified return type. What holds the passes together is that every
signature fits its key, so that all arms take equally many arguments.

Results:
* `passes_of_argumentSlots`: every argument is passed on to a parameter that it fits.
* `Plan.For.isClone_of_cloned`: only what can be cloned is cloned.
* `result_eq_none_iff`, `licensed_of_result_eq_some`: which results are left as they are, and that
  there is a conversion for the others.
* `accessor_sound`: the accessor of a plan, and what its text says.
* `expand_sound`: every accessor of every wrapper of a module that expands, in what is generated.
-/

namespace SharedMembers

/-! ## What is promised -/

namespace Use

/-- The member that is used. -/
def target : Use → Target
  | borrowed f | cloned f | assigned f _ => .field f
  | called m _ => .method m

/-- What is passed on to the member. -/
def passed : Use → List Passed
  | borrowed _ | cloned _ => []
  | assigned _ args | called _ args => args

end Use

/-- The type behind a reference sign. -/
def Ty.referent : Ty → Ty
  | .reference _ _ _ t => t
  | t => t

/-- The argument with the name, which stands in the slot, is passed on to a member that declares the
type: it is converted into it, as some bound of its parameter allows, or it has the type. -/
inductive Passes (name : Ident) (type : Ty) : Slot → Passed → Prop where
  | converted (parameter : Ident) (bounds : List Ty) (bound : Ty) (listed : bound ∈ bounds)
      (same : bound.key = type.key) :
      Passes name type (.convertible parameter bounds) (.converted name parameter type)
  | unchanged (t : Ty) (same : t.key = type.key) : Passes name type (.exact t) (.unchanged name)

/-- What an unconverted result has to be: the accessor's output, or what it refers to if the arm
reads by reference. -/
def Accessor.given (a : Accessor) (u : Use) : Option Ty :=
  if u.isBorrowed then a.output.map Ty.referent else a.output

/-- There is a conversion of the type into the other: between scalars, or into one of the wrappers,
which holds the type. -/
inductive Licensed (wrappers : List Wrapper) (own t : Ty) : Prop where
  | widened (u : Ty) (x y : Scalar) (same : u.key = own.key) (source : Scalar.ofTy? u = some x)
      (target : Scalar.ofTy? t = some y) (widens : x.widens y = true) : Licensed wrappers own t
  | wrapped (v : Wrapper) (emitted : v ∈ wrappers) (output : t = .ofIdent v.ident)
      (held : own.key ∈ v.types.map Ty.key) : Licensed wrappers own t

/-- The arm forwards soundly to the member that the subtype of the variant provides by the
signature. -/
structure Arm.Sound (c : Catalogue) (wrappers : List Wrapper) (a : Accessor) (v : Ident × Ty)
    (s : Signature) (arm : Arm) : Prop where
  variant : arm.variant = v.1
  provides : c.Provides a.key v.2 s
  target : arm.use.target = s.target
  count : arm.use.passed.length = s.inputs.length
  passes : ∀ (i : Nat) (x : Passed), arm.use.passed[i]? = some x →
    ∃ name slot type, a.names[i]? = some name ∧ a.slots[i]? = some slot ∧
      s.inputs[i]? = some type ∧ Passes name type slot x
  cloned : ∀ f, arm.use = .cloned f → ∃ t, s.output = some t ∧ c.isClone t = true
  borrowed : ∀ f, arm.use = .borrowed f → ∃ t, a.output = some (.reference none none false t) ∧
    ∀ s' ∈ a.signatures, s'.target.isField = true ∧ ∃ u, s'.output = some u ∧ u.key = t.key
  unconverted : arm.result = none ↔
    ∀ own, s.output = some own → ∃ t, a.given arm.use = some t ∧ own.key = t.key
  converted : ∀ t, arm.result = some t →
    a.output = some t ∧ ∃ own, s.output = some own ∧ Licensed wrappers own t

/-- The accessor has as many parameters as names for them, and a sound arm for each variant of the
wrapper. Its text is a match with the texts of these arms, each of which says what the arm does. -/
structure Accessor.Sound (c : Catalogue) (wrappers : List Wrapper) (w : Wrapper) (a : Accessor) :
    Prop where
  parameters : a.names.length = a.slots.length
  arms : List.Forall₂ (fun v arm => ∃ s, Arm.Sound c wrappers a v s arm) w.variants a.matchArms
  text : ∃ texts, a.Reads texts a.tokens ∧ List.Forall₂ Arm.Reads a.matchArms texts

/-! ## Arguments -/

theorem argumentSlots_spec {ss : List Signature} {slots : List Slot} {n : Nat}
    (nonempty : ss ≠ []) (arity : ∀ s ∈ ss, s.inputs.length = n)
    (h : argumentSlots ss = .ok slots) :
    slots.length = n ∧
      ∀ (i : Nat) (slot : Slot), slots[i]? = some slot →
        slotFor i (declaredTypes ss i) = .ok slot := by
  obtain ⟨s, rest, rfl⟩ := List.exists_cons_of_ne_nil nonempty
  have all := mapM_eq_ok_iff.1 h
  have first : ((s :: rest).head?.map (·.inputs.length)).getD 0 = n := arity s List.mem_cons_self
  rw [first] at all
  constructor
  · rw [← all.length_eq, List.length_range]
  · intro i slot found
    obtain ⟨hi, rfl⟩ := List.getElem?_eq_some_iff.1 found
    have := all.get (i := i) (by rw [all.length_eq]; exact hi) hi
    simpa using this

theorem getElem?_passedArguments {names : List Ident} {slots : List Slot} {types : List Ty}
    {i : Nat} {x : Passed} (h : (passedArguments names slots types)[i]? = some x) :
    ∃ name slot type, names[i]? = some name ∧ slots[i]? = some slot ∧ types[i]? = some type ∧
      x = match slot with
        | .convertible parameter _ => .converted name parameter type
        | .exact _ => .unchanged name := by
  rw [passedArguments, List.getElem?_map] at h
  obtain ⟨⟨⟨name, slot⟩, type⟩, found, rfl⟩ := Option.map_eq_some_iff.1 h
  obtain ⟨pair, htype⟩ := List.getElem?_zip_eq_some.1 found
  obtain ⟨hname, hslot⟩ := List.getElem?_zip_eq_some.1 pair
  exact ⟨name, slot, type, hname, hslot, htype, rfl⟩

theorem length_passedArguments {names : List Ident} {slots : List Slot} {types : List Ty}
    (hnames : names.length = types.length) (hslots : slots.length = types.length) :
    (passedArguments names slots types).length = types.length := by
  rw [passedArguments, List.length_map, List.length_zip, List.length_zip, hnames, hslots]
  omega

/-- Every argument is passed on to a parameter that it fits. -/
theorem passes_of_argumentSlots {ss : List Signature} {s : Signature} {slots : List Slot} {n : Nat}
    (arity : ∀ s ∈ ss, s.inputs.length = n) (h : argumentSlots ss = .ok slots) (hs : s ∈ ss)
    {names : List Ident} {i : Nat} {x : Passed}
    (passed : (passedArguments names slots s.inputs)[i]? = some x) :
    ∃ name slot type, names[i]? = some name ∧ slots[i]? = some slot ∧
      s.inputs[i]? = some type ∧ Passes name type slot x := by
  obtain ⟨name, slot, type, hname, hslot, htype, rfl⟩ := getElem?_passedArguments passed
  refine ⟨name, slot, type, hname, hslot, htype, ?_⟩
  have declared : type ∈ ss.filterMap (·.inputs[i]?) := List.mem_filterMap.2 ⟨s, hs, htype⟩
  rcases slotFor_eq_ok_iff.1 ((argumentSlots_spec (List.ne_nil_of_mem hs) arity h).2 i slot hslot)
    with ⟨-, rfl⟩ | ⟨t, one, -, rfl⟩
  · obtain ⟨bound, listed, same⟩ := exists_mem_distinct declared
    exact .converted _ _ bound listed same
  · exact .unchanged t (key_eq_of_distinct_singleton one declared)

/-! ## Uses -/

/-- A field is read if nothing is passed on to it, else it is set; a method is called. -/
theorem ofSignature_cases (names : List Ident) (slots : List Slot) (byReference : Bool)
    (s : Signature) :
    (∃ f, s.target = .field f ∧ passedArguments names slots s.inputs = [] ∧
        Use.ofSignature names slots byReference s =
          if byReference then .borrowed f else .cloned f) ∨
      (∃ f, s.target = .field f ∧ passedArguments names slots s.inputs ≠ [] ∧
        Use.ofSignature names slots byReference s =
          .assigned f (passedArguments names slots s.inputs)) ∨
      ∃ m, s.target = .method m ∧ Use.ofSignature names slots byReference s =
        .called m (passedArguments names slots s.inputs) := by
  unfold Use.ofSignature
  cases target : s.target with
  | field f =>
    dsimp only
    split
    · next empty => exact .inl ⟨f, rfl, List.isEmpty_iff.1 empty, rfl⟩
    · next filled => exact .inr (.inl ⟨f, rfl, fun nil => filled (List.isEmpty_iff.2 nil), rfl⟩)
  | method m => exact .inr (.inr ⟨m, rfl, rfl⟩)

theorem passed_ofSignature (names : List Ident) (slots : List Slot) (byReference : Bool)
    (s : Signature) :
    (Use.ofSignature names slots byReference s).passed = passedArguments names slots s.inputs := by
  rcases ofSignature_cases names slots byReference s with
    ⟨f, -, nil, eq⟩ | ⟨f, -, -, eq⟩ | ⟨m, -, eq⟩
  · rw [eq, nil]
    split <;> rfl
  · rw [eq]
    rfl
  · rw [eq]
    rfl

theorem target_ofSignature (names : List Ident) (slots : List Slot) (byReference : Bool)
    (s : Signature) : (Use.ofSignature names slots byReference s).target = s.target := by
  rcases ofSignature_cases names slots byReference s with
    ⟨f, target, -, eq⟩ | ⟨f, target, -, eq⟩ | ⟨m, target, eq⟩
  · rw [eq, target]
    split <;> rfl
  · rw [eq, target]
    rfl
  · rw [eq, target]
    rfl

theorem ofSignature_eq_cloned {names : List Ident} {slots : List Slot} {byReference : Bool}
    {s : Signature} {f : Ident} (h : Use.ofSignature names slots byReference s = .cloned f) :
    s.target.isField = true ∧ passedArguments names slots s.inputs = [] ∧ byReference = false := by
  rcases ofSignature_cases names slots byReference s with
    ⟨g, target, nil, eq⟩ | ⟨g, -, -, eq⟩ | ⟨m, -, eq⟩
  · refine ⟨by rw [target]; rfl, nil, ?_⟩
    rw [eq] at h
    split at h
    · cases h
    · next byValue => exact Bool.eq_false_iff.2 byValue
  · rw [eq] at h
    cases h
  · rw [eq] at h
    cases h

theorem ofSignature_eq_borrowed {names : List Ident} {slots : List Slot} {byReference : Bool}
    {s : Signature} {f : Ident} (h : Use.ofSignature names slots byReference s = .borrowed f) :
    byReference = true := by
  rcases ofSignature_cases names slots byReference s with
    ⟨g, -, -, eq⟩ | ⟨g, -, -, eq⟩ | ⟨m, -, eq⟩
  · rw [eq] at h
    split at h
    · assumption
    · cases h
  · rw [eq] at h
    cases h
  · rw [eq] at h
    cases h

theorem isBorrowed_iff {u : Use} : u.isBorrowed = true ↔ ∃ f, u = .borrowed f := by
  cases u <;> simp [Use.isBorrowed]

/-- By reference, a field to which nothing is passed is borrowed. -/
theorem isBorrowed_ofSignature {names : List Ident} {slots : List Slot} {s : Signature}
    (field : s.target.isField = true) (nil : passedArguments names slots s.inputs = []) :
    (Use.ofSignature names slots true s).isBorrowed = true := by
  rcases ofSignature_cases names slots true s with
    ⟨f, -, -, eq⟩ | ⟨f, -, filled, -⟩ | ⟨m, method, -⟩
  · rw [eq]
    rfl
  · exact absurd nil filled
  · rw [method] at field
    cases field

/-! ## Plans -/

/-- A plan to read by value is for fields that can be cloned. -/
theorem Plan.For.clones {c : Catalogue} {k : Key} {ss : List Signature} {p : Plan}
    (plan : p.For c k ss) (read : k.shape = .read) (byValue : p.byReference = false)
    {s : Signature} (hs : s ∈ ss) (field : s.target.isField = true) {t : Ty}
    (output : s.output = some t) : c.isClone t = true := by
  have uses := plan.byReference
  rw [read, byValue] at uses
  rcases readByReference_eq_ok_cases uses with ⟨-, cloneable⟩ | ⟨⟨⟩, -⟩
  exact cloneable t (mem_fieldTypes hs field output)

/-- If some subtype returns a value, there is an output. -/
theorem Registry.Gives.exists_output {c : Catalogue} {r r' : Registry} {w : Wrapper} {k : Key}
    {ss : List Signature} {p : Plan} {output : Option Ty} (gives : r.Gives w k p r' output)
    (plan : p.For c k ss) {s : Signature} (hs : s ∈ ss) {own : Ty} (value : s.output = some own) :
    ∃ t, output = some t := by
  cases gives with
  | nothing unit =>
    have nothing := unify_eq_unit (plan.returns.trans unit) _ (List.mem_map_of_mem hs)
    rw [value] at nothing
    cases nothing
  | value t => exact ⟨t, rfl⟩
  | reference t => exact ⟨_, rfl⟩
  | existing types w => exact ⟨_, rfl⟩
  | nested types w => exact ⟨_, rfl⟩

/-! ## Arms -/

theorem length_argumentNames {k : Key} {ss : List Signature} (nonempty : ss ≠ [])
    (fits : ∀ s ∈ ss, s.Fits k) : (argumentNames ss).length = k.shape.inputs := by
  obtain ⟨s, rest, rfl⟩ := List.exists_cons_of_ne_nil nonempty
  exact (fits s List.mem_cons_self).names

/-- Where a plan reads by reference, its accessor returns references. -/
theorem Registry.Gives.eq_reference {r r' : Registry} {w : Wrapper} {k : Key} {p : Plan}
    {output : Option Ty} {t : Ty} (gives : r.Gives w k p r' output)
    (byReference : p.byReference = true) (common : p.returns = .common t) :
    output = some (.reference none none false t) := by
  rw [(gives.of_common common).2, byReference]
  rfl

theorem result_ofSignature {names : List Ident} {slots : List Slot} {byReference : Bool}
    {v : Ident} {s : Signature} {t own : Ty} (value : s.output = some own) :
    (Arm.ofSignature names slots (some t) byReference v s).result =
      if (Use.ofSignature names slots byReference s).isBorrowed = true ∨ t.key = own.key then none
      else some t := by
  simp [Arm.ofSignature, value]

theorem result_ofSignature_none {names : List Ident} {slots : List Slot} {byReference : Bool}
    {output : Option Ty} {v : Ident} {s : Signature} (nothing : s.output = none) :
    (Arm.ofSignature names slots output byReference v s).result = none := by
  cases output <;> simp [Arm.ofSignature, nothing]

/-- The result has the key of what the accessor gives iff it is not converted. -/
theorem given_accessor {c : Catalogue} {w : Wrapper} {k : Key} {ss : List Signature} {p : Plan}
    {r r' : Registry} {t own : Ty} (plan : p.For c k ss) (gives : r.Gives w k p r' (some t))
    {s : Signature} (hs : s ∈ ss) (value : s.output = some own) :
    ∃ u, (p.accessor w k ss (some t)).given
        (Use.ofSignature p.names p.slots p.byReference s) = some u ∧
      ((Use.ofSignature p.names p.slots p.byReference s).isBorrowed = true ∨ t.key = own.key ↔
        own.key = u.key) := by
  rw [Accessor.given]
  split
  · next borrowed =>
    obtain ⟨f, use⟩ := isBorrowed_iff.1 borrowed
    have byReference := ofSignature_eq_borrowed use
    obtain ⟨-, u, common, -, fields⟩ := plan.reads (List.ne_nil_of_mem hs) byReference
    obtain ⟨own', value', key⟩ := (fields s hs).2
    obtain rfl : own = own' := Option.some.inj (value.symm.trans value')
    cases gives.eq_reference byReference common
    exact ⟨u, rfl, iff_of_true (.inl borrowed) key⟩
  · next unborrowed =>
    refine ⟨t, rfl, ?_⟩
    constructor
    · rintro (borrowed | key)
      · exact absurd borrowed unborrowed
      · exact key.symm
    · exact fun key => .inr key.symm

/-- What is returned by value can be converted into the output if it is of another key. -/
theorem Registry.Gives.licensed {c : Catalogue} {r r' : Registry} {w : Wrapper} {k : Key}
    {ss : List Signature} {p : Plan} {t own : Ty} {wrappers : List Wrapper}
    (gives : r.Gives w k p r' (some t)) (plan : p.For c k ss) (byValue : p.byReference = false)
    (held : r'.wrappers ⊆ wrappers) {s : Signature} (hs : s ∈ ss) (value : s.output = some own)
    (different : t.key ≠ own.key) : Licensed wrappers own t := by
  have returned : some own ∈ ss.map (·.output) := value ▸ List.mem_map_of_mem hs
  cases returns : p.returns with
  | unit => cases (gives.of_unit returns).2
  | common u =>
    have output := (gives.of_common returns).2
    rw [byValue] at output
    obtain rfl : t = u := Option.some.inj output
    rcases widens_of_unify_eq_common (plan.returns.trans returns) returned with
      same | ⟨u, x, y, same, source, target, widens⟩
    · exact absurd same.symm different
    · exact .widened u x y same source target widens
  | distinct types =>
    obtain ⟨v, hv, output, set⟩ := gives.exists_wrapper returns
    have among := key_mem_of_unify_eq_distinct (plan.returns.trans returns) returned
    refine .wrapped v (held hv) (Option.some.inj output) ?_
    rwa [← mem_setKeyOf, ← Wrapper.setKey, set, mem_setKeyOf]
  | incompatible m => exact absurd returns (plan.compatible m)

section

variable {c : Catalogue} {w : Wrapper} {k : Key} {ss : List Signature} {p : Plan}
  {r r' : Registry} {output : Option Ty} {wrappers : List Wrapper} {v : Ident} {s : Signature}

/-- As many arguments are passed on as the member takes. -/
theorem Plan.For.length_passed (plan : p.For c k ss) (fits : ∀ s ∈ ss, s.Fits k) (hs : s ∈ ss) :
    (passedArguments p.names p.slots s.inputs).length = s.inputs.length := by
  have arity : ∀ s ∈ ss, s.inputs.length = k.shape.inputs := fun s hs => (fits s hs).inputs
  have nonempty := List.ne_nil_of_mem hs
  apply length_passedArguments
  · rw [plan.names, length_argumentNames nonempty fits, arity s hs]
  · rw [(argumentSlots_spec nonempty arity plan.slots).1, arity s hs]

/-- If nothing is passed on to a field, it is read. -/
theorem Plan.For.read_of_passed_eq_nil (plan : p.For c k ss) (fits : ∀ s ∈ ss, s.Fits k)
    (hs : s ∈ ss) (nil : passedArguments p.names p.slots s.inputs = []) : k.shape = .read := by
  have count := plan.length_passed fits hs
  rw [nil, List.length_nil, (fits s hs).inputs] at count
  exact (fits s hs).read count.symm

/-- Only a field whose type can be cloned is cloned. -/
theorem Plan.For.isClone_of_cloned (plan : p.For c k ss) (fits : ∀ s ∈ ss, s.Fits k)
    (hs : s ∈ ss) {f : Ident}
    (cloned : Use.ofSignature p.names p.slots p.byReference s = .cloned f) :
    ∃ t, s.output = some t ∧ c.isClone t = true := by
  obtain ⟨field, nil, byValue⟩ := ofSignature_eq_cloned cloned
  have read := plan.read_of_passed_eq_nil fits hs nil
  rcases (fits s hs).field field with ⟨-, value⟩ | ⟨write, -⟩
  · obtain ⟨t, output⟩ := Option.isSome_iff_exists.1 value
    exact ⟨t, output, plan.clones read byValue hs field output⟩
  · rw [read] at write
    cases write

/-- The result is left as it is iff it has the key of what the accessor gives. -/
theorem result_eq_none_iff (plan : p.For c k ss) (gives : r.Gives w k p r' output) (hs : s ∈ ss) :
    (Arm.ofSignature p.names p.slots output p.byReference v s).result = none ↔
      ∀ own, s.output = some own → ∃ t, (p.accessor w k ss output).given
        (Use.ofSignature p.names p.slots p.byReference s) = some t ∧ own.key = t.key := by
  cases value : s.output with
  | none => simp [result_ofSignature_none value]
  | some own =>
    obtain ⟨t, rfl⟩ := gives.exists_output plan hs value
    obtain ⟨u, given, same⟩ := given_accessor plan gives hs value
    rw [result_ofSignature value]
    constructor
    · intro unconverted own' eq
      cases eq
      refine ⟨u, given, same.1 ?_⟩
      by_contra different
      rw [if_neg different] at unconverted
      cases unconverted
    · intro h
      obtain ⟨u', given', key⟩ := h own rfl
      obtain rfl : u = u' := Option.some.inj (given.symm.trans given')
      rw [if_pos (same.2 key)]

/-- A result that is converted becomes the output, into which there is a conversion. -/
theorem licensed_of_result_eq_some (plan : p.For c k ss) (fits : ∀ s ∈ ss, s.Fits k)
    (gives : r.Gives w k p r' output) (held : r'.wrappers ⊆ wrappers) (hs : s ∈ ss) {t : Ty}
    (converted : (Arm.ofSignature p.names p.slots output p.byReference v s).result = some t) :
    output = some t ∧ ∃ own, s.output = some own ∧ Licensed wrappers own t := by
  cases value : s.output with
  | none =>
    rw [result_ofSignature_none value] at converted
    cases converted
  | some own =>
    obtain ⟨u, rfl⟩ := gives.exists_output plan hs value
    rw [result_ofSignature value] at converted
    split at converted
    · cases converted
    · next different =>
      cases converted
      rw [not_or] at different
      -- By reference the field would be borrowed, and its result not converted.
      have byValue : p.byReference = false := by
        rw [Bool.eq_false_iff]
        intro byReference
        obtain ⟨read, u, -, -, fields⟩ := plan.reads (List.ne_nil_of_mem hs) byReference
        have count := plan.length_passed fits hs
        rw [(fits s hs).inputs, read] at count
        apply different.1
        rw [byReference]
        exact isBorrowed_ofSignature (fields s hs).1 (List.length_eq_zero_iff.1 count)
      exact ⟨rfl, own, rfl, gives.licensed plan byValue held hs value different.2⟩

end

/-- The arm for one of the signatures of a plan forwards soundly. -/
theorem arm_sound {c : Catalogue} {w : Wrapper} {k : Key} {ss : List Signature} {p : Plan}
    {r r' : Registry} {output : Option Ty} {wrappers : List Wrapper} (fits : ∀ s ∈ ss, s.Fits k)
    (provided : List.Forall₂ (c.Provides k) w.types ss) (plan : p.For c k ss)
    (gives : r.Gives w k p r' output) (held : r'.wrappers ⊆ wrappers) {v : Ident × Ty}
    {s : Signature} (hs : s ∈ ss) (provides : c.Provides k v.2 s) :
    Arm.Sound c wrappers (p.accessor w k ss output) v s
      (Arm.ofSignature p.names p.slots output p.byReference v.1 s) where
  variant := rfl
  provides := provides
  target := target_ofSignature _ _ _ _
  count := by
    show (Use.ofSignature p.names p.slots p.byReference s).passed.length = _
    rw [passed_ofSignature, plan.length_passed fits hs]
  passes i x passed := by
    change (Use.ofSignature p.names p.slots p.byReference s).passed[i]? = some x at passed
    rw [passed_ofSignature] at passed
    exact passes_of_argumentSlots (fun s hs => (fits s hs).inputs) plan.slots hs passed
  cloned _ cloned := plan.isClone_of_cloned fits hs cloned
  borrowed _ borrowed := by
    have byReference := ofSignature_eq_borrowed borrowed
    obtain ⟨-, t, common, -, fields⟩ := plan.reads (List.ne_nil_of_mem hs) byReference
    refine ⟨t, gives.eq_reference byReference common, ?_⟩
    rw [signatures_accessor provided]
    exact fields
  unconverted := result_eq_none_iff plan gives hs
  converted _ converted := licensed_of_result_eq_some plan fits gives held hs converted

/-! ## Accessors -/

/-- An accessor that was made forwards soundly, if every signature fits its key. -/
theorem accessor_sound {c : Catalogue} {w : Wrapper} {first last : Registry} {a : Accessor}
    (fits : c.Fits) (made : a.Made c w first last) : a.Sound c last.wrappers w := by
  obtain @⟨k, ss, p, r, r', output, provided, plan, gives, -, held⟩ := made
  have each := fits_of_provided fits provided
  constructor
  · show p.names.length = p.slots.length
    by_cases nonempty : ss = []
    · subst nonempty
      have slots : Except.ok [] = Except.ok p.slots := plan.slots
      rw [plan.names, ← Except.ok.inj slots]
      rfl
    · have arity : ∀ s ∈ ss, s.inputs.length = k.shape.inputs := fun s hs => (each s hs).inputs
      rw [plan.names, length_argumentNames nonempty each,
        (argumentSlots_spec nonempty arity plan.slots).1]
  · have sides : List.Forall₂ (fun v s => c.Provides k v.2 s) w.variants ss :=
      List.forall₂_map_left_iff.1 provided
    exact forall₂_map_zip sides fun v s hs provides =>
      ⟨s, arm_sound each provided plan gives held.subset hs provides⟩
  · exact ⟨_, accessor_reads _, Emission.forall₂_arm_reads _⟩

/-- The implementation with the accessors of a wrapper stands in what is generated. -/
theorem accessors_generated {e : Expansion} {g : Registry.Forwarded} (hg : g ∈ e.wrappers)
    (some : g.accessors ≠ []) :
    [keyword "impl", g.wrapper.ident.token, inBraces (g.accessors.flatMap Accessor.tokens)] <:+:
      e.generated := by
  obtain ⟨attributes, text⟩ := accessorImpl_eq g.wrapper.ident some
  refine List.IsInfix.trans ⟨storeTokens e.library g.wrapper ++ attributes, [], ?_⟩
    (List.infix_of_mem_flatten (List.mem_map_of_mem hg))
  rw [text, List.append_nil, List.append_assoc]

/-- Every accessor of every wrapper of a module that expands forwards soundly, in the text that is
generated for it. -/
theorem expand_sound {m : Module} {library : Path} {e : Expansion}
    (h : m.expand library = .ok e) :
    ∃ c kept r, m.prepare = .ok (c, kept, r) ∧
      ∀ g ∈ e.wrappers, (∀ a ∈ g.accessors, a.Sound c (e.wrappers.map (·.wrapper)) g.wrapper) ∧
        (g.accessors ≠ [] →
          [keyword "impl", g.wrapper.ident.token, inBraces (g.accessors.flatMap Accessor.tokens)] <:+:
            e.generated) := by
  obtain ⟨c, kept, r, prepared, expanded, -⟩ := expand_eq_ok h
  refine ⟨c, kept, r, prepared, ?_⟩
  obtain ⟨last, processes⟩ := processes_of_expand expanded
  intro g hg
  refine ⟨fun a ha => ?_, accessors_generated hg⟩
  obtain ⟨first, made⟩ := processes.processed.made g hg
  rw [show e.wrappers.map (·.wrapper) = last.wrappers from processes.processed.emitted]
  exact accessor_sound (prepare_fits prepared) (made a ha)

/-! ## Members of every kind -/

/-- A wrapper over two structs, the variants in the given order: of their fields one is read by
reference, one is promoted, and one needs a nested wrapper. -/
def labelled (variants : List String) : Module :=
  moduleOf <|
    [openStruct "Handle" [],
      openStruct "A" [openField "size" (.ofName "i32"), openField "tag" (.ofName "i32"),
        openField "handle" (.ofName "Handle")],
      openStruct "B" [openField "size" (.ofName "i64"), openField "tag" (.ofName "String"),
        openField "handle" (.ofName "Handle")]] ++
      [declaringEnum "W" variants]

/-- What is generated for the wrapper, in every order of its variants. -/
def labelledOverview : List (String × List (String × Option String)) :=
  [("W", [("handle", some "& Handle"), ("set_handle", none), ("size", some "i64"),
    ("set_size", none), ("tag", some "WTag"), ("set_tag", none)]), ("WTag", [])]

theorem expand_sound_labelled :
    ∃ e c kept r, (labelled ["A", "B"]).expand defaultLibrary = .ok e ∧
      e.overview = labelledOverview ∧ (labelled ["A", "B"]).prepare = .ok (c, kept, r) ∧
      ∀ g ∈ e.wrappers, (∀ a ∈ g.accessors, a.Sound c (e.wrappers.map (·.wrapper)) g.wrapper) ∧
        (g.accessors ≠ [] →
          [keyword "impl", g.wrapper.ident.token, inBraces (g.accessors.flatMap Accessor.tokens)] <:+:
            e.generated) := by
  obtain ⟨e, expanded, overview⟩ := exists_ok_of_toOption
    (x := (labelled ["A", "B"]).expand defaultLibrary) (f := Expansion.overview)
    (b := labelledOverview) (by decide +kernel)
  obtain ⟨c, kept, r, prepared, sound⟩ := expand_sound expanded
  exact ⟨e, c, kept, r, expanded, overview, prepared, sound⟩

end SharedMembers
