import SharedMembers.Proofs.Places
import SharedMembers.Proofs.Forwarding

/-!
# Runs without places

Whether a member is forwarded, how, and which wrappers arise on the way does not depend on where
anything was written: a run with all places taken out takes the same steps.

Results:
* `plan_unplaced`: the plan for a member, or the obstacle.
* `step_unplaced`, `forward_unplaced`: one member, and all members of one wrapper.
* `Registry.expand_unplaced`: all wrappers.
-/

namespace SharedMembers

/-! ## Taking places out -/

/-- The member without its place. -/
def Target.unplaced : Target → Target
  | .field i => .field i.unplaced
  | .method i => .method i.unplaced

/-- The signature without places. -/
def Signature.unplaced (s : Signature) : Signature :=
  ⟨s.receiver, s.target.unplaced, s.names.map Ident.unplaced, s.inputs.map Ty.unplaced,
    s.output.map Ty.unplaced⟩

/-- The members without places. -/
def Table.unplaced (t : Table) : Table :=
  t.map (Prod.map id Signature.unplaced)

/-- The type and its members without places. -/
def Descriptor.unplaced (d : Descriptor) : Descriptor :=
  ⟨d.ident.unplaced, d.table.unplaced⟩

/-- The catalogue without places. -/
def Catalogue.unplaced (c : Catalogue) : Catalogue :=
  ⟨c.types.map (Prod.map id Descriptor.unplaced), c.cloneable⟩

/-- What is taken, without places. -/
def Slot.unplaced : Slot → Slot
  | .convertible parameter bounds => .convertible parameter.unplaced (bounds.map Ty.unplaced)
  | .exact t => .exact t.unplaced

/-- The outcome without places. -/
def Unified.unplaced : Unified → Unified
  | .unit => .unit
  | .common t => .common t.unplaced
  | .distinct ts => .distinct (ts.map Ty.unplaced)
  | .incompatible m => .incompatible m

/-- The plan without places. -/
def Plan.unplaced (p : Plan) : Plan :=
  ⟨p.receiver, p.names.map Ident.unplaced, p.slots.map Slot.unplaced, p.byReference,
    p.returns.unplaced⟩

/-- The arguments without places. -/
def AttributeArguments.unplaced : AttributeArguments → AttributeArguments
  | .nothing => .nothing
  | .list d _ _ tokens => .list d none none (tokens.map Tree.unplaced)
  | .value code => .value (code.map Fragment.unplaced)

/-- The attribute without places. -/
def Attribute.unplaced (a : Attribute) : Attribute :=
  ⟨none, a.inner, a.path.unplaced, a.arguments.unplaced⟩

/-- The visibility without places. -/
def Visibility.unplaced : Visibility → Visibility
  | .inherited => .inherited
  | .everywhere _ => .everywhere none
  | .restricted _ within path => .restricted none within path.unplaced

/-- The wrapper without places. -/
def Wrapper.unplaced (w : Wrapper) : Wrapper :=
  ⟨w.ident.unplaced, w.visibility.unplaced, w.attributes.map Attribute.unplaced,
    w.variants.map (Prod.map Ident.unplaced Ty.unplaced), w.nestedDerive.map Path.unplaced,
    w.owner.map (Prod.map Ident.unplaced id)⟩


@[simp] theorem setKeyOf_unplaced (ts : List Ty) : setKeyOf (ts.map Ty.unplaced) = setKeyOf ts := by
  simp [setKeyOf, Function.comp_def]

@[simp] theorem Wrapper.types_unplaced (w : Wrapper) :
    w.unplaced.types = w.types.map Ty.unplaced := by
  simp [types, unplaced]

@[simp] theorem Wrapper.setKey_unplaced (w : Wrapper) : w.unplaced.setKey = w.setKey := by
  rw [setKey, types_unplaced, setKeyOf_unplaced, setKey]

theorem Indexes.unplaced {bySet : List (List String × Nat)} {wrappers : List Wrapper}
    (h : Indexes bySet wrappers) : Indexes bySet (wrappers.map Wrapper.unplaced) := by
  intro set
  rw [h set, List.findIdx?_map]
  simp [Function.comp_def]

/-- The wrappers without places, and what the registry knows of them. -/
def Registry.unplaced (r : Registry) : Registry :=
  ⟨r.wrappers.map Wrapper.unplaced, r.bySet, r.taken, r.indexes.unplaced⟩

/-- The accessor without places. -/
def Accessor.unplaced (a : Accessor) : Accessor :=
  ⟨a.visibility.unplaced, a.key, a.receiver, a.names.map Ident.unplaced, a.slots.map Slot.unplaced,
    a.output.map Ty.unplaced, a.byReference,
    a.arms.map (Prod.map Ident.unplaced Signature.unplaced)⟩

/-- The warning without its place. -/
def Warning.unplaced (w : Warning) : Warning :=
  ⟨w.cause, none⟩

/-- What is forwarded, without places. -/
def Forwarding.unplaced (f : Forwarding) : Forwarding :=
  ⟨f.registry.unplaced, f.accessors.map Accessor.unplaced, f.warnings.map Warning.unplaced⟩

/-- A wrapper with its accessors, without places. -/
def Registry.Forwarded.unplaced (f : Registry.Forwarded) : Registry.Forwarded :=
  ⟨f.wrapper.unplaced, f.accessors.map Accessor.unplaced⟩

@[simp] theorem Ident.generated_unplaced (name : String) :
    (Ident.generated name).unplaced = .generated name := rfl

@[simp] theorem Target.isField_unplaced (t : Target) : t.unplaced.isField = t.isField := by
  cases t <;> rfl

/-! ## Tables -/

@[simp] theorem Table.keys_unplaced (t : Table) : t.unplaced.keys = t.keys := by
  simp [unplaced, keys]

@[simp] theorem Table.get?_unplaced (t : Table) (k : Key) :
    t.unplaced.get? k = (t.get? k).map Signature.unplaced := by
  induction t with
  | nil => rfl
  | cons e t ih =>
    obtain ⟨k', s⟩ := e
    by_cases same : k = k'
    · simp [unplaced, get?, same]
    · simpa [unplaced, get?, same] using ih

@[simp] theorem Catalogue.find?_unplaced (c : Catalogue) (name : String) :
    c.unplaced.find? name = (c.find? name).map Descriptor.unplaced := by
  simp [unplaced, find?, List.find?_map, Function.comp_def]

@[simp] theorem Catalogue.table?_unplaced (c : Catalogue) (t : Ty) :
    c.unplaced.table? t.unplaced = (c.table? t).map Table.unplaced := by
  simp [table?, get?, Descriptor.unplaced, Function.comp_def]

theorem Catalogue.tables_unplaced (c : Catalogue) (ts : List Ty) :
    (ts.map Ty.unplaced).map c.unplaced.table? =
      (ts.map c.table?).map (Option.map Table.unplaced) := by
  simp [Function.comp_def]

theorem unionKeys_unplaced (tables : List Table) :
    unionKeys (tables.map Table.unplaced) = unionKeys tables := by
  simp [unionKeys, List.flatMap_map]

/-- What is done to each result may be done to all of them at the end. -/
theorem mapM_map_comm {m : Type → Type} [Monad m] [LawfulMonad m] {α β γ : Type} (f : α → m β)
    (g : β → γ) (as : List α) : as.mapM (fun a => g <$> f a) = List.map g <$> as.mapM f := by
  induction as with
  | nil => simp
  | cons a as ih => simp [ih]

theorem resolveAll_unplaced (tables : List (Option Table)) (k : Key) :
    resolveAll (tables.map (Option.map Table.unplaced)) k =
      (resolveAll tables k).map (List.map Signature.unplaced) := by
  have each : ∀ t : Option Table, (t.map Table.unplaced).bind (·.get? k) =
      (t.bind (·.get? k)).map Signature.unplaced := fun t => by cases t <;> simp
  rw [resolveAll, List.mapM_map, resolveAll]
  exact (congrArg (tables.mapM ·) (funext each)).trans (mapM_map_comm _ _ tables)

/-! ## Unification -/

theorem distinctFrom_unplaced (seen : List String) (ts : List Ty) :
    distinctFrom seen (ts.map Ty.unplaced) = (distinctFrom seen ts).map Ty.unplaced := by
  induction ts generalizing seen with
  | nil => rfl
  | cons t ts ih =>
    rw [List.map_cons, distinctFrom, distinctFrom, Ty.key_unplaced, ih, ih]
    split <;> rfl

@[simp] theorem distinct_unplaced (ts : List Ty) :
    distinct (ts.map Ty.unplaced) = (distinct ts).map Ty.unplaced :=
  distinctFrom_unplaced [] ts

@[simp] theorem any_borrows_unplaced (ts : List Ty) :
    (ts.map Ty.unplaced).any Ty.borrows = ts.any Ty.borrows := by
  simp [List.any_map, Function.comp_def]

@[simp] theorem commonSupertype_unplaced (ts : List Ty) :
    commonSupertype (ts.map Ty.unplaced) = (commonSupertype ts).map Ty.unplaced := by
  have scalars : (ts.map Ty.unplaced).mapM Scalar.ofTy? = ts.mapM Scalar.ofTy? := by
    rw [List.mapM_map]
    exact congrArg (ts.mapM ·) (funext Scalar.ofTy?_unplaced)
  have borrowed : (ts.map Ty.unplaced).countP Ty.borrows = ts.countP Ty.borrows := by
    rw [List.countP_map]
    exact congrArg (ts.countP ·) (funext Ty.borrows_unplaced)
  rw [commonSupertype, scalars, commonSupertype]
  cases ts.mapM Scalar.ofTy? with
  | none => rfl
  | some scalars =>
    simp only [Option.bind_some, borrowed, List.zip_map_left, List.find?_map, Function.comp_def,
      Prod.map_fst, Prod.map_snd, id, Ty.borrows_unplaced]
    -- The types are looked through alike; what is found is the same one without places.
    generalize List.find? _ (ts.zip scalars) = own
    cases own with
    | some found => rfl
    | none =>
      rw [Option.map_none, Option.map_map]
      rfl

@[simp] theorem unifyTypes_unplaced (ts : List Ty) :
    unifyTypes (ts.map Ty.unplaced) = (unifyTypes ts).unplaced := by
  have several : ∀ us : List Ty, us.length ≠ 1 →
      unifyTypes (us.map Ty.unplaced) = (unifyTypes us).unplaced := fun us length => by
    rw [unifyTypes_of_length_ne_one (by simpa using length), unifyTypes_of_length_ne_one length,
      commonSupertype_unplaced, any_borrows_unplaced]
    cases commonSupertype us with
    | some t => rfl
    | none => 
      rw [Option.map_none]
      dsimp only
      split <;> rfl
  match ts with
  | [] => exact several [] (by decide)
  | [t] => rfl
  | t :: u :: us => exact several _ (by simp)

theorem unify_unplaced (returns : List (Option Ty)) :
    unify (returns.map (Option.map Ty.unplaced)) = (unify returns).unplaced := by
  have types : (returns.map (Option.map Ty.unplaced)).filterMap id =
      (returns.filterMap id).map Ty.unplaced := by
    rw [List.filterMap_map, List.map_filterMap]
    rfl
  have nothing : ∀ t : Option Ty, (t.map Ty.unplaced).isNone = t.isNone := fun t => by
    cases t <;> rfl
  have all : (returns.map (Option.map Ty.unplaced)).all Option.isNone =
      returns.all Option.isNone := by simp [List.all_map, Function.comp_def, nothing]
  have any : (returns.map (Option.map Ty.unplaced)).any Option.isNone =
      returns.any Option.isNone := by simp [List.any_map, Function.comp_def, nothing]
  rw [unify, all, any, types, distinct_unplaced, unifyTypes_unplaced, unify]
  split
  · rfl
  · split <;> rfl

/-! ## Plans -/

section

variable (c : Catalogue) (used : List String) (k : Key) (n : Nat) (ss : List Signature)

theorem slotFor_unplaced (ts : List Ty) :
    slotFor n (ts.map Ty.unplaced) = (slotFor n ts).map Slot.unplaced := by
  unfold slotFor
  rw [any_borrows_unplaced]
  split
  · match ts with
    | [] | [_] | _ :: _ :: _ => rfl
  · rfl

theorem declaredTypes_unplaced :
    declaredTypes (ss.map Signature.unplaced) n = (declaredTypes ss n).map Ty.unplaced := by
  have each : (ss.map Signature.unplaced).filterMap (·.inputs[n]?) =
      (ss.filterMap (·.inputs[n]?)).map Ty.unplaced := by
    rw [List.filterMap_map, List.map_filterMap]
    exact congrArg (ss.filterMap ·) (funext fun s => List.getElem?_map)
  rw [declaredTypes, each, distinct_unplaced, declaredTypes]

theorem argumentSlots_unplaced :
    argumentSlots (ss.map Signature.unplaced) =
      (argumentSlots ss).map (List.map Slot.unplaced) := by
  have arity : (ss.map Signature.unplaced).head?.map (·.inputs.length) =
      ss.head?.map (·.inputs.length) := by
    cases ss with
    | nil => rfl
    | cons s ss => simp [Signature.unplaced]
  rw [argumentSlots, arity, argumentSlots]
  simp only [declaredTypes_unplaced, slotFor_unplaced]
  exact mapM_map_comm _ _ _

theorem fieldTypes_unplaced :
    fieldTypes (ss.map Signature.unplaced) = (fieldTypes ss).map Ty.unplaced := by
  rw [fieldTypes, List.filter_map, List.filterMap_map, fieldTypes, List.map_filterMap]
  refine congrArg (List.filterMap _) (congrArg (ss.filter ·) (funext fun s => ?_))
  exact s.target.isField_unplaced

theorem readByReference_unplaced :
    readByReference c.unplaced (ss.map Signature.unplaced) = readByReference c ss := by
  have cloned : ((fieldTypes ss).map Ty.unplaced).all c.unplaced.isClone =
      (fieldTypes ss).all c.isClone := by
    have same : c.cloneable = c.unplaced.cloneable := rfl
    rw [List.all_map]
    exact congrArg (List.all _) (funext (isClone_unplaced same))
  simp only [readByReference, fieldTypes_unplaced, cloned, distinct_unplaced, List.length_map]

theorem usesReference_unplaced (shape : Shape) :
    usesReference c.unplaced shape (ss.map Signature.unplaced) = usesReference c shape ss := by
  cases shape with
  | read => exact readByReference_unplaced c ss
  | write => rfl
  | call n => rfl

theorem receiverOf_unplaced : receiverOf (ss.map Signature.unplaced) = receiverOf ss := by
  rw [receiverOf, List.foldr_map, receiverOf]
  rfl

theorem argumentNames_unplaced :
    argumentNames (ss.map Signature.unplaced) = (argumentNames ss).map Ident.unplaced := by
  cases ss <;> rfl

theorem plan_unplaced :
    plan c.unplaced used k (ss.map Signature.unplaced) = (plan c used k ss).map Plan.unplaced := by
  have outputs : (ss.map Signature.unplaced).map (·.output) =
      (ss.map (·.output)).map (Option.map Ty.unplaced) := by
    simp [Signature.unplaced]
  rw [plan_eq, argumentSlots_unplaced, usesReference_unplaced, outputs, unify_unplaced,
    receiverOf_unplaced, argumentNames_unplaced, plan_eq]
  split
  · rfl
  split
  · rfl
  cases argumentSlots ss with
  | error m => rfl
  | ok slots =>
    cases usesReference c k.shape ss with
    | error o => rfl
    | ok byReference =>
      cases unify (ss.map (·.output)) <;> rfl

end

/-! ## Wrappers -/

theorem Registry.find?_unplaced (r : Registry) (set : List String) :
    r.unplaced.find? set = (r.find? set).map Wrapper.unplaced := by
  simp only [find?_eq, unplaced, List.find?_map, Function.comp_def, Wrapper.setKey_unplaced]

@[simp] theorem Registry.push_unplaced (r : Registry) (w : Wrapper) :
    (r.push w).unplaced = r.unplaced.push w.unplaced := by
  simp [push, unplaced]

@[simp] theorem Registry.add_unplaced (r : Registry) (w : Wrapper) :
    (r.add w).unplaced = r.unplaced.add w.unplaced := by
  rw [add, add, ← push_unplaced]
  rfl

theorem variantNames_unplaced (taken : List String) (ts : List Ty) :
    variantNames taken (ts.map Ty.unplaced) = variantNames taken ts := by
  induction ts generalizing taken with
  | nil => rfl
  | cons t ts ih => simp [variantNames, ih]

theorem unplaced_of_nameOf {text : String} {i : Ident} (h : nameOf text = .ok i) :
    i.unplaced = i := by
  obtain ⟨-, rfl⟩ := nameOf_eq_ok_iff.1 h
  rfl

theorem referenceTo_unplaced {t u : Ty} (h : referenceTo t = .ok u) :
    referenceTo t.unplaced = .ok u.unplaced := by
  rw [referenceTo] at h ⊢
  split at h
  · cases h
  · next single =>
    cases h
    rw [Ty.isSum_unplaced, if_neg single]
    rfl

theorem nestedDerivation_unplaced (paths : List Path) :
    nestedDerivation (paths.map Path.unplaced) =
      (nestedDerivation paths).map Attribute.unplaced := by
  have tokens : (separated comma false (paths.map Path.tokens)).map Tree.unplaced =
      separated comma false ((paths.map Path.unplaced).map Path.tokens) := by
    simp [map_separated, Function.comp_def, comma, Tree.unplaced]
  rw [nestedDerivation, nestedDerivation, List.isEmpty_map]
  split
  · rfl
  · simp [Attribute.unplaced, AttributeArguments.unplaced, tokens]
    rfl

theorem nestedWrapper_unplaced {r : Registry} {parent w : Wrapper} {member : String}
    {ts : List Ty} (h : r.nestedWrapper parent member ts = .ok w) :
    r.unplaced.nestedWrapper parent.unplaced member (ts.map Ty.unplaced) = .ok w.unplaced := by
  obtain ⟨ident, names, hident, hnames, -, rfl⟩ := nestedWrapper_eq_ok h
  have generated : names.map Ident.unplaced = names := by
    refine (List.map_congr_left fun i hi => ?_).trans (List.map_id names)
    obtain ⟨text, -, made⟩ := exists_of_mem_mapM hnames hi
    exact unplaced_of_nameOf made
  refine bind_eq_ok_iff.2 ⟨ident, hident, bind_eq_ok_iff.2 ⟨names, ?_, ?_⟩⟩
  · rw [variantNames_unplaced, hnames]
  · have variants : (names.zip ts).map (Prod.map Ident.unplaced Ty.unplaced) =
        names.zip (ts.map Ty.unplaced) := by rw [← List.zip_map, generated]
    simp only [Wrapper.unplaced, nestedDerivation_unplaced, variants, unplaced_of_nameOf hident]
    rfl

theorem wrapperFor_unplaced {r r' : Registry} {parent : Wrapper} {member : String}
    {ts : List Ty} {i : Ident} (h : r.wrapperFor parent member ts = .ok (r', i)) :
    r.unplaced.wrapperFor parent.unplaced member (ts.map Ty.unplaced) =
      .ok (r'.unplaced, i.unplaced) := by
  rw [Registry.wrapperFor] at h ⊢
  rw [setKeyOf_unplaced, Registry.find?_unplaced]
  cases found : r.find? (setKeyOf ts) with
  | some w =>
    rw [found] at h
    cases h
    rfl
  | none =>
    rw [found] at h
    obtain ⟨w, made, eq⟩ := map_eq_ok_iff.1 h
    cases eq
    refine map_eq_ok_iff.2 ⟨w.unplaced, nestedWrapper_unplaced made, ?_⟩
    rw [Registry.add_unplaced]
    rfl

theorem outputFor_unplaced {r r' : Registry} {parent : Wrapper} {k : Key} {p : Plan}
    {output : Option Ty} (h : r.outputFor parent k p = .ok (r', output)) :
    r.unplaced.outputFor parent.unplaced k p.unplaced =
      .ok (r'.unplaced, output.map Ty.unplaced) := by
  obtain ⟨receiver, names, slots, byReference, returns⟩ := p
  cases returns with
  | unit =>
    cases h
    rfl
  | incompatible m =>
    cases h
    rfl
  | common t =>
    obtain ⟨u, hu, eq⟩ := map_eq_ok_iff.1 h
    cases eq
    refine map_eq_ok_iff.2 ⟨u.unplaced, ?_, rfl⟩
    cases byReference with
    | true => exact referenceTo_unplaced hu
    | false =>
      cases hu
      rfl
  | distinct ts =>
    obtain ⟨⟨r₁, i⟩, made, eq⟩ := map_eq_ok_iff.1 h
    cases eq
    exact map_eq_ok_iff.2 ⟨_, wrapperFor_unplaced made, rfl⟩

/-! ## Forwarding -/

@[simp] theorem Forwarding.used_unplaced (f : Forwarding) : f.unplaced.used = f.used := by
  simp [used, unplaced, Accessor.unplaced]

@[simp] theorem Forwarding.warn_unplaced (f : Forwarding) (w : Wrapper) (cause : WarningCause) :
    (f.warn w cause).unplaced = f.unplaced.warn w.unplaced cause := by
  simp [warn, unplaced, Warning.unplaced, Wrapper.unplaced]

theorem Plan.accessor_unplaced (p : Plan) (w : Wrapper) (k : Key) (ss : List Signature)
    (output : Option Ty) :
    (p.accessor w k ss output).unplaced =
      p.unplaced.accessor w.unplaced k (ss.map Signature.unplaced) (output.map Ty.unplaced) := by
  simp [accessor, Accessor.unplaced, unplaced, Wrapper.unplaced, ← List.zip_map, Function.comp_def]

theorem step_unplaced {c : Catalogue} {w : Wrapper} {f f' : Forwarding} {k : Key}
    (h : f.step c w k = .ok f') :
    f.unplaced.step c.unplaced w.unplaced k = .ok f'.unplaced := by
  rw [Forwarding.step] at h ⊢
  rw [Wrapper.types_unplaced, Catalogue.tables_unplaced, resolveAll_unplaced,
    Forwarding.used_unplaced]
  cases resolved : resolveAll (w.types.map c.table?) k with
  | none =>
    rw [resolved] at h
    cases h
    rfl
  | some ss =>
    rw [resolved] at h
    dsimp only [Option.map_some] at h ⊢
    rw [plan_unplaced]
    cases planned : plan c f.used k ss with
    | error o =>
      rw [planned] at h
      cases h
      exact congrArg _ (Forwarding.warn_unplaced ..).symm
    | ok p =>
      rw [planned] at h
      obtain ⟨⟨r, output⟩, made, h⟩ := bind_eq_ok_iff.1 h
      obtain ⟨i, named, h⟩ := bind_eq_ok_iff.1 h
      cases h
      refine bind_eq_ok_iff.2 ⟨_, outputFor_unplaced made, bind_eq_ok_iff.2 ⟨i, named, ?_⟩⟩
      simp [Forwarding.unplaced, Plan.accessor_unplaced, pure, Except.pure]

theorem steps_unplaced {c : Catalogue} {w : Wrapper} {ks : List Key} {f f' : Forwarding}
    (h : f.steps c w ks = .ok f') :
    f.unplaced.steps c.unplaced w.unplaced ks = .ok f'.unplaced := by
  induction ks generalizing f with
  | nil =>
    cases h
    rfl
  | cons k ks ih =>
    obtain ⟨f₁, first, rest⟩ := bind_eq_ok_iff.1 h
    exact bind_eq_ok_iff.2 ⟨f₁.unplaced, step_unplaced first, ih rest⟩

theorem start_unplaced (c : Catalogue) (r : Registry) (w : Wrapper) :
    Forwarding.start c.unplaced r.unplaced w.unplaced = (Forwarding.start c r w).unplaced := by
  have tables : (w.unplaced.types.map c.unplaced.table?).any Option.isNone =
      (w.types.map c.table?).any Option.isNone := by
    rw [Wrapper.types_unplaced, Catalogue.tables_unplaced, List.any_map]
    exact congrArg (List.any _) (funext fun t => by cases t <;> rfl)
  have owner : w.unplaced.owner.isNone = w.owner.isNone := by simp [Wrapper.unplaced]
  rw [Forwarding.start, tables, owner, Forwarding.start]
  split <;> rfl

theorem keysOf_unplaced (c : Catalogue) (w : Wrapper) :
    c.unplaced.keysOf w.unplaced = c.keysOf w := by
  have tables : (w.unplaced.types.map c.unplaced.table?).filterMap id =
      ((w.types.map c.table?).filterMap id).map Table.unplaced := by
    rw [Wrapper.types_unplaced, Catalogue.tables_unplaced, List.filterMap_map, List.map_filterMap]
    rfl
  rw [Catalogue.keysOf, tables, unionKeys_unplaced, Catalogue.keysOf]

theorem forward_unplaced {c : Catalogue} {r : Registry} {w : Wrapper} {f : Forwarding}
    (h : r.forward c w = .ok f) :
    r.unplaced.forward c.unplaced w.unplaced = .ok f.unplaced := by
  rw [forward_eq] at h ⊢
  rw [start_unplaced, keysOf_unplaced]
  exact steps_unplaced h

/-! ## Runs -/

theorem run_unplaced {c : Catalogue} {rounds index : Nat} {r : Registry}
    {all : List Registry.Forwarded} {warnings : List Warning}
    (h : r.run c rounds index = .ok (all, warnings)) :
    r.unplaced.run c.unplaced rounds index =
      .ok (all.map Registry.Forwarded.unplaced, warnings.map Warning.unplaced) := by
  induction rounds generalizing index r all warnings with
  | zero =>
    cases h
    rfl
  | succ rounds ih =>
    rw [Registry.run] at h ⊢
    have next : r.unplaced.wrappers[index]? = r.wrappers[index]?.map Wrapper.unplaced :=
      List.getElem?_map
    rw [next]
    cases current : r.wrappers[index]? with
    | none =>
      rw [current] at h
      cases h
      rfl
    | some w =>
      rw [current] at h
      obtain ⟨f, forwarded, h⟩ := bind_eq_ok_iff.1 h
      obtain ⟨⟨later, more⟩, rest, h⟩ := bind_eq_ok_iff.1 h
      cases h
      refine bind_eq_ok_iff.2 ⟨f.unplaced, forward_unplaced forwarded,
        bind_eq_ok_iff.2 ⟨_, ih rest, ?_⟩⟩
      simp [Registry.Forwarded.unplaced, Forwarding.unplaced, pure, Except.pure]

theorem Table.outputKeys_unplaced (t : Table) :
    t.unplaced.filterMap (fun (_, s) => s.output.map Ty.key) =
      t.filterMap fun (_, s) => s.output.map Ty.key := by
  rw [Table.unplaced, List.filterMap_map]
  refine congrArg (t.filterMap ·) (funext fun entry => ?_)
  simp [Signature.unplaced, Function.comp_def]

theorem returnedKeys_unplaced (c : Catalogue) :
    Registry.returnedKeys c.unplaced = Registry.returnedKeys c := by
  simp only [Registry.returnedKeys, Catalogue.unplaced, List.flatMap_map, Prod.map_snd,
    Descriptor.unplaced, Table.outputKeys_unplaced]

/-- A run without places takes the same steps. -/
theorem Registry.expand_unplaced {c : Catalogue} {r : Registry} {all : List Registry.Forwarded}
    {warnings : List Warning} (h : r.expand c = .ok (all, warnings)) :
    r.unplaced.expand c.unplaced =
      .ok (all.map Registry.Forwarded.unplaced, warnings.map Warning.unplaced) := by
  have bound : r.unplaced.bound c.unplaced = r.bound c := by
    simp [Registry.bound, returnedKeys_unplaced, Registry.unplaced]
  rw [Registry.expand, bound]
  exact run_unplaced h

end SharedMembers
