import SharedMembers.Proofs.Forwarding

/-!
# Signatures in another order

The signatures of a member come in the order of the variants. What is planned for them depends on
the order only in which of several types of one key stands for the others, and in how the arguments
are called. This takes types that their keys tell apart: types of one key have to borrow alike and
to be the same scalar.

Results:
* `unify_alike`: what the subtypes return is unified alike.
* `argumentSlots_alike`: the arguments are taken alike.
* `usesReference_perm`, `receiverOf_perm`: fields are read alike, and the receiver is the same.
* `plan_alike`: the plans are alike, or the same obstacle stands in the way.
-/

namespace SharedMembers

/-- Types of one key are alike: both borrow or none does, and they are the same scalar, if any. -/
def Faithful (ts : List Ty) : Prop :=
  ∀ t ∈ ts, ∀ u ∈ ts, t.key = u.key →
    t.borrows = u.borrows ∧ Scalar.ofTy? t = Scalar.ofTy? u

theorem Faithful.mono {ts us : List Ty} (h : Faithful us) (sub : ts ⊆ us) : Faithful ts :=
  fun t ht u hu => h t (sub ht) u (sub hu)

/-- Two lists of types that look the same up to order. -/
structure SameLook (ts us : List Ty) : Prop where
  keys : (ts.map Ty.key).Perm (us.map Ty.key)
  borrows : (ts.map Ty.borrows).Perm (us.map Ty.borrows)
  scalars : (ts.map Scalar.ofTy?).Perm (us.map Scalar.ofTy?)

namespace SameLook

theorem length_eq {ts us : List Ty} (h : SameLook ts us) : ts.length = us.length := by
  have := h.keys.length_eq
  rwa [List.length_map, List.length_map] at this

theorem any_borrows {ts us : List Ty} (h : SameLook ts us) :
    ts.any Ty.borrows = us.any Ty.borrows := by
  have same := h.borrows.any_eq (f := id)
  rwa [List.any_map, List.any_map] at same

theorem key_eq_of_singleton {t u : Ty} (h : SameLook [t] [u]) : t.key = u.key := by
  simpa using h.keys

/-- The types that are kept of faithful types look the same in every order. -/
theorem distinct {ts us : List Ty} (perm : ts.Perm us) (faithful : Faithful ts) :
    SameLook (distinct ts) (SharedMembers.distinct us) := by
  have keys := perm.map Ty.key
  have alike : ∀ t ∈ ts, ∀ u ∈ us, t.key = u.key →
      t.borrows = u.borrows ∧ Scalar.ofTy? t = Scalar.ofTy? u :=
    fun t ht u hu => faithful t ht u (perm.mem_iff.2 hu)
  exact ⟨distinct_perm keys, map_distinct_perm keys fun t ht u hu same => (alike t ht u hu same).1,
    map_distinct_perm keys fun t ht u hu same => (alike t ht u hu same).2⟩

end SameLook

/-! ## Returns -/

/-- The same outcome up to the order of types, and up to which of several types of one key it is
over. -/
inductive Unified.Alike : Unified → Unified → Prop where
  | unit : Alike .unit .unit
  | common {t u : Ty} (same : t.key = u.key) : Alike (.common t) (.common u)
  | distinct {ts us : List Ty} (same : (ts.map Ty.key).Perm (us.map Ty.key)) :
      Alike (.distinct ts) (.distinct us)
  | incompatible (m : Mismatch) : Alike (.incompatible m) (.incompatible m)

theorem isSome_commonSupertype_eq {ts us : List Ty} (h : SameLook ts us) :
    (commonSupertype ts).isSome = (commonSupertype us).isSome := by
  rw [Bool.eq_iff_iff, isSome_commonSupertype_iff, isSome_commonSupertype_iff]
  constructor
  · exact fun ⟨y, covers⟩ => ⟨y, covers.of_perm h.scalars⟩
  · exact fun ⟨y, covers⟩ => ⟨y, covers.of_perm h.scalars.symm⟩

theorem unifyTypes_alike {ts us : List Ty} (nonempty : ts ≠ []) (h : SameLook ts us) :
    (unifyTypes ts).Alike (unifyTypes us) := by
  have length := h.length_eq
  by_cases one : ts.length = 1
  · obtain ⟨t, rfl⟩ := List.length_eq_one_iff.1 one
    obtain ⟨u, rfl⟩ := List.length_eq_one_iff.1 (length ▸ one)
    exact .common h.key_eq_of_singleton
  · have several : 2 ≤ ts.length := by
      have := List.length_pos_iff.2 nonempty
      omega
    have isSome := isSome_commonSupertype_eq h
    rw [unifyTypes_of_length_ne_one one, unifyTypes_of_length_ne_one (length ▸ one)]
    cases hts : commonSupertype ts with
    | some t =>
      cases hus : commonSupertype us with
      | some u => exact .common (key_commonSupertype_eq several h.scalars hts hus)
      | none => rw [hts, hus] at isSome; cases isSome
    | none =>
      cases hus : commonSupertype us with
      | some u => rw [hts, hus] at isSome; cases isSome
      | none =>
        dsimp only
        rw [h.any_borrows]
        split
        · exact .incompatible _
        · exact .distinct h.keys

/-- What is returned is unified alike in every order. -/
theorem unify_alike {rs rs' : List (Option Ty)} (perm : rs.Perm rs')
    (faithful : Faithful (rs.filterMap id)) : (unify rs).Alike (unify rs') := by
  rcases unify_cases rs with ⟨unit, all⟩ | ⟨mixed, nothing, t, value⟩ | ⟨ts, nonempty, rfl, types⟩
  · have all' : ∀ r ∈ rs', r = none := fun r hr => all r (perm.mem_iff.2 hr)
    rw [unit, unify_of_forall_none all']
    exact .unit
  · rw [mixed, unify_of_mixed (perm.mem_iff.1 value) (perm.mem_iff.1 nothing)]
    exact .incompatible _
  · have values : none ∉ rs' := fun nothing => by simpa using perm.mem_iff.2 nothing
    obtain ⟨us, rfl⟩ := exists_map_some values
    have perm : ts.Perm us := (List.map_perm_map_iff fun _ _ => Option.some.inj).1 perm
    have nonempty' : us ≠ [] := fun nil => nonempty (List.perm_nil.1 (nil ▸ perm))
    have faithful : Faithful ts := faithful.mono fun t ht =>
      List.mem_filterMap.2 ⟨some t, List.mem_map_of_mem ht, rfl⟩
    rw [types, unify_map_some nonempty']
    exact unifyTypes_alike (mt distinct_eq_nil_iff.1 nonempty) (SameLook.distinct perm faithful)

/-! ## Arguments -/

/-- The same slot up to the order of bounds, and up to which of several types of one key it has. -/
inductive Slot.Alike : Slot → Slot → Prop where
  | convertible (parameter : Ident) {bounds bounds' : List Ty}
      (same : (bounds.map Ty.key).Perm (bounds'.map Ty.key)) :
      Alike (.convertible parameter bounds) (.convertible parameter bounds')
  | exact {t u : Ty} (same : t.key = u.key) : Alike (.exact t) (.exact u)

theorem slotFor_alike (n : Nat) {ts us : List Ty} (h : SameLook ts us) :
    SameOutcome Slot.Alike (slotFor n ts) (slotFor n us) := by
  unfold slotFor
  rw [h.any_borrows]
  split
  · match ts, us, h, h.length_eq with
    | [], [], _, _ => exact .error _
    | [t], [u], h, _ => exact .ok (.exact h.key_eq_of_singleton)
    | _ :: _ :: _, _ :: _ :: _, _, _ => exact .error _
  · exact .ok (.convertible _ h.keys)

/-- All types that the signatures declare for arguments. -/
def inputsOf (ss : List Signature) : List Ty :=
  ss.flatMap (·.inputs)

theorem declaredTypes_sameLook {ss ss' : List Signature} (perm : ss.Perm ss')
    (faithful : Faithful (inputsOf ss)) (n : Nat) :
    SameLook (declaredTypes ss n) (declaredTypes ss' n) := by
  refine SameLook.distinct (perm.filterMap _) (faithful.mono fun t ht => ?_)
  obtain ⟨s, hs, declared⟩ := List.mem_filterMap.1 ht
  exact List.mem_flatMap.2 ⟨s, hs, List.mem_of_getElem? declared⟩

/-- The arguments are taken alike in every order of the signatures. -/
theorem argumentSlots_alike {ss ss' : List Signature} {n : Nat} (perm : ss.Perm ss')
    (arity : ∀ s ∈ ss, s.inputs.length = n) (faithful : Faithful (inputsOf ss)) :
    SameOutcome (List.Forall₂ Slot.Alike) (argumentSlots ss) (argumentSlots ss') := by
  have slots := fun i (_ : i ∈ List.range n) =>
    slotFor_alike i (declaredTypes_sameLook perm faithful i)
  have all := SameOutcome.mapM slots
  match ss, ss', perm with
  | [], [], _ => exact .ok .nil
  | [], s' :: rest', perm => cases perm.nil_eq
  | s :: rest, [], perm => cases perm.eq_nil
  | s :: rest, s' :: rest', perm =>
    have first : s.inputs.length = n := arity s List.mem_cons_self
    have first' : s'.inputs.length = n := arity s' (perm.mem_iff.2 List.mem_cons_self)
    rw [argumentSlots, argumentSlots]
    show SameOutcome _ ((List.range s.inputs.length).mapM _) ((List.range s'.inputs.length).mapM _)
    rw [first, first']
    exact all

/-! ## Fields and receivers -/

theorem fieldTypes_perm {ss ss' : List Signature} (perm : ss.Perm ss') :
    (fieldTypes ss).Perm (fieldTypes ss') :=
  (perm.filter _).filterMap _

/-- Fields are read alike in every order. -/
theorem usesReference_perm (c : Catalogue) (shape : Shape) {ss ss' : List Signature}
    (perm : ss.Perm ss') : usesReference c shape ss = usesReference c shape ss' := by
  have fields := fieldTypes_perm perm
  cases shape with
  | read =>
    show readByReference c ss = readByReference c ss'
    unfold readByReference
    dsimp only
    rw [fields.all_eq, fields.length_eq, perm.length_eq,
      length_distinct_of_perm (fields.map Ty.key)]
  | write => rfl
  | call n => rfl

theorem max_left_comm (a b d : Receiver) : a.max (b.max d) = b.max (a.max d) := by
  cases a <;> cases b <;> cases d <;> rfl

theorem receiverOf_perm {ss ss' : List Signature} (perm : ss.Perm ss') :
    receiverOf ss = receiverOf ss' := by
  induction perm with
  | nil => rfl
  | cons s _ ih => exact congrArg s.receiver.max ih
  | swap s s' ss => exact max_left_comm s'.receiver s.receiver (receiverOf ss)
  | trans _ _ ih ih' => exact ih.trans ih'

/-! ## Plans -/

/-- The same plan up to the order of types, and up to how the arguments are called. -/
structure Plan.Alike (p p' : Plan) : Prop where
  receiver : p.receiver = p'.receiver
  slots : List.Forall₂ Slot.Alike p.slots p'.slots
  byReference : p.byReference = p'.byReference
  returns : p.returns.Alike p'.returns

/-- All types that the signatures mention. -/
def typesOf (ss : List Signature) : List Ty :=
  ss.flatMap fun s => s.inputs ++ s.output.toList

/-- In every order of the signatures the plans are alike, or the same obstacle stands in the way. -/
theorem plan_alike (c : Catalogue) (used : List String) (k : Key) {ss ss' : List Signature}
    (perm : ss.Perm ss') (fits : ∀ s ∈ ss, s.Fits k) (faithful : Faithful (typesOf ss)) :
    SameOutcome Plan.Alike (plan c used k ss) (plan c used k ss') := by
  have inputs : inputsOf ss ⊆ typesOf ss := by
    intro t ht
    obtain ⟨s, hs, declared⟩ := List.mem_flatMap.1 ht
    exact List.mem_flatMap.2 ⟨s, hs, List.mem_append_left _ declared⟩
  have outputs : (ss.map (·.output)).filterMap id ⊆ typesOf ss := by
    intro t ht
    obtain ⟨_, returned, eq⟩ := List.mem_filterMap.1 ht
    obtain ⟨s, hs, rfl⟩ := List.mem_map.1 returned
    exact List.mem_flatMap.2 ⟨s, hs, List.mem_append_right _ (Option.mem_toList.2 eq)⟩
  have slots := argumentSlots_alike perm (fun s hs => (fits s hs).inputs) (faithful.mono inputs)
  have returns := unify_alike (perm.map (·.output)) (faithful.mono outputs)
  rw [plan_eq, plan_eq, ← usesReference_perm c k.shape perm, ← receiverOf_perm perm]
  split
  · exact .error _
  split
  · exact .error _
  generalize argumentSlots ss = x at slots ⊢
  generalize argumentSlots ss' = x' at slots ⊢
  cases slots with
  | error m => exact .error _
  | ok slots =>
    dsimp only
    split
    · exact .error _
    · generalize unify (ss.map (·.output)) = u at returns ⊢
      generalize unify (ss'.map (·.output)) = u' at returns ⊢
      cases returns with
      | unit => exact .ok ⟨rfl, slots, rfl, .unit⟩
      | common same => exact .ok ⟨rfl, slots, rfl, .common same⟩
      | distinct same => exact .ok ⟨rfl, slots, rfl, .distinct same⟩
      | incompatible m => exact .error _

end SharedMembers
