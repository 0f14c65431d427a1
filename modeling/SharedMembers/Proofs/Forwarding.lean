import SharedMembers.Proofs.Signatures
import SharedMembers.Proofs.Unification
import SharedMembers.Wrapper.Registry

/-!
# How members are forwarded

What one step of forwarding can do to a wrapper's accessors and to the registry, and what all steps
together do. An accessor that was made has a plan, the signatures that the plan is for, and the
registry in which its output was looked up.

Results:
* `resolveAll_eq_some_iff_provides`: a member resolves iff every subtype provides it.
* `slotFor_eq_ok_iff`: what a wrapper's method takes in one place.
* `readByReference_eq_ok_cases`: which fields are cloned, and which are read by reference.
* `plan_eq_ok_iff`: when a plan is made, and which.
* `Plan.For.reads`: what is read by reference are fields of types with one key.
* `outputFor_gives`, `step_cases`: everything that one step can do.
* `Registry.Gives.of_common`, `Registry.Gives.of_distinct`: the output, by what the subtypes return.
* `forward_induction`: what every step keeps is kept by all of them.
* `made_of_forward`: where an accessor comes from.
* `mem_used_of_forward`: a member that can be planned has its name used in the end.
* `Accessor.Made.names`, `named_of_forward`: an accessor returns a wrapper that the registry holds,
  and every new wrapper is returned by an accessor.
-/

namespace SharedMembers

/-! ## Members of all subtypes -/

/-- The type provides the member by the signature. -/
def Catalogue.Provides (c : Catalogue) (k : Key) (t : Ty) (s : Signature) : Prop :=
  ∃ table, c.table? t = some table ∧ table.get? k = some s

theorem Catalogue.provides_iff {c : Catalogue} {k : Key} {t : Ty} {s : Signature} :
    c.Provides k t s ↔ (c.table? t).bind (·.get? k) = some s :=
  Option.bind_eq_some_iff.symm

theorem Catalogue.Provides.unique {c : Catalogue} {k : Key} {t : Ty} {s s' : Signature}
    (h : c.Provides k t s) (h' : c.Provides k t s') : s = s' := by
  rw [Catalogue.provides_iff] at h h'
  exact Option.some.inj (h.symm.trans h')

/-- A member that is provided stands in the catalogue. -/
theorem Catalogue.Provides.mem {c : Catalogue} {k : Key} {t : Ty} {s : Signature}
    (h : c.Provides k t s) : ∃ e ∈ c.types, (k, s) ∈ e.2.table := by
  obtain ⟨table, found, entry⟩ := h
  obtain ⟨d, hd, rfl⟩ := Option.map_eq_some_iff.1 found
  obtain ⟨e, he, rfl⟩ := Option.map_eq_some_iff.1 hd
  exact ⟨e, List.mem_of_find?_eq_some he, Table.mem_of_get?_eq_some entry⟩

/-- The subtypes provide a member by one list of signatures only. -/
theorem provided_unique {c : Catalogue} {k : Key} {types : List Ty} {ss ss' : List Signature}
    (h : List.Forall₂ (c.Provides k) types ss) (h' : List.Forall₂ (c.Provides k) types ss') :
    ss = ss' := by
  induction h generalizing ss' with
  | nil => exact (List.forall₂_nil_left_iff.1 h').symm
  | cons first _ ih =>
    obtain ⟨s', ss', first', rest', rfl⟩ := List.forall₂_cons_left_iff.1 h'
    rw [first.unique first', ih rest']

/-- The signatures fit the key under which they were found. -/
theorem fits_of_provided {c : Catalogue} (fits : c.Fits) {k : Key} {types : List Ty}
    {ss : List Signature} (provided : List.Forall₂ (c.Provides k) types ss) :
    ∀ s ∈ ss, s.Fits k := by
  intro s hs
  obtain ⟨t, -, (provides : c.Provides k t s)⟩ := exists_mem_zip provided.flip hs
  obtain ⟨e, he, entry⟩ := provides.mem
  exact fits e he _ entry

/-- A member resolves iff every subtype provides it. -/
theorem resolveAll_eq_some_iff_provides {c : Catalogue} {k : Key} {types : List Ty}
    {ss : List Signature} :
    resolveAll (types.map c.table?) k = some ss ↔ List.Forall₂ (c.Provides k) types ss := by
  rw [resolveAll, mapM_eq_some_iff, List.forall₂_map_left_iff]
  constructor <;> intro h <;> refine h.imp fun t s h => ?_
  · exact Catalogue.provides_iff.2 h
  · exact Catalogue.provides_iff.1 h

/-- The members that some subtype of the wrapper has. -/
def Catalogue.keysOf (c : Catalogue) (w : Wrapper) : List Key :=
  unionKeys ((w.types.map c.table?).filterMap id)

theorem Catalogue.Provides.mem_keysOf {c : Catalogue} {k : Key} {t : Ty} {s : Signature}
    {w : Wrapper} (h : c.Provides k t s) (ht : t ∈ w.types) : k ∈ c.keysOf w := by
  obtain ⟨table, found, entry⟩ := h
  rw [Catalogue.keysOf, mem_unionKeys]
  refine ⟨table, ?_, List.mem_map_of_mem (Table.mem_of_get?_eq_some entry)⟩
  rw [List.mem_filterMap]
  exact ⟨some table, List.mem_map.2 ⟨t, ht, found⟩, rfl⟩

/-- A member that some subtype of a wrapper has is provided by it. -/
theorem exists_provides_of_mem_keysOf {c : Catalogue} {w : Wrapper} {k : Key}
    (h : k ∈ c.keysOf w) : ∃ t s, c.Provides k t s := by
  rw [Catalogue.keysOf, mem_unionKeys] at h
  obtain ⟨table, htable, hk⟩ := h
  obtain ⟨found, hfound, rfl⟩ := List.mem_filterMap.1 htable
  obtain ⟨t, -, eq⟩ := List.mem_map.1 hfound
  obtain ⟨s, entry⟩ := Table.exists_get?_of_mem_keys hk
  exact ⟨t, s, table, eq, entry⟩

/-! ## Arguments -/

/-- A place is free for anything that converts if no subtype borrows there; or all declare the same
borrowed type. -/
theorem slotFor_eq_ok_iff {n : Nat} {ts : List Ty} {slot : Slot} :
    slotFor n ts = .ok slot ↔
      ts.any Ty.borrows = false ∧ slot = .convertible (.generated (parameterName n)) ts ∨
        ∃ t, ts = [t] ∧ t.borrows = true ∧ slot = .exact t := by
  unfold slotFor
  cases borrows : ts.any Ty.borrows with
  | false =>
    rw [if_neg (by simp)]
    constructor
    · intro h
      cases h
      exact .inl ⟨rfl, rfl⟩
    · rintro (⟨-, rfl⟩ | ⟨t, rfl, borrowed, -⟩)
      · rfl
      · simp [borrowed] at borrows
  | true =>
    rw [if_pos rfl]
    constructor
    · intro h
      split at h
      · next t =>
        cases h
        exact .inr ⟨t, rfl, by simpa using borrows, rfl⟩
      · cases h
    · rintro (⟨unborrowed, -⟩ | ⟨t, rfl, -, rfl⟩)
      · cases unborrowed
      · rfl

/-! ## Fields -/

theorem fieldTypes_append (ss ss' : List Signature) :
    fieldTypes (ss ++ ss') = fieldTypes ss ++ fieldTypes ss' := by
  rw [fieldTypes, List.filter_append, List.filterMap_append]
  rfl

theorem length_fieldTypes_le (ss : List Signature) : (fieldTypes ss).length ≤ ss.length :=
  Nat.le_trans (List.length_filterMap_le _ _) (List.length_filter_le _ _)

theorem mem_fieldTypes {ss : List Signature} {s : Signature} {t : Ty} (hs : s ∈ ss)
    (field : s.target.isField = true) (output : s.output = some t) : t ∈ fieldTypes ss :=
  List.mem_filterMap.2 ⟨s, List.mem_filter.2 ⟨hs, field⟩, output⟩

/-- There are as many types of fields as members only if all members are fields that give a type. -/
theorem outputs_of_length_fieldTypes {ss : List Signature}
    (same : (fieldTypes ss).length = ss.length) :
    (∀ s ∈ ss, s.target.isField = true) ∧ ss.map (·.output) = (fieldTypes ss).map some := by
  induction ss with
  | nil => simp [fieldTypes]
  | cons s ss ih =>
    have le := length_fieldTypes_le ss
    have head : fieldTypes (s :: ss) = fieldTypes [s] ++ fieldTypes ss := fieldTypes_append [s] ss
    rw [head, List.length_append, List.length_cons] at same
    cases field : s.target.isField with
    | false =>
      have nil : fieldTypes [s] = [] := by simp [fieldTypes, field]
      rw [nil, List.length_nil] at same
      omega
    | true =>
      cases output : s.output with
      | none =>
        have nil : fieldTypes [s] = [] := by simp [fieldTypes, field, output]
        rw [nil, List.length_nil] at same
        omega
      | some t =>
        have one : fieldTypes [s] = [t] := by simp [fieldTypes, field, output]
        rw [one, List.length_singleton] at same
        obtain ⟨fields, outputs⟩ := ih (by omega)
        rw [head, one]
        exact ⟨List.forall_mem_cons.2 ⟨field, fields⟩, by simp [output, outputs]⟩

/-- Either all fields among the members can be cloned, or all members are fields of types with one
key. -/
theorem readByReference_eq_ok_cases {c : Catalogue} {ss : List Signature} {b : Bool}
    (h : readByReference c ss = .ok b) :
    b = false ∧ (∀ t ∈ fieldTypes ss, c.isClone t = true) ∨
      b = true ∧ (∀ s ∈ ss, s.target.isField = true) ∧
        ∃ ts t, ss.map (·.output) = ts.map some ∧ distinct ts = [t] := by
  unfold readByReference at h
  dsimp only at h
  split at h
  · next cloneable =>
    cases h
    exact .inl ⟨rfl, List.all_eq_true.1 cloneable⟩
  · split at h
    · next same =>
      cases h
      rw [Bool.and_eq_true, decide_eq_true_eq, decide_eq_true_eq] at same
      obtain ⟨fields, outputs⟩ := outputs_of_length_fieldTypes same.1
      obtain ⟨t, one⟩ := List.length_eq_one_iff.1 same.2
      exact .inr ⟨rfl, fields, fieldTypes ss, t, outputs, one⟩
    · cases h

/-! ## Plans -/

/-- The plan for the signatures of a member. -/
structure Plan.For (c : Catalogue) (k : Key) (ss : List Signature) (p : Plan) : Prop where
  unreserved : k.accessorName ∉ reservedNames
  slots : argumentSlots ss = .ok p.slots
  byReference : usesReference c k.shape ss = .ok p.byReference
  returns : unify (ss.map (·.output)) = p.returns
  compatible : ∀ m, p.returns ≠ .incompatible m
  receiver : p.receiver = receiverOf ss
  names : p.names = argumentNames ss

/-- The obstacles in the order in which they are looked for. -/
theorem plan_eq (c : Catalogue) (used : List String) (k : Key) (ss : List Signature) :
    plan c used k ss =
      if k.accessorName ∈ reservedNames then .error .reserved
      else if k.accessorName ∈ used then .error .used
      else match argumentSlots ss with
        | .error m => .error (.mismatch m)
        | .ok slots => match usesReference c k.shape ss with
          | .error o => .error o
          | .ok byReference => match unify (ss.map (·.output)) with
            | .incompatible m => .error (.mismatch m)
            | returns =>
              .ok ⟨receiverOf ss, argumentNames ss, slots, byReference, returns⟩ := by
  unfold plan
  simp only [List.contains_iff_mem]
  split
  · rfl
  split
  · rfl
  cases argumentSlots ss with
  | error m => rfl
  | ok slots =>
    cases usesReference c k.shape ss with
    | error o => rfl
    | ok byReference =>
      cases unify (ss.map (·.output)) <;> rfl

/-- A plan is made iff the name is not used yet and the member can be forwarded; then it is the
plan for the signatures. -/
theorem plan_eq_ok_iff {c : Catalogue} {used : List String} {k : Key} {ss : List Signature}
    {p : Plan} :
    plan c used k ss = .ok p ↔ k.accessorName ∉ used ∧ p.For c k ss := by
  rw [plan_eq]
  constructor
  · intro h
    split at h
    · cases h
    next unreserved =>
    split at h
    · cases h
    next fresh =>
    split at h
    · cases h
    next slots hslots =>
    split at h
    · cases h
    next byReference hbyReference =>
    split at h
    · cases h
    next returns compatible =>
    cases h
    exact ⟨fresh, unreserved, hslots, hbyReference, rfl, compatible, rfl, rfl⟩
  · rintro ⟨fresh, h⟩
    rw [if_neg h.unreserved, if_neg fresh, h.slots, h.byReference, h.returns]
    dsimp only
    split
    · next m eq => exact absurd eq (h.compatible m)
    · obtain ⟨receiver, names, slots, byReference, returns⟩ := p
      obtain rfl : receiver = _ := h.receiver
      obtain rfl : names = _ := h.names
      rfl

/-- A plan to read by reference is for fields of types with one key, one of which it returns. -/
theorem Plan.For.reads {c : Catalogue} {k : Key} {ss : List Signature} {p : Plan}
    (plan : p.For c k ss) (nonempty : ss ≠ []) (byReference : p.byReference = true) :
    k.shape = .read ∧ ∃ t, p.returns = .common t ∧ (∃ s ∈ ss, s.output = some t) ∧
      ∀ s ∈ ss, s.target.isField = true ∧ ∃ u, s.output = some u ∧ u.key = t.key := by
  have uses := plan.byReference
  rw [byReference] at uses
  cases shape : k.shape with
  | read =>
    rw [shape] at uses
    rcases readByReference_eq_ok_cases uses with ⟨⟨⟩, -⟩ | ⟨-, fields, ts, t, outputs, one⟩
    have returned : ts ≠ [] := by
      rintro rfl
      exact nonempty (List.map_eq_nil_iff.1 outputs)
    refine ⟨rfl, t, ?_, ?_, fun s hs => ⟨fields s hs, ?_⟩⟩
    · rw [← plan.returns, outputs, unify_map_some returned, one]
      rfl
    · have ht : t ∈ ts := mem_distinct (one ▸ List.mem_cons_self)
      have : some t ∈ ss.map (·.output) := outputs ▸ List.mem_map_of_mem ht
      obtain ⟨s, hs, eq⟩ := List.mem_map.1 this
      exact ⟨s, hs, eq⟩
    · have : s.output ∈ ts.map some := outputs ▸ List.mem_map_of_mem hs
      obtain ⟨u, hu, eq⟩ := List.mem_map.1 this
      exact ⟨u, eq.symm, (key_eq_of_distinct_singleton one hu).symm⟩
  | write =>
    rw [shape] at uses
    cases uses
  | call n =>
    rw [shape] at uses
    cases uses

/-! ## Outputs -/

/-- What a plan's accessor returns, and the registry that holds the wrapper it may need. -/
inductive Registry.Gives (r : Registry) (parent : Wrapper) (k : Key) (p : Plan) :
    Registry → Option Ty → Prop where
  | nothing (unit : p.returns = .unit) : Gives r parent k p r none
  | value (t : Ty) (common : p.returns = .common t) (byValue : p.byReference = false) :
      Gives r parent k p r (some t)
  | reference (t : Ty) (common : p.returns = .common t) (byReference : p.byReference = true) :
      Gives r parent k p r (some (.reference none none false t))
  | existing (types : List Ty) (w : Wrapper) (distinct : p.returns = .distinct types)
      (found : r.find? (setKeyOf types) = some w) :
      Gives r parent k p r (some (.ofIdent w.ident))
  | nested (types : List Ty) (w : Wrapper) (distinct : p.returns = .distinct types)
      (missing : r.find? (setKeyOf types) = none)
      (made : r.nestedWrapper parent k.name types = .ok w) :
      Gives r parent k p (r.add w) (some (.ofIdent w.ident))

theorem referenceTo_eq_ok {t u : Ty} (h : referenceTo t = .ok u) :
    u = .reference none none false t := by
  rw [referenceTo] at h
  split at h
  · cases h
  · cases h
    rfl

theorem outputFor_gives {r r' : Registry} {parent : Wrapper} {k : Key} {p : Plan}
    {output : Option Ty} (compatible : ∀ m, p.returns ≠ .incompatible m)
    (h : r.outputFor parent k p = .ok (r', output)) : r.Gives parent k p r' output := by
  rw [Registry.outputFor] at h
  split at h
  · next unit =>
    cases h
    exact .nothing unit
  · next m incompatible => exact absurd incompatible (compatible m)
  · next t common =>
    obtain ⟨u, hu, h⟩ := map_eq_ok_iff.1 h
    cases h
    split at hu
    · next byReference =>
      rw [referenceTo_eq_ok hu]
      exact .reference t common byReference
    · next byValue =>
      cases hu
      exact .value t common (Bool.not_eq_true _ ▸ byValue)
  · next types distinct =>
    obtain ⟨⟨r₁, ident⟩, hw, h⟩ := map_eq_ok_iff.1 h
    cases h
    rw [Registry.wrapperFor] at hw
    split at hw
    · next w found =>
      cases hw
      exact .existing types w distinct found
    · next missing =>
      obtain ⟨w, made, hw⟩ := map_eq_ok_iff.1 hw
      cases hw
      exact .nested types w distinct missing made

/-- Wrappers are only added, behind the others. -/
theorem Registry.Gives.wrappers_prefix {r r' : Registry} {parent : Wrapper} {k : Key} {p : Plan}
    {output : Option Ty} (h : r.Gives parent k p r' output) : r.wrappers <+: r'.wrappers := by
  cases h with
  | nested => exact List.prefix_append _ _
  | _ => exact List.prefix_refl _

/-! ## Wrappers that are returned -/

/-- What a nested wrapper is made of: the names that were made are written, one for each type. -/
theorem nestedWrapper_eq_ok {r : Registry} {parent w : Wrapper} {member : String} {types : List Ty}
    (h : r.nestedWrapper parent member types = .ok w) :
    ∃ ident names,
      nameOf (firstFree r.taken (parent.ident.name ++ Text.camel member)) = .ok ident ∧
      (variantNames [] types).mapM nameOf = .ok names ∧ names.length = types.length ∧
      w = ⟨ident, parent.visibility,
        nestedDocumentation parent.ident.name member :: nestedDerivation parent.nestedDerive,
        names.zip types, parent.nestedDerive, some (parent.ident, member)⟩ := by
  rw [Registry.nestedWrapper] at h
  obtain ⟨ident, hident, h⟩ := bind_eq_ok_iff.1 h
  obtain ⟨names, hnames, h⟩ := bind_eq_ok_iff.1 h
  have same := (mapM_eq_ok_iff.1 hnames).length_eq
  rw [length_variantNames] at same
  cases h
  exact ⟨ident, names, hident, hnames, same.symm, rfl⟩

theorem nestedWrapper_types {r : Registry} {parent w : Wrapper} {member : String} {types : List Ty}
    (h : r.nestedWrapper parent member types = .ok w) : w.types = types := by
  obtain ⟨ident, names, -, -, same, rfl⟩ := nestedWrapper_eq_ok h
  exact List.map_snd_zip (Nat.le_of_eq same.symm)

theorem nestedWrapper_setKey {r : Registry} {parent w : Wrapper} {member : String} {types : List Ty}
    (h : r.nestedWrapper parent member types = .ok w) : w.setKey = setKeyOf types := by
  rw [Wrapper.setKey, nestedWrapper_types h]

/-- A nested wrapper belongs to the wrapper and the member that it was made for, and is as visible
as this wrapper. -/
theorem nestedWrapper_owner {r : Registry} {parent w : Wrapper} {member : String}
    {types : List Ty} (h : r.nestedWrapper parent member types = .ok w) :
    w.owner = some (parent.ident, member) ∧ w.visibility = parent.visibility := by
  obtain ⟨ident, names, -, -, -, rfl⟩ := nestedWrapper_eq_ok h
  exact ⟨rfl, rfl⟩

theorem find?_eq_some {r : Registry} {set : List String} {w : Wrapper} (h : r.find? set = some w) :
    w ∈ r.wrappers ∧ w.setKey = set := by
  rw [Registry.find?_eq] at h
  exact ⟨List.mem_of_find?_eq_some h, by simpa using List.find?_some h⟩

theorem find?_eq_none_iff {r : Registry} {set : List String} :
    r.find? set = none ↔ ∀ w ∈ r.wrappers, w.setKey ≠ set := by
  simp [Registry.find?_eq]

/-! ## What an output is, by the unified return type -/

section

variable {r r₁ : Registry} {w : Wrapper} {k : Key} {p : Plan} {output : Option Ty}

theorem Registry.Gives.of_unit (gives : r.Gives w k p r₁ output) (unit : p.returns = .unit) :
    r₁ = r ∧ output = none := by
  cases gives with
  | nothing => exact ⟨rfl, rfl⟩
  | value t common => rw [unit] at common; cases common
  | reference t common => rw [unit] at common; cases common
  | existing types v distinct => rw [unit] at distinct; cases distinct
  | nested types v distinct => rw [unit] at distinct; cases distinct

theorem Registry.Gives.of_common {t : Ty} (gives : r.Gives w k p r₁ output)
    (common : p.returns = .common t) :
    r₁ = r ∧ output = some (if p.byReference then .reference none none false t else t) := by
  cases gives with
  | nothing unit => rw [unit] at common; cases common
  | value u common' byValue =>
    rw [common'] at common
    cases common
    rw [byValue]
    exact ⟨rfl, rfl⟩
  | reference u common' byReference =>
    rw [common'] at common
    cases common
    rw [byReference]
    exact ⟨rfl, rfl⟩
  | existing types v distinct => rw [distinct] at common; cases common
  | nested types v distinct => rw [distinct] at common; cases common

theorem Registry.Gives.of_distinct {types : List Ty} (gives : r.Gives w k p r₁ output)
    (distinct : p.returns = .distinct types) :
    ∃ v : Wrapper, output = some (.ofIdent v.ident) ∧
      (r.find? (setKeyOf types) = some v ∧ r₁ = r ∨
        r.find? (setKeyOf types) = none ∧ r.nestedWrapper w k.name types = .ok v ∧ r₁ = r.add v) := by
  cases gives with
  | nothing unit => rw [unit] at distinct; cases distinct
  | value t common => rw [common] at distinct; cases distinct
  | reference t common => rw [common] at distinct; cases distinct
  | existing types' v distinct' found =>
    rw [distinct'] at distinct
    cases distinct
    exact ⟨v, rfl, .inl ⟨found, rfl⟩⟩
  | nested types' v distinct' missing made =>
    rw [distinct'] at distinct
    cases distinct
    exact ⟨v, rfl, .inr ⟨missing, made, rfl⟩⟩

/-- Where different types are returned, the output is a wrapper over them, which the registry
holds. -/
theorem Registry.Gives.exists_wrapper {types : List Ty} (gives : r.Gives w k p r₁ output)
    (distinct : p.returns = .distinct types) :
    ∃ v ∈ r₁.wrappers, output = some (.ofIdent v.ident) ∧ v.setKey = setKeyOf types := by
  obtain ⟨v, eq, ⟨found, rfl⟩ | ⟨-, made, rfl⟩⟩ := gives.of_distinct distinct
  · obtain ⟨held, set⟩ := find?_eq_some found
    exact ⟨v, held, eq, set⟩
  · exact ⟨v, List.mem_append_right _ List.mem_cons_self, eq, nestedWrapper_setKey made⟩

end

/-! ## One step -/

/-- What forwarding a member does: nothing if some subtype lacks it, a warning if something stands in
the way, or else one more accessor. -/
inductive Forwarding.Step (c : Catalogue) (w : Wrapper) (f : Forwarding) (k : Key) :
    Forwarding → Prop where
  | lacking (unresolved : resolveAll (w.types.map c.table?) k = none) : Step c w f k f
  | refused (ss : List Signature) (provided : List.Forall₂ (c.Provides k) w.types ss)
      (o : Obstacle) (refusal : plan c f.used k ss = .error o) :
      Step c w f k (f.warn w (.notForwarded k.accessorName o))
  | forwarded (ss : List Signature) (provided : List.Forall₂ (c.Provides k) w.types ss)
      (p : Plan) (fresh : k.accessorName ∉ f.used) (plan : p.For c k ss)
      (r : Registry) (output : Option Ty) (gives : f.registry.Gives w k p r output) :
      Step c w f k ⟨r, f.accessors ++ [p.accessor w k ss output], f.warnings⟩

theorem step_cases {c : Catalogue} {w : Wrapper} {f f' : Forwarding} {k : Key}
    (h : f.step c w k = .ok f') : f.Step c w k f' := by
  rw [Forwarding.step] at h
  split at h
  · next unresolved =>
    cases h
    exact .lacking unresolved
  · next ss resolved =>
    have provided := resolveAll_eq_some_iff_provides.1 resolved
    split at h
    · next o refusal =>
      cases h
      exact .refused ss provided o refusal
    · next p planned =>
      obtain ⟨⟨r, output⟩, given, h⟩ := bind_eq_ok_iff.1 h
      obtain ⟨name, -, h⟩ := bind_eq_ok_iff.1 h
      cases h
      obtain ⟨fresh, plan⟩ := plan_eq_ok_iff.1 planned
      exact .forwarded ss provided p fresh plan r output (outputFor_gives plan.compatible given)

theorem Forwarding.Step.accessors_prefix {c : Catalogue} {w : Wrapper} {f f' : Forwarding}
    {k : Key} (h : f.Step c w k f') : f.accessors <+: f'.accessors := by
  cases h with
  | forwarded => exact List.prefix_append _ _
  | _ => exact List.prefix_refl _

theorem Forwarding.Step.used_subset {c : Catalogue} {w : Wrapper} {f f' : Forwarding} {k : Key}
    (h : f.Step c w k f') : f.used ⊆ f'.used :=
  List.map_subset _ h.accessors_prefix.subset

/-- A member that can be planned has its name used after its step, by itself or by another. -/
theorem Forwarding.Step.mem_used {c : Catalogue} {w : Wrapper} {f f' : Forwarding} {k : Key}
    {ss : List Signature} {p : Plan} (h : f.Step c w k f')
    (provided : List.Forall₂ (c.Provides k) w.types ss) (plan : p.For c k ss) :
    k.accessorName ∈ f'.used := by
  cases h with
  | lacking unresolved =>
    rw [resolveAll_eq_some_iff_provides.2 provided] at unresolved
    cases unresolved
  | refused ss' provided' o refusal =>
    obtain rfl := provided_unique provided provided'
    -- A name that is not used leaves nothing that could stand in the way.
    by_contra unused
    have planned : SharedMembers.plan c f.used k ss = .ok p := plan_eq_ok_iff.2 ⟨unused, plan⟩
    rw [planned] at refusal
    cases refusal
  | forwarded =>
    rw [Forwarding.used, List.map_append]
    exact List.mem_append_right _ List.mem_cons_self

/-! ## All steps -/

/-- What every step keeps is kept by all of them. -/
theorem steps_induction {c : Catalogue} {w : Wrapper} {P : Forwarding → Prop} {ks : List Key}
    (keeps : ∀ k ∈ ks, ∀ f f', P f → f.Step c w k f' → P f') {f f' : Forwarding} (start : P f)
    (h : f.steps c w ks = .ok f') : P f' := by
  induction ks generalizing f with
  | nil =>
    cases h
    exact start
  | cons k ks ih =>
    rw [Forwarding.steps] at h
    obtain ⟨f₁, first, h⟩ := bind_eq_ok_iff.1 h
    exact ih (fun j hj => keeps j (List.mem_cons_of_mem _ hj))
      (keeps k List.mem_cons_self f f₁ start (step_cases first)) h

theorem mem_used_of_steps {c : Catalogue} {w : Wrapper} {ks : List Key} {f f' : Forwarding}
    (h : f.steps c w ks = .ok f') {k : Key} (hk : k ∈ ks) {ss : List Signature} {p : Plan}
    (provided : List.Forall₂ (c.Provides k) w.types ss) (plan : p.For c k ss) :
    k.accessorName ∈ f'.used := by
  induction ks generalizing f with
  | nil => simp at hk
  | cons j ks ih =>
    rw [Forwarding.steps] at h
    obtain ⟨f₁, first, rest⟩ := bind_eq_ok_iff.1 h
    rcases List.mem_cons.1 hk with rfl | hk
    · -- The member's own step uses the name, and the later steps only use more.
      have used := (step_cases first).mem_used provided plan
      exact steps_induction (P := fun f => k.accessorName ∈ f.used)
        (fun _ _ f f' used step => step.used_subset used) used rest
    · exact ih rest hk

/-- The state in which a wrapper's forwarding begins. -/
def Forwarding.start (c : Catalogue) (r : Registry) (w : Wrapper) : Forwarding :=
  ⟨r, [],
    if w.owner.isNone && (w.types.map c.table?).any Option.isNone then
      [⟨.undefinedSubtypes w.ident.name, w.ident.origin⟩]
    else []⟩

theorem forward_eq (r : Registry) (c : Catalogue) (w : Wrapper) :
    r.forward c w = (Forwarding.start c r w).steps c w (c.keysOf w) := by
  unfold Registry.forward Forwarding.start
  dsimp only
  split <;> rfl

/-- What every step keeps is kept by forwarding all members of a wrapper. -/
theorem forward_induction {c : Catalogue} {r : Registry} {w : Wrapper} {P : Forwarding → Prop}
    (keeps : ∀ k ∈ c.keysOf w, ∀ f f', P f → f.Step c w k f' → P f') {f : Forwarding}
    (start : P (Forwarding.start c r w)) (h : r.forward c w = .ok f) : P f := by
  rw [forward_eq] at h
  exact steps_induction keeps start h

/-- A member of a wrapper that can be planned has its name used in the end. -/
theorem mem_used_of_forward {c : Catalogue} {r : Registry} {w : Wrapper} {f : Forwarding}
    (h : r.forward c w = .ok f) {k : Key} (hk : k ∈ c.keysOf w) {ss : List Signature} {p : Plan}
    (provided : List.Forall₂ (c.Provides k) w.types ss) (plan : p.For c k ss) :
    k.accessorName ∈ f.used := by
  rw [forward_eq] at h
  exact mem_used_of_steps h hk provided plan

/-! ## Where accessors come from -/

/-- The accessor was made for a wrapper between two states of the registry: by a plan for the
signatures by which the subtypes provide a member, with an output that was found then. -/
inductive Accessor.Made (c : Catalogue) (w : Wrapper) (first last : Registry) : Accessor → Prop where
  | intro {k : Key} {ss : List Signature} {p : Plan} {r r' : Registry} {output : Option Ty}
      (provided : List.Forall₂ (c.Provides k) w.types ss) (plan : p.For c k ss)
      (gives : r.Gives w k p r' output) (later : first.wrappers <+: r.wrappers)
      (held : r'.wrappers <+: last.wrappers) : Made c w first last (p.accessor w k ss output)

theorem Accessor.Made.mono {c : Catalogue} {w : Wrapper} {first last last' : Registry}
    {a : Accessor} (h : a.Made c w first last) (more : last.wrappers <+: last'.wrappers) :
    a.Made c w first last' := by
  obtain ⟨provided, plan, gives, later, held⟩ := h
  exact .intro provided plan gives later (held.trans more)

/-- Forwarding only adds wrappers, and every accessor was made on the way. -/
theorem made_of_forward {c : Catalogue} {r : Registry} {w : Wrapper} {f : Forwarding}
    (h : r.forward c w = .ok f) :
    r.wrappers <+: f.registry.wrappers ∧ ∀ a ∈ f.accessors, a.Made c w r f.registry := by
  refine forward_induction
    (P := fun f => r.wrappers <+: f.registry.wrappers ∧
      ∀ a ∈ f.accessors, a.Made c w r f.registry) ?_ ?_ h
  · rintro k - f f' ⟨later, made⟩ step
    cases step with
    | lacking => exact ⟨later, made⟩
    | refused => exact ⟨later, made⟩
    | forwarded ss provided p fresh plan r' output gives =>
      have more := gives.wrappers_prefix
      refine ⟨later.trans more, fun a ha => ?_⟩
      rcases List.mem_append.1 ha with ha | ha
      · exact (made a ha).mono more
      · obtain rfl := List.mem_singleton.1 ha
        exact .intro provided plan gives later (List.prefix_refl _)
  · exact ⟨List.prefix_refl _, fun a ha => by simp [Forwarding.start] at ha⟩

/-! ## What accessors return -/

/-- The signatures of the member, in the order of the variants. -/
def Accessor.signatures (a : Accessor) : List Signature :=
  a.arms.map (·.2)

/-- What the subtypes return, unified. -/
def Accessor.returns (a : Accessor) : Unified :=
  unify (a.signatures.map (·.output))

/-- The accessor returns the wrapper because the subtypes return exactly the wrapper's types. -/
structure Accessor.Names (a : Accessor) (v : Wrapper) : Prop where
  distinct : ∃ types, a.returns = .distinct types ∧ v.setKey = setKeyOf types
  output : a.output = some (.ofIdent v.ident)

theorem signatures_accessor {c : Catalogue} {k : Key} {w : Wrapper} {ss : List Signature}
    (provided : List.Forall₂ (c.Provides k) w.types ss) (p : Plan) (output : Option Ty) :
    (p.accessor w k ss output).signatures = ss := by
  have same := provided.length_eq
  rw [Wrapper.types, List.length_map] at same
  refine List.map_snd_zip ?_
  rw [List.length_map]
  omega

theorem Plan.For.returns_accessor {c : Catalogue} {k : Key} {w : Wrapper} {ss : List Signature}
    {p : Plan} (plan : p.For c k ss) (provided : List.Forall₂ (c.Provides k) w.types ss)
    (output : Option Ty) : (p.accessor w k ss output).returns = p.returns := by
  rw [Accessor.returns, signatures_accessor provided, plan.returns]

/-- An accessor whose subtypes return different types returns a wrapper over them, which the
registry holds. -/
theorem Accessor.Made.names {c : Catalogue} {w : Wrapper} {first last : Registry} {a : Accessor}
    {types : List Ty} (made : a.Made c w first last) (distinct : a.returns = .distinct types) :
    ∃ v ∈ last.wrappers, a.Names v := by
  obtain ⟨provided, plan, gives, -, held⟩ := made
  have different := distinct
  rw [plan.returns_accessor provided] at different
  obtain ⟨v, hv, output, set⟩ := gives.exists_wrapper different
  exact ⟨v, held.subset hv, ⟨types, distinct, set⟩, output⟩

/-- A wrapper is added for an accessor that returns it. -/
theorem Forwarding.Step.named {c : Catalogue} {w v : Wrapper} {f f' : Forwarding} {k : Key}
    (step : f.Step c w k f') (hv : v ∈ f'.registry.wrappers) :
    v ∈ f.registry.wrappers ∨ ∃ a ∈ f'.accessors, a.Names v := by
  cases step with
  | lacking => exact .inl hv
  | refused => exact .inl hv
  | forwarded ss provided p fresh plan r output gives =>
    cases gives with
    | nested types u different missing made =>
      rcases List.mem_append.1 hv with hv | hv
      · exact .inl hv
      · rw [List.mem_singleton] at hv
        subst hv
        refine .inr ⟨_, List.mem_append_right _ List.mem_cons_self, ⟨types, ?_, ?_⟩, rfl⟩
        · rw [plan.returns_accessor provided, different]
        · exact nestedWrapper_setKey made
    | _ => exact .inl hv

theorem named_of_forward {c : Catalogue} {r : Registry} {w v : Wrapper} {f : Forwarding}
    (h : r.forward c w = .ok f) (hv : v ∈ f.registry.wrappers) :
    v ∈ r.wrappers ∨ ∃ a ∈ f.accessors, a.Names v := by
  refine forward_induction (P := fun f => ∀ v ∈ f.registry.wrappers,
    v ∈ r.wrappers ∨ ∃ a ∈ f.accessors, a.Names v) ?_ (fun v hv => .inl hv) h v hv
  rintro k - f f' old step v hv
  rcases step.named hv with hv | new
  · rcases old v hv with hv | ⟨a, ha, names⟩
    · exact .inl hv
    · exact .inr ⟨a, step.accessors_prefix.subset ha, names⟩
  · exact .inr new

end SharedMembers
