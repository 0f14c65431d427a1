import SharedMembers.Member.Collect
import SharedMembers.Proofs.PlacelessRuns

/-!
# Items without places

What the items of a module contribute to its catalogue, and the wrappers that they declare, do not
depend on where anything was written.

Results:
* `FnHead.signature?_unplaced`, `Method.entry?_unplaced`: the member that a method contributes.
* `Field.entries_unplaced`: the members that a field contributes.
* `ofEnum_unplaced`: the wrapper that an enum declares.
-/

namespace SharedMembers

/-! ## Taking places out -/

/-- What the directives on a member say, without places. -/
def MemberArguments.unplaced (a : MemberArguments) : MemberArguments :=
  ⟨a.skip, a.rename.map Ident.unplaced, a.setter.map Ident.unplaced⟩

/-- What the directives on a wrapper say, without places. -/
def WrapperArguments.unplaced (a : WrapperArguments) : WrapperArguments :=
  ⟨a.nestedDerive.map Path.unplaced⟩

/-- The generic parameters without places. -/
def Generics.unplaced (g : Generics) : Generics :=
  ⟨none, g.parameters.map (Prod.map id (List.map Fragment.unplaced)), g.trailing,
    g.conditions.map (List.map Fragment.unplaced)⟩

/-- The field without places. -/
def Field.unplaced (f : Field) : Field :=
  ⟨f.attributes.map Attribute.unplaced, f.visibility.unplaced, f.name.map Ident.unplaced,
    f.type.unplaced⟩

/-- The fields without places. -/
def Fields.unplaced : Fields → Fields
  | .unit => .unit
  | .named _ fields trailing => .named none (fields.map Field.unplaced) trailing
  | .positional _ fields trailing => .positional none (fields.map Field.unplaced) trailing

/-- The struct without places. -/
def StructItem.unplaced (s : StructItem) : StructItem :=
  ⟨s.attributes.map Attribute.unplaced, s.visibility.unplaced, none, s.ident.unplaced,
    s.generics.unplaced, s.fields.unplaced⟩

/-- The variant without places. -/
def Variant.unplaced (v : Variant) : Variant :=
  ⟨v.attributes.map Attribute.unplaced, v.ident.unplaced, v.fields.unplaced,
    v.discriminant.map (List.map Fragment.unplaced)⟩

/-- The enum without places. -/
def EnumItem.unplaced (e : EnumItem) : EnumItem :=
  ⟨e.attributes.map Attribute.unplaced, e.visibility.unplaced, none, e.ident.unplaced,
    e.generics.unplaced, e.variants.map Variant.unplaced, e.trailing⟩

/-- The pattern without places. -/
def Pattern.unplaced (p : Pattern) : Pattern :=
  ⟨p.binding.map Ident.unplaced, p.code.map Fragment.unplaced⟩

/-- The input without places. -/
def SelfInput.unplaced (i : SelfInput) : SelfInput :=
  ⟨i.attributes.map Attribute.unplaced,
    i.reference.map fun (_, lifetime) => (none, lifetime.map Ident.unplaced), i.mutable, none,
    i.type.map Ty.unplaced⟩

/-- The input without places. -/
def FnInput.unplaced : FnInput → FnInput
  | .self i => .self i.unplaced
  | .typed attributes pattern type =>
    .typed (attributes.map Attribute.unplaced) pattern.unplaced type.unplaced

/-- The head of a function without places. -/
def FnHead.unplaced (h : FnHead) : FnHead where
  constant := h.constant.map fun _ => none
  asynchronous := h.asynchronous.map fun _ => none
  unchecked := h.unchecked.map fun _ => none
  foreign := h.foreign.map (List.map Fragment.unplaced)
  keyword := none
  ident := h.ident.unplaced
  generics := h.generics.unplaced
  inputs := h.inputs.map FnInput.unplaced
  trailing := h.trailing
  variadic := h.variadic.map (List.map Fragment.unplaced)
  output := h.output.map Ty.unplaced

/-- The method without places. -/
def Method.unplaced (m : Method) : Method :=
  ⟨m.attributes.map Attribute.unplaced, m.visibility.unplaced, m.default.map fun _ => none,
    m.head.unplaced, m.body.map Fragment.unplaced⟩

/-- The trait without places. -/
def ImplTrait.unplaced (t : ImplTrait) : ImplTrait :=
  ⟨t.negative, t.path.unplaced⟩

/-- The member without places. -/
def ImplMember.unplaced : ImplMember → ImplMember
  | .method m => .method m.unplaced
  | .other code => .other (code.map Fragment.unplaced)

/-- The implementation without places. -/
def ImplItem.unplaced (i : ImplItem) : ImplItem :=
  ⟨i.attributes.map Attribute.unplaced, i.qualifiers.map Fragment.unplaced, none,
    i.generics.unplaced, i.trait.map ImplTrait.unplaced, i.self.unplaced,
    i.members.map ImplMember.unplaced⟩

@[simp] theorem Visibility.isShared_unplaced (v : Visibility) :
    v.unplaced.isShared = v.isShared := by
  cases v <;> simp [unplaced, isShared]

@[simp] theorem Generics.isEmpty_unplaced (g : Generics) :
    g.unplaced.parameters.isEmpty = g.parameters.isEmpty := by
  simp [unplaced]

@[simp] theorem Attribute.isNamed_unplaced (a : Attribute) (name : String) :
    a.unplaced.isNamed name = a.isNamed name :=
  a.path.isIdent_unplaced name

/-! ## Tables -/

namespace Table

@[simp] theorem put_unplaced (k : Key) (s : Signature) (t : Table) :
    (t.put k s).unplaced = t.unplaced.put k s.unplaced := by
  induction t with
  | nil => rfl
  | cons e t ih =>
    obtain ⟨k', s'⟩ := e
    have cons : unplaced ((k', s') :: t) = (k', s'.unplaced) :: unplaced t := rfl
    rw [cons, put, put, ← ih]
    split
    · rfl
    · split <;> rfl

@[simp] theorem putNew_unplaced (k : Key) (s : Signature) (t : Table) :
    unplaced (t.putNew k s) = t.unplaced.putNew k s.unplaced := by
  rw [putNew, putNew, get?_unplaced]
  cases t.get? k with
  | none => exact put_unplaced k s t
  | some _ => rfl

theorem addNew_unplaced (entries t : Table) :
    (addNew entries t).unplaced = addNew entries.unplaced t.unplaced := by
  induction entries generalizing t with
  | nil => rfl
  | cons e entries ih =>
    have step := ih (t.putNew e.1 e.2)
    rw [putNew_unplaced] at step
    exact step

theorem addAll_unplaced (entries t : Table) :
    (addAll entries t).unplaced = addAll entries.unplaced t.unplaced := by
  induction entries generalizing t with
  | nil => rfl
  | cons e entries ih =>
    have step := ih (t.put e.1 e.2)
    rw [put_unplaced] at step
    exact step

end Table

/-! ## Fields and methods -/

theorem Field.entries_unplaced (self : Ident) (args : MemberArguments) (f : Field) :
    f.unplaced.entries self.unplaced args.unplaced = Table.unplaced (f.entries self args) := by
  obtain ⟨attributes, visibility, name, type⟩ := f
  cases name with
  | none => rfl
  | some ident =>
    have exposed : (args.unplaced.rename.getD ident.unplaced).name =
        (args.rename.getD ident).name := by
      rw [MemberArguments.unplaced]
      cases args.rename <;> rfl
    have skip : args.unplaced.skip = args.skip := rfl
    simp only [entries, unplaced, Option.map_some, exposed, skip, Visibility.isShared_unplaced,
      Ty.withSelf_unplaced]
    split <;> rfl

@[simp] theorem SelfInput.receiver?_unplaced (i : SelfInput) :
    i.unplaced.receiver? = i.receiver? := by
  obtain ⟨attributes, reference, mutable, origin, type⟩ := i
  match type, reference with
  | some _, _ | none, none | none, some (_, none) | none, some (_, some _) => rfl

namespace FnHead

@[simp] theorem receiver?_unplaced (h : FnHead) : h.unplaced.receiver? = h.receiver? := by
  have inputs : h.unplaced.inputs = h.inputs.map FnInput.unplaced := rfl
  rw [receiver?, inputs, receiver?]
  match h.inputs with
  | [] => rfl
  | .self i :: _ => exact i.receiver?_unplaced
  | .typed .. :: _ => rfl

@[simp] theorem isOrdinary_unplaced (h : FnHead) : h.unplaced.isOrdinary = h.isOrdinary := by
  simp [isOrdinary, unplaced, Generics.unplaced]

theorem argumentName_unplaced (n : Nat) (p : Pattern) :
    argumentName n p.unplaced = (argumentName n p).unplaced := by
  obtain ⟨binding, code⟩ := p
  cases binding with
  | none => rfl
  | some i =>
    have name : i.unplaced.name = i.name := rfl
    by_cases self : i.name = "self" <;> simp [argumentName, Pattern.unplaced, self]

theorem arguments?_unplaced (self : Ident) (n : Nat) (inputs : List FnInput) :
    arguments? self.unplaced n (inputs.map FnInput.unplaced) =
      (arguments? self n inputs).map (List.map (Prod.map Ident.unplaced Ty.unplaced)) := by
  induction inputs generalizing n with
  | nil => rfl
  | cons input inputs ih =>
    cases input with
    | self i => rfl
    | typed attributes pattern type =>
      simp only [List.map_cons, FnInput.unplaced, arguments?, Ty.mentionsImplTrait_unplaced, ih,
        argumentName_unplaced, Ty.withSelf_unplaced]
      split
      · rfl
      · cases arguments? self (n + 1) inputs <;> rfl

theorem output?_unplaced (self : Ident) (h : FnHead) :
    h.unplaced.output? self.unplaced = (h.output? self).map (Option.map Ty.unplaced) := by
  have output : h.unplaced.output = h.output.map Ty.unplaced := rfl
  rw [output?, output, output?]
  cases h.output with
  | none => rfl
  | some t =>
    simp only [Option.map_some, Ty.isUnit_unplaced, Ty.mentionsImplTrait_unplaced,
      Ty.withSelf_unplaced]
    split
    · rfl
    · split <;> rfl

theorem signature?_unplaced (self : Ident) (h : FnHead) :
    h.unplaced.signature? self.unplaced = (h.signature? self).map Signature.unplaced := by
  have tail : h.unplaced.inputs.tail = h.inputs.tail.map FnInput.unplaced :=
    List.map_tail.symm
  rw [signature?, isOrdinary_unplaced, receiver?_unplaced, tail, arguments?_unplaced,
    output?_unplaced, signature?]
  split
  · cases h.receiver? with
    | none => rfl
    | some receiver =>
      cases arguments? self 0 h.inputs.tail with
      | none => rfl
      | some args =>
        cases h.output? self with
        | none => rfl
        | some output => simp [Signature.unplaced, Target.unplaced, unplaced, Function.comp_def]
  · rfl

end FnHead

theorem Method.entry?_unplaced {self : Ident} {args : MemberArguments} {m : Method}
    {entry : Option (Key × Signature)} (h : m.entry? self args = .ok entry) :
    m.unplaced.entry? self.unplaced args.unplaced =
      .ok (entry.map (Prod.map id Signature.unplaced)) := by
  have skipped : args.unplaced.skip = args.skip := rfl
  have shared : m.unplaced.visibility.isShared = m.visibility.isShared :=
    m.visibility.isShared_unplaced
  have head : m.unplaced.head = m.head.unplaced := rfl
  rw [Method.entry?] at h ⊢
  rw [skipped, shared, head, FnHead.signature?_unplaced]
  split at h
  · next left =>
    cases h
    rw [if_pos left]
    rfl
  next entering =>
  rw [if_neg entering]
  cases signature : m.head.signature? self with
  | none =>
    rw [signature] at h
    cases h
    rfl
  | some s =>
    rw [signature] at h
    have inputs : s.unplaced.inputs.length = s.inputs.length := List.length_map _
    obtain ⟨skip, rename, setter⟩ := args
    dsimp only [Option.map_some, MemberArguments.unplaced] at h ⊢
    rw [inputs]
    cases setter with
    | some setter =>
      dsimp only [Option.map_some] at h ⊢
      split at h
      · next one =>
        cases h
        rw [if_pos one, Ident.name_unplaced]
        split <;> rfl
      · cases h
    | none =>
      have name : ((rename.map Ident.unplaced).getD m.head.unplaced.ident).name =
          (rename.getD m.head.ident).name := by
        cases rename <;> rfl
      cases h
      simp only [Option.map_none, name]
      split <;> rfl

/-! ## Implementations -/

@[simp] theorem Path.last?_unplaced (p : Path) :
    p.unplaced.last? = p.last?.map Segment.unplaced := by
  have segments : p.unplaced.segments = p.segments.map Segment.unplaced := by
    cases p <;> simp [unplaced, Path.segments]
  rw [last?, segments, List.getLast?_map, last?]

namespace ImplItem

theorem ownType?_unplaced (i : ImplItem) :
    i.unplaced.ownType? = i.ownType?.map Ident.unplaced := by
  obtain ⟨attributes, qualifiers, keyword, generics, trait, self, members⟩ := i
  cases trait with
  | some t => rfl
  | none =>
    cases self with
    | path p =>
      simp only [ownType?, unplaced, Option.map_none, Ty.unplaced, Generics.isEmpty_unplaced,
        Path.ident?_unplaced]
      split <;> rfl
    | _ => rfl

theorem clonedType?_unplaced (i : ImplItem) :
    i.unplaced.clonedType? = i.clonedType?.map Ident.unplaced := by
  obtain ⟨attributes, qualifiers, keyword, generics, trait, self, members⟩ := i
  cases trait with
  | none => rfl
  | some t =>
    cases self with
    | path p =>
      have named : t.path.unplaced.last?.any (·.ident.name == "Clone") =
          t.path.last?.any (·.ident.name == "Clone") := by
        rw [Path.last?_unplaced]
        cases t.path.last? <;> simp
      simp only [clonedType?, unplaced, Option.map_some, Ty.unplaced, ImplTrait.unplaced, named,
        Path.ident?_unplaced]
      split <;> rfl
    | _ => rfl

end ImplItem

/-! ## Catalogues -/

namespace Catalogue

@[simp] theorem define_unplaced (c : Catalogue) (d : Descriptor) :
    (c.define d).unplaced = c.unplaced.define d.unplaced := rfl

@[simp] theorem noteClone_unplaced (c : Catalogue) (name : String) :
    (c.noteClone name).unplaced = c.unplaced.noteClone name := rfl

theorem revise_addAll_unplaced (c : Catalogue) (name : String) (entries : Table) :
    (c.revise name (Table.addAll entries)).unplaced =
      c.unplaced.revise name (Table.addAll entries.unplaced) := by
  simp only [revise, unplaced, List.map_map]
  congr 1
  refine List.map_congr_left fun entry _ => ?_
  simp only [Function.comp_apply, Prod.map_apply, Prod.map_fst, id]
  split
  · simp [Descriptor.unplaced, Table.addAll_unplaced]
  · rfl

end Catalogue

/-! ## Wrappers -/

theorem variantOf_unplaced {v : Variant} {i : Ident} {t : Ty}
    (h : Wrapper.variantOf v = .ok (i, t)) :
    Wrapper.variantOf v.unplaced = .ok (i.unplaced, t.unplaced) := by
  obtain ⟨attributes, ident, fields, discriminant⟩ := v
  match discriminant, attributes, fields with
  | some _, _, _ => cases h
  | none, _ :: _, _ => cases h
  | none, [], .unit =>
    cases h
    rfl
  | none, [], .positional _ [f] _ =>
    cases h
    have type : f.unplaced.type.normal = f.type.normal.unplaced := f.type.normal_unplaced
    rw [← type]
    rfl
  | none, [], .positional _ [] _ | none, [], .positional _ (_ :: _ :: _) _
  | none, [], .named .. => cases h

theorem ofEnum_unplaced {e : EnumItem} {args : WrapperArguments} {w : Wrapper}
    (h : Wrapper.ofEnum e args = .ok w) :
    Wrapper.ofEnum e.unplaced args.unplaced = .ok w.unplaced := by
  have generics :
      (!e.unplaced.generics.parameters.isEmpty || e.unplaced.generics.conditions.isSome) =
        (!e.generics.parameters.isEmpty || e.generics.conditions.isSome) := by
    simp [EnumItem.unplaced, Generics.unplaced]
  have empty : e.unplaced.variants.isEmpty = e.variants.isEmpty := List.isEmpty_map
  unfold Wrapper.ofEnum at h ⊢
  split at h
  · cases h
  next plain =>
  split at h
  · cases h
  next nonempty =>
  rw [generics, if_neg plain, empty, if_neg nonempty]
  obtain ⟨variants, read, eq⟩ := map_eq_ok_iff.1 h
  cases eq
  refine map_eq_ok_iff.2 ⟨variants.map (Prod.map Ident.unplaced Ty.unplaced), ?_, rfl⟩
  refine mapM_eq_ok_iff.2 (List.forall₂_map_left_iff.2 (List.forall₂_map_right_iff.2 ?_))
  exact (mapM_eq_ok_iff.1 read).imp fun _ _ h => variantOf_unplaced h

end SharedMembers
