import SharedMembers.Proofs.Contributions

/-!
# Which member stands under a key

Fields are entered into the table of their type before methods. Of two fields of one name the first
counts, of two methods of one key the last, and a method counts more than a field. Here a table is
described by its type's fields and methods, and what stands in it goes by that precedence.

* `MemberArguments.Keys`: the key of a method, by its directives, its name and its arguments.
* `Method.Registers`, `Field.Registers`: what a method and a field provide under a key.
* `Precedence`: what stands under a key.
* `Table.get?_addNew`, `Table.get?_addAll`: what is found after entries are made.
* `Method.contribution?_eq_some_iff`, `Field.mem_contributions_iff`: what is entered is what is
  provided.
* `Descriptor.get?_of`: the table of a type goes by precedence.
-/

namespace SharedMembers

/-! ## What is promised -/

/-- The key of a method of the name with so many arguments. A setter is written. Else the name
counts: without arguments the method is read, and with one argument and `set_` in front of a name it
is written under that name. -/
inductive MemberArguments.Keys (args : MemberArguments) (name : String) : Nat → Key → Prop where
  | setter (i : Ident) (set : args.setter = some i) : Keys args name 1 ⟨i.name, .write⟩
  | read (plain : args.setter = .none) : Keys args name 0 ⟨name, .read⟩
  | write (field : String) (plain : args.setter = .none) (named : name = "set_" ++ field)
      (nonempty : field ≠ "") : Keys args name 1 ⟨field, .write⟩
  | call (n : Nat) (plain : args.setter = .none) (passed : n ≠ 0)
      (other : n = 1 → ∀ field, name = "set_" ++ field → field = "") :
      Keys args name n ⟨name, .call n⟩

/-- The method provides the member with the key for the type `self`. Methods that are left out, that
only their module may use, that have no signature, or whose name is hidden provide none. -/
inductive Method.Registers (self : Ident) (m : Method) (k : Key) (s : Signature) : Prop where
  | intro {args : MemberArguments} {rest : List Attribute}
      (said : MemberArguments.take m.attributes = .ok (args, rest)) (kept : args.skip = false)
      (shared : m.visibility.isShared = true) (signature : m.head.signature? self = some s)
      (key : args.Keys (args.rename.getD m.head.ident).name s.inputs.length k)
      (shown : isHidden k.name = false)

/-- How the field with the name is used as a member of the type `self`: it is read, or written. -/
def Field.signature? (self ident : Ident) (f : Field) : Shape → Option Signature
  | .read => some ⟨.shared, .field ident, [], [], some (f.type.withSelf self)⟩
  | .write =>
    some ⟨.mutable, .field ident, [.generated "value"], [f.type.withSelf self], none⟩
  | .call _ => none

/-- The field provides the member with the key for the type `self`, under its own name or the one it
is given. Fields that are left out, that only their module may use, that have no name, or whose name
is hidden provide none. -/
inductive Field.Registers (self : Ident) (f : Field) (k : Key) (s : Signature) : Prop where
  | intro {args : MemberArguments} {rest : List Attribute} {ident : Ident}
      (said : MemberArguments.take f.attributes = .ok (args, rest)) (kept : args.skip = false)
      (shared : f.visibility.isShared = true) (named : f.name = some ident)
      (name : k.name = (args.rename.getD ident).name) (shown : isHidden k.name = false)
      (signature : f.signature? self ident k.shape = some s)

/-- What stands under the key in the table of the type `self`, if these are its fields and its
methods, each method with the name by which its implementation names the type: the last method that
provides a member with the key, else the first field, else nothing. -/
inductive Precedence (self : Ident) (fields : List Field) (methods : List (Ident × Method))
    (k : Key) : Option Signature → Prop where
  | method {before after : List (Ident × Method)} {own : Ident} {m : Method} {s : Signature}
      (listed : methods = before ++ (own, m) :: after) (registers : m.Registers own k s)
      (last : ∀ x ∈ after, ∀ s', ¬ x.2.Registers x.1 k s') :
      Precedence self fields methods k (some s)
  | field {before after : List Field} {f : Field} {s : Signature}
      (unmethodical : ∀ x ∈ methods, ∀ s', ¬ x.2.Registers x.1 k s')
      (listed : fields = before ++ f :: after) (registers : f.Registers self k s)
      (first : ∀ x ∈ before, ∀ s', ¬ x.Registers self k s') :
      Precedence self fields methods k (some s)
  | absent (unmethodical : ∀ x ∈ methods, ∀ s', ¬ x.2.Registers x.1 k s')
      (unfielded : ∀ f ∈ fields, ∀ s', ¬ f.Registers self k s') :
      Precedence self fields methods k none

/-! ## Tables after entries are made -/

/-- Of the entries under a key the last is found. -/
theorem Table.get?_addAll (entries : List (Key × Signature)) (t : Table) (k : Key) :
    (t.addAll entries).get? k =
      ((entries.reverse.find? (·.1 == k)).map (·.2)).or (t.get? k) := by
  induction entries generalizing t with
  | nil => rfl
  | cons e entries ih =>
    show (Table.addAll entries (t.put e.1 e.2)).get? k = _
    rw [ih, List.reverse_cons, List.find?_append, Table.get?_put]
    cases entries.reverse.find? (·.1 == k) with
    | some found => rfl
    | none =>
      by_cases same : e.1 = k
      · simp [same]
      · simp [same, Ne.symm same]

/-- Of the entries under a key the first is found, unless there was one before. -/
theorem Table.get?_addNew (entries : List (Key × Signature)) (t : Table) (k : Key) :
    (t.addNew entries).get? k = (t.get? k).or ((entries.find? (·.1 == k)).map (·.2)) := by
  induction entries generalizing t with
  | nil => exact (Option.or_none).symm
  | cons e entries ih =>
    show (Table.addNew entries (t.putNew e.1 e.2)).get? k = _
    rw [ih, Table.get?_putNew, List.find?_cons]
    by_cases same : e.1 = k
    · rw [same]
      cases t.get? k <;> simp
    · simp [beq_false_of_ne same, Ne.symm same]

/-! ## What methods and fields contribute -/

/-- What follows `set_` is not empty. -/
theorem behindSet?_eq_some_iff {name field : String} :
    behindSet? name = some field ↔ name = "set_" ++ field ∧ field ≠ "" := by
  constructor
  · intro h
    unfold behindSet? at h
    split at h
    · next c cs letters =>
      cases h
      refine ⟨String.toList_injective ?_, by simp⟩
      simp [letters]
    · cases h
  · rintro ⟨rfl, nonempty⟩
    cases letters : field.toList with
    | nil => exact absurd (String.toList_eq_nil_iff.1 letters) nonempty
    | cons c cs =>
      have : String.ofList (c :: cs) = field := by rw [← letters, String.ofList_toList]
      simp [behindSet?, letters, this]

/-- Without a setter the key is that of a method. -/
theorem MemberArguments.keys_iff {args : MemberArguments} (plain : args.setter = .none)
    {name : String} {n : Nat} {k : Key} : args.Keys name n k ↔ k = Key.ofMethod name n := by
  constructor
  · intro h
    cases h with
    | setter i set => cases plain.symm.trans set
    | read => rfl
    | write _ _ named nonempty =>
      simp [Key.ofMethod, behindSet?_eq_some_iff.2 ⟨named, nonempty⟩]
    | call _ _ passed other =>
      unfold Key.ofMethod
      split
      · exact absurd rfl passed
      · split
        · next field behind =>
          obtain ⟨named, nonempty⟩ := behindSet?_eq_some_iff.1 behind
          exact absurd (other rfl field named) nonempty
        · rfl
      · rfl
  · rintro rfl
    unfold Key.ofMethod
    split
    · exact .read plain
    · split
      · next field behind =>
        obtain ⟨named, nonempty⟩ := behindSet?_eq_some_iff.1 behind
        exact .write field plain named nonempty
      · next bare =>
        refine .call 1 plain (by decide) fun _ field named => ?_
        by_contra nonempty
        simp [behindSet?_eq_some_iff.2 ⟨named, nonempty⟩] at bare
    · next zero one => exact .call n plain zero fun same => absurd same one

/-- With a setter a method has to take one argument, and writes under the setter's name. -/
theorem MemberArguments.keys_iff_of_setter {args : MemberArguments} {i : Ident}
    (set : args.setter = .some i) {name : String} {n : Nat} {k : Key} :
    args.Keys name n k ↔ n = 1 ∧ k = ⟨i.name, .write⟩ := by
  constructor
  · intro h
    cases h with
    | setter j other =>
      cases set.symm.trans other
      exact ⟨rfl, rfl⟩
    | read plain | write _ plain | call _ plain => cases plain.symm.trans set
  · rintro ⟨rfl, rfl⟩
    exact .setter i set

/-- Members with hidden names are left out. -/
theorem shown_eq_some_iff {k k' : Key} {s s' : Signature} :
    (if isHidden k.name then none else some (k, s)) = some (k', s') ↔
      s = s' ∧ k' = k ∧ isHidden k'.name = false := by
  by_cases hidden : isHidden k.name = true
  · rw [if_pos hidden]
    refine ⟨nofun, ?_⟩
    rintro ⟨-, rfl, shown⟩
    rw [hidden] at shown
    cases shown
  · rw [if_neg hidden, Option.some_inj]
    constructor
    · intro h
      cases h
      exact ⟨rfl, rfl, Bool.not_eq_true _ ▸ hidden⟩
    · rintro ⟨rfl, rfl, -⟩
      rfl

/-- What a method enters, if its directives are read. -/
theorem Method.entry?_eq_some_iff {self : Ident} {args : MemberArguments} {m : Method} {k : Key}
    {s : Signature} : m.entry? self args = .ok (some (k, s)) ↔
      args.skip = false ∧ m.visibility.isShared = true ∧ m.head.signature? self = some s ∧
        args.Keys (args.rename.getD m.head.ident).name s.inputs.length k ∧
        isHidden k.name = false := by
  unfold Method.entry?
  by_cases out : (args.skip || !m.visibility.isShared) = true
  · rw [if_pos out]
    refine ⟨nofun, ?_⟩
    rintro ⟨kept, shared, -⟩
    simp [kept, shared] at out
  · rw [if_neg out]
    obtain ⟨kept, shared⟩ : args.skip = false ∧ m.visibility.isShared = true := by simpa using out
    cases found : m.head.signature? self with
    | none => simp
    | some s' =>
      simp only [kept, shared, Option.some_inj, true_and]
      cases set : args.setter with
      | none =>
        rw [Except.ok.injEq, shown_eq_some_iff]
        refine and_congr_right ?_
        rintro rfl
        rw [MemberArguments.keys_iff set]
      | some i =>
        by_cases one : s'.inputs.length = 1
        · simp only [if_pos one, Except.ok.injEq]
          refine (shown_eq_some_iff (k := ⟨i.name, .write⟩)).trans (and_congr_right ?_)
          rintro rfl
          rw [MemberArguments.keys_iff_of_setter set, and_iff_right one]
        · simp only [if_neg one]
          refine ⟨nofun, ?_⟩
          rintro ⟨rfl, key, -⟩
          exact absurd ((MemberArguments.keys_iff_of_setter set).1 key).1 one

/-- The member that the method contributes to the type `self`, if it can be told. -/
def Method.contribution? (self : Ident) (m : Method) : Option (Key × Signature) :=
  match MemberArguments.take m.attributes with
  | .ok (args, _) => (m.entry? self args).toOption.join
  | .error _ => none

theorem Method.contribution?_eq_some_iff {self : Ident} {m : Method} {k : Key} {s : Signature} :
    m.contribution? self = some (k, s) ↔ m.Registers self k s := by
  unfold Method.contribution?
  cases said : MemberArguments.take m.attributes with
  | error refusal =>
    refine ⟨nofun, fun h => ?_⟩
    obtain ⟨said'⟩ := h
    cases said.symm.trans said'
  | ok taken =>
    obtain ⟨args, rest⟩ := taken
    have entered : (m.entry? self args).toOption.join = some (k, s) ↔
        m.entry? self args = .ok (some (k, s)) := by
      cases m.entry? self args with
      | error refusal => exact ⟨nofun, nofun⟩
      | ok entry =>
        show entry = some (k, s) ↔ _
        rw [Except.ok.injEq]
    rw [entered, Method.entry?_eq_some_iff]
    constructor
    · rintro ⟨kept, shared, signature, key, shown⟩
      exact ⟨said, kept, shared, signature, key, shown⟩
    · rintro ⟨said', kept, shared, signature, key, shown⟩
      cases said.symm.trans said'
      exact ⟨kept, shared, signature, key, shown⟩

/-- The members that the field contributes to the type `self`, if they can be told. -/
def Field.contributions (self : Ident) (f : Field) : List (Key × Signature) :=
  match MemberArguments.take f.attributes with
  | .ok (args, _) => f.entries self args
  | .error _ => []

theorem Field.mem_entries_iff {self : Ident} {args : MemberArguments} {f : Field} {k : Key}
    {s : Signature} : (k, s) ∈ f.entries self args ↔
      ∃ ident, f.name = some ident ∧ args.skip = false ∧ f.visibility.isShared = true ∧
        k.name = (args.rename.getD ident).name ∧ isHidden k.name = false ∧
        f.signature? self ident k.shape = some s := by
  unfold Field.entries
  cases named : f.name with
  | none => simp
  | some ident =>
    dsimp only
    by_cases out : (args.skip || !f.visibility.isShared ||
        isHidden (args.rename.getD ident).name) = true
    · rw [if_pos out]
      refine ⟨nofun, ?_⟩
      rintro ⟨_, same, kept, shared, name, shown, -⟩
      rw [name, ← Option.some_inj.1 same] at shown
      simp [kept, shared, shown] at out
    · rw [if_neg out]
      obtain ⟨⟨kept, shared⟩, shown⟩ : (args.skip = false ∧ f.visibility.isShared = true) ∧
          isHidden (args.rename.getD ident).name = false := by simpa using out
      obtain ⟨name, shape⟩ := k
      rw [List.mem_pair]
      constructor
      · rintro (h | h) <;> cases h <;> exact ⟨ident, rfl, kept, shared, rfl, shown, rfl⟩
      · rintro ⟨_, h, -, -, rfl, -, signature⟩
        cases h
        cases shape with
        | read => exact .inl (Prod.ext rfl (Option.some_inj.1 signature).symm)
        | write => exact .inr (Prod.ext rfl (Option.some_inj.1 signature).symm)
        | call n => cases signature

theorem Field.mem_contributions_iff {self : Ident} {f : Field} {k : Key} {s : Signature} :
    (k, s) ∈ f.contributions self ↔ f.Registers self k s := by
  unfold Field.contributions
  cases said : MemberArguments.take f.attributes with
  | error refusal =>
    refine ⟨nofun, fun h => ?_⟩
    obtain ⟨said'⟩ := h
    cases said.symm.trans said'
  | ok taken =>
    obtain ⟨args, rest⟩ := taken
    dsimp only
    rw [Field.mem_entries_iff]
    constructor
    · rintro ⟨ident, named, kept, shared, name, shown, signature⟩
      exact ⟨said, kept, shared, named, name, shown, signature⟩
    · rintro ⟨said', kept, shared, named, name, shown, signature⟩
      cases said.symm.trans said'
      exact ⟨_, named, kept, shared, name, shown, signature⟩

/-! ## Descriptions -/

/-- The description of the type that is defined with the fields and has the methods. -/
def Descriptor.of (self : Ident) (fields : List Field) (methods : List (Ident × Method)) :
    Descriptor :=
  ⟨self, Table.addAll (methods.filterMap fun x => x.2.contribution? x.1)
    (Table.addNew (fields.flatMap (Field.contributions self)) [])⟩

/-- A method contributes under the key if it provides some member with it. -/
theorem Method.any_contribution?_iff {self : Ident} {m : Method} {k : Key} :
    (m.contribution? self).any (·.1 == k) = true ↔ ∃ s, m.Registers self k s := by
  rw [Option.any_eq_true]
  constructor
  · rintro ⟨⟨k', s⟩, contributed, same⟩
    obtain rfl : k' = k := eq_of_beq same
    exact ⟨s, Method.contribution?_eq_some_iff.1 contributed⟩
  · rintro ⟨s, registers⟩
    exact ⟨(k, s), Method.contribution?_eq_some_iff.2 registers, beq_self_eq_true k⟩

/-- The first contribution of a field under the key is the member that the field provides. -/
theorem Field.registers_of_find? {self : Ident} {f : Field} {k : Key} {e : Key × Signature}
    (h : (f.contributions self).find? (·.1 == k) = some e) : f.Registers self k e.2 := by
  have same := List.find?_some h
  obtain rfl : e.1 = k := eq_of_beq same
  exact Field.mem_contributions_iff.1 (List.mem_of_find?_eq_some h)

/-- A field with no contribution under the key provides no member with it. -/
theorem Field.not_registers_of_find? {self : Ident} {f : Field} {k : Key}
    (h : (f.contributions self).find? (·.1 == k) = none) (s : Signature) :
    ¬ f.Registers self k s := by
  intro registers
  exact List.find?_eq_none.1 h (k, s) (Field.mem_contributions_iff.2 registers)
    (beq_self_eq_true k)

/-- The table of a type goes by precedence. -/
theorem Descriptor.get?_of (self : Ident) (fields : List Field) (methods : List (Ident × Method))
    (k : Key) : Precedence self fields methods k ((of self fields methods).table.get? k) := by
  unfold of
  rw [Table.get?_addAll, ← List.filterMap_reverse, List.find?_filterMap]
  cases last : methods.reverse.find? fun x => (x.2.contribution? x.1).any (·.1 == k) with
  | some x =>
    obtain ⟨own, m⟩ := x
    obtain ⟨provides, later, before, listed, unmethodical⟩ := List.find?_eq_some_iff_append.1 last
    obtain ⟨s, registers⟩ := Method.any_contribution?_iff.1 provides
    rw [Option.bind_some, Method.contribution?_eq_some_iff.2 registers]
    have listed' : methods = before.reverse ++ (own, m) :: later.reverse := by
      rw [← List.reverse_reverse methods, listed, List.reverse_append, List.reverse_cons,
        List.append_assoc, List.singleton_append]
    refine .method listed' registers ?_
    intro x hx s' registers'
    have := unmethodical x (List.mem_reverse.1 hx)
    rw [Method.any_contribution?_iff.2 ⟨s', registers'⟩] at this
    cases this
  | none =>
    have unmethodical : ∀ x ∈ methods, ∀ s', ¬ x.2.Registers x.1 k s' := fun x hx s' registers =>
      List.find?_eq_none.1 last x (List.mem_reverse.2 hx)
        (Method.any_contribution?_iff.2 ⟨s', registers⟩)
    rw [Table.get?_addNew, List.find?_flatMap]
    cases first : fields.findSome? fun f => (f.contributions self).find? (·.1 == k) with
    | some e =>
      obtain ⟨before, f, after, listed, found, unfielded⟩ := List.findSome?_eq_some_iff.1 first
      exact .field unmethodical listed (Field.registers_of_find? found) fun x hx =>
        Field.not_registers_of_find? (unfielded x hx)
    | none =>
      exact .absent unmethodical fun f hf =>
        Field.not_registers_of_find? (List.findSome?_eq_none_iff.1 first f hf)

end SharedMembers
