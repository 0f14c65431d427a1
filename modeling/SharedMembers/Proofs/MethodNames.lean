import SharedMembers.Proofs.Descriptions
import SharedMembers.Proofs.HiddenMembers
import SharedMembers.Proofs.Receivers

/-!
# Methods under their own names

A method is entered under a key that is made from its name and the number of its arguments: `set_`
is taken off the name of a method that writes. An accessor is named after the key, and there `set_`
is put in front again. The two are inverse to one another for every name, so methods with different
names are never entered under one key.

Results:
* `Key.accessorName_ofMethod`: the key of a method gives its name back.
* `Method.Eligible.registers_iff`: a method is entered under that key and no other.
* `Descriptor.get?_of_unique`: if no other method is called alike, it is not replaced.
* `methods_keep_names`: all of this for the methods of a module.
-/

namespace SharedMembers

/-! ## What is promised -/

/-- The method becomes a member of the type `self` with the signature: it is not left out, not only
its module may use it, and the name under which it is used is not hidden. -/
inductive Method.Eligible (self : Ident) (m : Method) (s : Signature) : Prop where
  | intro {args : MemberArguments} {rest : List Attribute}
      (said : MemberArguments.take m.attributes = .ok (args, rest)) (kept : args.skip = false)
      (shared : m.visibility.isShared = true) (signature : m.head.signature? self = some s)
      (shown : isHidden (m.exposedName args) = false)

/-- The directives on the method neither rename it nor make it a setter. -/
inductive Method.KeepsName (m : Method) : Prop where
  | intro {args : MemberArguments} {rest : List Attribute}
      (said : MemberArguments.take m.attributes = .ok (args, rest))
      (unnamed : args.rename = none) (unset : args.setter = none)

/-- The key gives the method its own name, and it has as many arguments. -/
structure Key.Names (k : Key) (m : Method) : Prop where
  accessor : k.accessorName = m.head.ident.name
  inputs : k.shape.inputs = m.head.inputs.tail.length

/-! ## Keys -/

/-- The accessor for a method has the method's name. -/
theorem Key.accessorName_ofMethod (name : String) (n : Nat) :
    (Key.ofMethod name n).accessorName = name := by
  unfold Key.ofMethod
  split
  · rfl
  · cases behind : behindSet? name with
    | none => rfl
    | some field => exact (behindSet?_eq_some_iff.1 behind).1.symm
  · rfl

/-- The key of a method that keeps its name. -/
def Method.ownKey (m : Method) : Key :=
  Key.ofMethod m.head.ident.name m.head.inputs.tail.length

theorem Method.names_ownKey (m : Method) : m.ownKey.Names m where
  accessor := Key.accessorName_ofMethod _ _
  inputs := Key.inputs_ofMethod _ _

/-- A method that keeps its name is entered under its own key. -/
theorem Method.Registers.key_eq {self : Ident} {m : Method} {k : Key} {s : Signature}
    (h : m.Registers self k s) (keeps : m.KeepsName) : k = m.ownKey := by
  obtain ⟨said, -, -, signature, key, -⟩ := h
  obtain ⟨said', unnamed, unset⟩ := keeps
  cases said.symm.trans said'
  rw [unnamed, MemberArguments.keys_iff unset] at key
  rw [key, (FnHead.given_of_signature? signature).2.2.1]
  rfl

/-- A method that becomes a member and keeps its name is entered under its own key with its own
signature, and not otherwise. -/
theorem Method.Eligible.registers_iff {self : Ident} {m : Method} {s : Signature}
    (h : m.Eligible self s) (keeps : m.KeepsName) {k : Key} {s' : Signature} :
    m.Registers self k s' ↔ k = m.ownKey ∧ s' = s := by
  obtain @⟨args, rest, said, kept, shared, signature, shown⟩ := h
  constructor
  · intro registers
    exact ⟨registers.key_eq keeps,
      Option.some.inj (registers.signature_eq.symm.trans signature)⟩
  · rintro ⟨rfl, rfl⟩
    obtain ⟨said', unnamed, unset⟩ := keeps
    cases said.symm.trans said'
    have exposed : m.exposedName args = m.ownKey.name := by
      unfold Method.exposedName
      rw [unset, unnamed]
      rfl
    refine ⟨said, kept, shared, signature, ?_, exposed ▸ shown⟩
    rw [unnamed, MemberArguments.keys_iff unset, (FnHead.given_of_signature? signature).2.2.1]
    rfl

/-- Methods of different names that keep them are entered under different keys. -/
theorem Method.KeepsName.keys_ne {self self' : Ident} {m m' : Method} {k k' : Key}
    {s s' : Signature} (keeps : m.KeepsName) (keeps' : m'.KeepsName) (h : m.Registers self k s)
    (h' : m'.Registers self' k' s') (different : m.head.ident.name ≠ m'.head.ident.name) :
    k ≠ k' := by
  rw [h.key_eq keeps, h'.key_eq keeps']
  intro same
  apply different
  rw [← m.names_ownKey.accessor, ← m'.names_ownKey.accessor, same]

/-! ## Tables -/

/-- A method that keeps its name stands in the table of its type if all other methods of the type
keep theirs, which are different. -/
theorem Descriptor.get?_of_unique {self : Ident} {fields : List Field}
    {methods : List (Ident × Method)} (keep : ∀ x ∈ methods, x.2.KeepsName)
    (unique : (methods.map (·.2.head.ident.name)).Nodup) {x : Ident × Method} (hx : x ∈ methods)
    {s : Signature} (eligible : x.2.Eligible x.1 s) :
    (Descriptor.of self fields methods).table.get? x.2.ownKey = some s := by
  have registers : x.2.Registers x.1 x.2.ownKey s :=
    (eligible.registers_iff (keep x hx)).2 ⟨rfl, rfl⟩
  have precedence := Descriptor.get?_of self fields methods x.2.ownKey
  generalize (Descriptor.of self fields methods).table.get? x.2.ownKey = found at precedence ⊢
  cases precedence with
  | @method before after own m s' listed registers' last =>
    -- The method that stands there has the same key, so the same name, so it is the same.
    have mem : (own, m) ∈ methods := by
      rw [listed]
      exact List.mem_append_right _ List.mem_cons_self
    have same : m.head.ident.name = x.2.head.ident.name := by
      by_contra different
      exact (keep _ mem).keys_ne (keep x hx) registers' registers different rfl
    obtain rfl : (own, m) = x := List.inj_on_of_nodup_map unique mem hx same
    exact congrArg some ((eligible.registers_iff (keep _ mem)).1 registers').2
  | field unmethodical => exact absurd registers (unmethodical x hx s)
  | absent unmethodical => exact absurd registers (unmethodical x hx s)

/-! ## Modules -/

/-- Methods keep their names. A method that becomes a member, without directives that rename it or
make it a setter, is entered under one key, which gives it its own name and has as many arguments;
those of different names are entered under different keys. If all methods of a type are like this,
and no two are called alike, then each that becomes a member stands in the table of the type, with
its own signature. -/
theorem methods_keep_names {items kept : List Item} {c : Catalogue}
    (collected : collect items = .ok (c, kept)) :
    (∀ self m s, Method.Eligible self m s → m.KeepsName →
      ∃ k, k.Names m ∧ ∀ k' s', m.Registers self k' s' ↔ k' = k ∧ s' = s) ∧
    (∀ self (m m' : Method) k k' s s', m.KeepsName → m'.KeepsName →
      m.head.ident.name ≠ m'.head.ident.name →
        m.Registers self k s → m'.Registers self k' s' → k ≠ k') ∧
    ∀ name ∈ definedTypes items, (∀ x ∈ methodsOf items name, x.2.KeepsName) →
      ((methodsOf items name).map (·.2.head.ident.name)).Nodup →
        ∃ d, c.find? name = some d ∧ ∀ x ∈ methodsOf items name, ∀ s, x.2.Eligible x.1 s →
          ∃ k, k.Names x.2 ∧ d.table.get? k = some s := by
  refine ⟨fun self m s eligible keeps => ?_, ?_, fun name defined keep unique => ?_⟩
  · exact ⟨m.ownKey, m.names_ownKey, fun k' s' => eligible.registers_iff keeps⟩
  · intro self m m' k k' s s' keeps keeps' different h h'
    exact keeps.keys_ne keeps' h h' different
  · rw [← List.contains_iff_mem, ← isSome_lastDefinition?] at defined
    obtain ⟨⟨self, fields⟩, counts⟩ := Option.isSome_iff_exists.1 defined
    refine ⟨Descriptor.of self fields (methodsOf items name), ?_, fun x hx s eligible => ?_⟩
    · rw [find?_collect collected, counts]
      rfl
    · exact ⟨x.2.ownKey, x.2.names_ownKey, Descriptor.get?_of_unique keep unique hx eligible⟩

/-- A struct with methods of the names that take one argument. -/
def dial (names : List String) : List Item :=
  openStruct "Dial" [] :: names.map fun name => openMethod "Dial" name [.ofName "u8"] none

theorem keepsName_of_mem_dial {names : List String} {x : Ident × Method}
    (hx : x ∈ methodsOf (dial names) "Dial") : x.2.KeepsName := by
  have plain : x.2.attributes = [] := by
    obtain ⟨i, hi, hx⟩ := List.mem_flatMap.1 (List.mem_filter.1 hx).1
    obtain ⟨item, hitem, implements⟩ := List.mem_filterMap.1 hi
    rcases List.mem_cons.1 hitem with rfl | hitem
    · cases implements
    · obtain ⟨name, -, rfl⟩ := List.mem_map.1 hitem
      cases implements
      obtain rfl := List.mem_singleton.1 hx
      rfl
  exact ⟨by rw [plain]; rfl, rfl, rfl⟩

theorem methods_keep_names_dial :
    ∃ c kept d, collect (dial ["set_", "set_x", "set_set_x", "x"]) = .ok (c, kept) ∧
      c.find? "Dial" = some d ∧
      d.table.keys.map (fun k => (k, k.accessorName)) =
        [(⟨"set_", .call 1⟩, "set_"), (⟨"set_x", .write⟩, "set_set_x"), (⟨"x", .write⟩, "set_x"),
         (⟨"x", .call 1⟩, "x")] ∧
      ∀ x ∈ methodsOf (dial ["set_", "set_x", "set_set_x", "x"]) "Dial", ∀ s,
        x.2.Eligible x.1 s → ∃ k, k.Names x.2 ∧ d.table.get? k = some s := by
  obtain ⟨⟨c, kept⟩, collected, keys⟩ := exists_ok_of_toOption
    (x := collect (dial ["set_", "set_x", "set_set_x", "x"]))
    (f := fun r => (r.1.find? "Dial").map fun d =>
      d.table.keys.map fun k => (k, k.accessorName))
    (b := some
      [(⟨"set_", .call 1⟩, "set_"), (⟨"set_x", .write⟩, "set_set_x"), (⟨"x", .write⟩, "set_x"),
       (⟨"x", .call 1⟩, "x")]) (by decide +kernel)
  obtain ⟨d, found, keys⟩ := Option.map_eq_some_iff.1 keys
  obtain ⟨-, -, entered⟩ := methods_keep_names collected
  obtain ⟨d', found', own⟩ := entered "Dial" (by decide +kernel)
    (fun x hx => keepsName_of_mem_dial hx) (by decide +kernel)
  cases found.symm.trans found'
  exact ⟨c, kept, d, collected, found, keys, own⟩

end SharedMembers
