import SharedMembers.Member.Collect
import SharedMembers.Proofs.Outcomes

/-!
# Signatures and their keys

A member is found by its key, and the shape of the key tells how many arguments the member takes.
The signatures that are collected keep to it.

* `Signature.Fits`: the signature is one for the key.
* `Catalogue.readEach_induction`, `Catalogue.readEach_related`: what a run through the items keeps,
  and what two runs side by side keep.
* `Catalogue.readEach_map`: what a run makes of the items.
* `collect_fits`: every signature in the catalogue of a module fits its key.
-/

namespace SharedMembers

/-- The signature can stand under the key: it has a name and a type for each argument, and no call
goes without arguments. A field is read, and gives its type, or it is written. -/
structure Signature.Fits (k : Key) (s : Signature) : Prop where
  names : s.names.length = k.shape.inputs
  inputs : s.inputs.length = k.shape.inputs
  read : k.shape.inputs = 0 → k.shape = .read
  field : s.target.isField = true →
    k.shape = .read ∧ s.output.isSome = true ∨ k.shape = .write ∧ s.output = none

/-- Every signature of the table fits its key. -/
def Table.Fits (t : Table) : Prop :=
  ∀ e ∈ t, e.2.Fits e.1

/-- Every signature of the catalogue fits its key. -/
def Catalogue.Fits (c : Catalogue) : Prop :=
  ∀ e ∈ c.types, e.2.table.Fits

/-! ## Tables -/

theorem Table.mem_of_get?_eq_some {t : Table} {k : Key} {s : Signature} (h : t.get? k = some s) :
    (k, s) ∈ t := by
  induction t with
  | nil => simp [Table.get?] at h
  | cons e rest ih =>
    obtain ⟨j, u⟩ := e
    rw [Table.get?] at h
    split at h
    · next same =>
      cases h
      rw [same]
      exact List.mem_cons_self
    · exact List.mem_cons_of_mem _ (ih h)

theorem Table.exists_get?_of_mem_keys {t : Table} {k : Key} (h : k ∈ t.keys) :
    ∃ s, t.get? k = some s := by
  induction t with
  | nil => simp [Table.keys] at h
  | cons e rest ih =>
    obtain ⟨j, u⟩ := e
    rw [Table.get?]
    split
    · exact ⟨u, rfl⟩
    · next other =>
      rcases List.mem_cons.1 h with same | later
      · exact absurd same other
      · exact ih later

theorem Table.mem_put {t : Table} {k : Key} {s : Signature} {e : Key × Signature}
    (h : e ∈ t.put k s) : e = (k, s) ∨ e ∈ t := by
  induction t with
  | nil => exact .inl (List.mem_singleton.1 h)
  | cons d rest ih =>
    obtain ⟨j, u⟩ := d
    rw [Table.put] at h
    split at h
    · rcases List.mem_cons.1 h with rfl | h
      · exact .inl rfl
      · exact .inr (List.mem_cons_of_mem _ h)
    · split at h
      · exact List.mem_cons.1 h
      · rcases List.mem_cons.1 h with rfl | h
        · exact .inr List.mem_cons_self
        · exact (ih h).imp_right (List.mem_cons_of_mem _)

theorem Table.mem_putNew {t : Table} {k : Key} {s : Signature} {e : Key × Signature}
    (h : e ∈ t.putNew k s) : e = (k, s) ∨ e ∈ t := by
  rw [Table.putNew] at h
  split at h
  · exact .inr h
  · exact Table.mem_put h

theorem Table.mem_addNew {t : Table} {entries : List (Key × Signature)} {e : Key × Signature}
    (h : e ∈ t.addNew entries) : e ∈ entries ∨ e ∈ t := by
  induction entries generalizing t with
  | nil => exact .inr h
  | cons d entries ih =>
    rcases ih h with h | h
    · exact .inl (List.mem_cons_of_mem _ h)
    · rcases Table.mem_putNew h with rfl | h
      · exact .inl List.mem_cons_self
      · exact .inr h

theorem Table.mem_addAll {t : Table} {entries : List (Key × Signature)} {e : Key × Signature}
    (h : e ∈ t.addAll entries) : e ∈ entries ∨ e ∈ t := by
  induction entries generalizing t with
  | nil => exact .inr h
  | cons d entries ih =>
    rcases ih h with h | h
    · exact .inl (List.mem_cons_of_mem _ h)
    · rcases Table.mem_put h with rfl | h
      · exact .inl List.mem_cons_self
      · exact .inr h

/-! ## Fields -/

theorem Field.entries_fit {self : Ident} {args : MemberArguments} {f : Field}
    {e : Key × Signature} (h : e ∈ f.entries self args) : e.2.Fits e.1 := by
  rw [Field.entries] at h
  split at h
  · simp at h
  · dsimp only at h
    split at h
    · simp at h
    · rcases List.mem_pair.1 h with rfl | rfl
      · exact ⟨rfl, rfl, fun _ => rfl, fun _ => .inl ⟨rfl, rfl⟩⟩
      · exact ⟨rfl, rfl, by simp [Shape.inputs], fun _ => .inr ⟨rfl, rfl⟩⟩

theorem StructItem.collect_fits {s s' : StructItem} {t : Table}
    (h : s.collect = .ok (t, s')) : t.Fits := by
  rw [StructItem.collect] at h
  split at h
  · obtain ⟨taken, -, h⟩ := bind_eq_ok_iff.1 h
    cases h
    intro e he
    rcases Table.mem_addNew he with he | he
    · obtain ⟨⟨args, f⟩, -, he⟩ := List.mem_flatMap.1 he
      exact Field.entries_fit he
    · simp at he
  · cases h
    intro e he
    simp at he

/-! ## Methods -/

theorem Key.inputs_ofMethod (name : String) (n : Nat) : (Key.ofMethod name n).shape.inputs = n := by
  cases n with
  | zero => rfl
  | succ n =>
    cases n with
    | zero =>
      cases behind : behindSet? name <;> simp [Key.ofMethod, behind, Shape.inputs]
    | succ n => rfl

theorem Key.shape_ofMethod_zero (name : String) : (Key.ofMethod name 0).shape = .read := rfl

/-- A method has a name for each argument, and it is no field. -/
theorem FnHead.signature?_eq_some {self : Ident} {h : FnHead} {s : Signature}
    (found : h.signature? self = some s) :
    s.names.length = s.inputs.length ∧ s.target.isField = false := by
  rw [FnHead.signature?] at found
  split at found
  · obtain ⟨receiver, -, found⟩ := Option.bind_eq_some_iff.1 found
    obtain ⟨args, -, found⟩ := Option.bind_eq_some_iff.1 found
    obtain ⟨output, -, rfl⟩ := Option.map_eq_some_iff.1 found
    exact ⟨by rw [List.length_map, List.length_map], rfl⟩
  · simp at found

theorem Method.entry?_fits {self : Ident} {args : MemberArguments} {m : Method}
    {e : Key × Signature} (h : m.entry? self args = .ok (some e)) : e.2.Fits e.1 := by
  rw [Method.entry?] at h
  split at h
  · simp at h
  split at h
  · simp at h
  next s found =>
  obtain ⟨names, method⟩ := FnHead.signature?_eq_some found
  dsimp only at h
  split at h
  · next setter _ =>
    split at h
    · next one =>
      split at h
      · simp at h
      · cases h
        refine ⟨names.trans one, one, by simp [Shape.inputs], ?_⟩
        simp [method]
    · simp at h
  · split at h
    · simp at h
    · cases h
      refine ⟨?_, (Key.inputs_ofMethod _ _).symm, ?_, by simp [method]⟩
      · rw [names, Key.inputs_ofMethod]
      · rw [Key.inputs_ofMethod]
        intro nothing
        rw [nothing, Key.shape_ofMethod_zero]

theorem ImplMember.collect_fits {self? : Option Ident} {m m' : ImplMember}
    {e : Key × Signature} (h : m.collect self? = .ok (some e, m')) : e.2.Fits e.1 := by
  cases m with
  | other code => simp [ImplMember.collect] at h
  | method m =>
    rw [ImplMember.collect] at h
    obtain ⟨⟨args, rest⟩, -, h⟩ := bind_eq_ok_iff.1 h
    cases self? with
    | none => cases h
    | some self =>
      obtain ⟨entry, he, h⟩ := bind_eq_ok_iff.1 h
      cases h
      exact Method.entry?_fits he

/-! ## Modules -/

theorem Catalogue.readDefinition_fits {c c' : Catalogue} {item item' : Item} (fits : c.Fits)
    (h : c.readDefinition item = .ok (c', item')) : c'.Fits := by
  cases item with
  | struct s =>
    rw [Catalogue.readDefinition] at h
    obtain ⟨⟨table, taken⟩, ht, h⟩ := bind_eq_ok_iff.1 h
    cases h
    have noted : (if deriveClone s.attributes then c.noteClone s.ident.name else c).Fits := by
      split <;> exact fits
    split
    · intro e he
      rcases List.mem_cons.1 he with rfl | he
      · exact StructItem.collect_fits ht
      · exact noted e he
    · exact noted
  | enum e =>
    rw [Catalogue.readDefinition] at h
    split at h
    · cases h
      have noted : (if deriveClone e.attributes then c.noteClone e.ident.name else c).Fits := by
        split <;> exact fits
      intro d hd
      rcases List.mem_cons.1 hd with rfl | hd
      · intro d hd
        simp at hd
      · exact noted d hd
    · cases h
      exact fits
  | impl i => cases h; exact fits
  | other kind names code => cases h; exact fits

theorem Catalogue.revise_fits {c : Catalogue} {name : String}
    {entries : List (Key × Signature)} (fits : c.Fits) (new : ∀ e ∈ entries, e.2.Fits e.1) :
    (c.revise name (Table.addAll entries)).Fits := by
  intro e he
  obtain ⟨⟨n, d⟩, hd, rfl⟩ := List.mem_map.1 he
  dsimp only
  split
  · intro x hx
    rcases Table.mem_addAll hx with hx | hx
    · exact new x hx
    · exact fits _ hd x hx
  · exact fits _ hd

theorem Catalogue.readMethods_fits {c c' : Catalogue} {item item' : Item} (fits : c.Fits)
    (h : c.readMethods item = .ok (c', item')) : c'.Fits := by
  cases item with
  | impl i =>
    rw [Catalogue.readMethods] at h
    obtain ⟨taken, ht, h⟩ := bind_eq_ok_iff.1 h
    cases h
    have new : ∀ e ∈ taken.filterMap (·.1), e.2.Fits e.1 := by
      intro e he
      obtain ⟨⟨entry, member⟩, hm, rfl⟩ := List.mem_filterMap.1 he
      obtain ⟨m, -, hm⟩ := exists_of_mem_mapM ht hm
      exact ImplMember.collect_fits hm
    split
    · refine Catalogue.revise_fits ?_ new
      split <;> exact fits
    · split <;> exact fits
  | struct s => cases h; exact fits
  | enum e => cases h; exact fits
  | other kind names code => cases h; exact fits

/-- What each step keeps is kept by going through all items. -/
theorem Catalogue.readEach_induction {P : Catalogue → Prop}
    {step : Catalogue → Item → Except Refusal (Catalogue × Item)} {c c' : Catalogue}
    {items items' : List Item}
    (keeps : ∀ item ∈ items, ∀ c c' item', P c → step c item = .ok (c', item') → P c')
    (start : P c) (h : Catalogue.readEach step c items = .ok (c', items')) : P c' := by
  induction items generalizing c items' with
  | nil => cases h; exact start
  | cons item items ih =>
    rw [Catalogue.readEach] at h
    obtain ⟨⟨c₁, item₁⟩, h₁, h⟩ := bind_eq_ok_iff.1 h
    obtain ⟨⟨c₂, items₂⟩, h₂, h⟩ := bind_eq_ok_iff.1 h
    cases h
    rw [List.forall_mem_cons] at keeps
    exact ih keeps.2 (keeps.1 c c₁ item₁ start h₁) h₂

/-- What each step tells of the item it makes by the item it reads, the run tells of all items. -/
theorem Catalogue.readEach_map {β : Type} {f g : Item → β}
    {step : Catalogue → Item → Except Refusal (Catalogue × Item)} {c c' : Catalogue}
    {items items' : List Item}
    (tells : ∀ c item c' item', step c item = .ok (c', item') → f item' = g item)
    (h : Catalogue.readEach step c items = .ok (c', items')) : items'.map f = items.map g := by
  induction items generalizing c items' with
  | nil =>
    cases h
    rfl
  | cons item items ih =>
    rw [Catalogue.readEach] at h
    obtain ⟨⟨c₁, item₁⟩, h₁, h⟩ := bind_eq_ok_iff.1 h
    obtain ⟨⟨c₂, items₂⟩, h₂, h⟩ := bind_eq_ok_iff.1 h
    cases h
    rw [List.map_cons, List.map_cons, tells c item c₁ item₁ h₁, ih h₂]

/-- Two runs side by side: what each two steps keep of the catalogues, and make of the items, all of
them do. -/
theorem Catalogue.readEach_related {C : Catalogue → Catalogue → Prop} {R S : Item → Item → Prop}
    {step : Catalogue → Item → Except Refusal (Catalogue × Item)}
    (keeps : ∀ (c d c' d' : Catalogue) (i j i' j' : Item), C c d → R i j →
      step c i = .ok (c', i') → step d j = .ok (d', j') → C c' d' ∧ S i' j')
    {c d c' d' : Catalogue} {is js is' js' : List Item} (start : C c d)
    (items : List.Forall₂ R is js) (h : Catalogue.readEach step c is = .ok (c', is'))
    (h' : Catalogue.readEach step d js = .ok (d', js')) : C c' d' ∧ List.Forall₂ S is' js' := by
  induction items generalizing c d is' js' with
  | nil =>
    cases h
    cases h'
    exact ⟨start, .nil⟩
  | cons first _ ih =>
    rw [Catalogue.readEach] at h h'
    obtain ⟨⟨c₁, i'⟩, hi, h⟩ := bind_eq_ok_iff.1 h
    obtain ⟨⟨d₁, j'⟩, hj, h'⟩ := bind_eq_ok_iff.1 h'
    obtain ⟨⟨_, is'⟩, his, h⟩ := bind_eq_ok_iff.1 h
    obtain ⟨⟨_, js'⟩, hjs, h'⟩ := bind_eq_ok_iff.1 h'
    cases h
    cases h'
    obtain ⟨next, made⟩ := keeps _ _ _ _ _ _ _ _ start first hi hj
    obtain ⟨last, rest⟩ := ih next his hjs
    exact ⟨last, .cons made rest⟩

/-- Every signature in the catalogue of a module fits its key. -/
theorem collect_fits {items kept : List Item} {c : Catalogue}
    (h : collect items = .ok (c, kept)) : c.Fits := by
  rw [collect] at h
  obtain ⟨⟨c₁, items₁⟩, h₁, h₂⟩ := bind_eq_ok_iff.1 h
  have defined : c₁.Fits :=
    Catalogue.readEach_induction (fun _ _ _ _ _ => Catalogue.readDefinition_fits)
      (fun e he => by simp [Catalogue.empty] at he) h₁
  exact Catalogue.readEach_induction (fun _ _ _ _ _ => Catalogue.readMethods_fits) defined h₂

end SharedMembers
