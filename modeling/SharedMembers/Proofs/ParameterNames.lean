import SharedMembers.Emission.Accessor
import SharedMembers.Proofs.Descriptions
import SharedMembers.Proofs.Extension
import SharedMembers.Proofs.NestedNames
import SharedMembers.Proofs.Receivers

/-!
# How parameters are called

The parameters of an accessor are called as those of its first subtype's method. A parameter whose
pattern gives no name to the whole value is called by its number. The number is not compared with
the names that the method itself gives, and those are not compared with the name by which an arm
calls the active value. So two parameters may have one name, and an argument may be hidden.

Results:
* `namedBy_mapIdx`: when names that are made like this are different, and when one is hidden.
* `FnHead.names_of_signature?`: a signature has the names of the patterns.
* `parameters_namedBy`: the names of every method that is entered, and of every accessor.
* `parameters_overlap`: a method with different names whose accessor has two parameters of one name,
  and one whose argument is hidden.
-/

namespace SharedMembers

/-! ## What is promised -/

/-- The name that a pattern gives to its whole value. `self` is the name of a method's own value. -/
def Pattern.ownName? (p : Pattern) : Option Ident :=
  p.binding.filter (·.name ≠ "self")

/-- The pattern of an input, unless it is the method's own value. -/
def FnInput.pattern? : FnInput → Option Pattern
  | .typed _ pattern _ => some pattern
  | .self _ => none

/-- The patterns of the arguments. -/
def FnHead.patterns (h : FnHead) : List Pattern :=
  h.inputs.tail.filterMap FnInput.pattern?

/-- The patterns give different names to their values. -/
def BindApart (ps : List Pattern) : Prop :=
  ((ps.filterMap Pattern.ownName?).map Ident.plainName).Nodup

/-- A pattern gives the name that is made up for the place of another one, which gives none. -/
def Overlap (ps : List Pattern) : Prop :=
  ∃ (n : Nat) (p q : Pattern) (i : Ident), ps[n]? = some p ∧ p.ownName? = none ∧ q ∈ ps ∧
    q.ownName? = some i ∧ i.plainName = "arg" ++ toString n

/-- A pattern gives the name by which arms call the active value. There it stands for that value,
and the argument is hidden. -/
def NamesActive (ps : List Pattern) : Prop :=
  ∃ p ∈ ps, ∃ i, p.ownName? = some i ∧ i.plainName = Emission.activeValue.name

/-- The names for the values of the patterns: they are different iff the patterns give different
names and none that is made up for another place, and none is hidden in an arm iff no pattern gives
the name of the active value. -/
structure NamedBy (ps : List Pattern) (names : List Ident) : Prop where
  length : names.length = ps.length
  apart : (names.map Ident.plainName).Nodup ↔ BindApart ps ∧ ¬ Overlap ps
  visible : Emission.activeValue.name ∉ names.map Ident.plainName ↔ ¬ NamesActive ps

/-- The patterns for what the member with the key passes: none for a field that is read, one for the
value of a field that is written, and those of a method. -/
inductive Parameters (items : List Item) (name : String) (k : Key) (s : Signature) :
    List Pattern → Prop where
  | read {d : StructItem} {f : Field} (item : .struct d ∈ items) (owner : d.ident.name = name)
      (hf : f ∈ d.fields.withNames) (registers : f.Registers d.ident k s)
      (shape : k.shape = .read) : Parameters items name k s []
  | write {d : StructItem} {f : Field} (item : .struct d ∈ items) (owner : d.ident.name = name)
      (hf : f ∈ d.fields.withNames) (registers : f.Registers d.ident k s)
      (shape : k.shape = .write) : Parameters items name k s [⟨some (.generated "value"), []⟩]
  | method {i : ImplItem} {m : Method} {self : Ident} (item : .impl i ∈ items)
      (own : i.ownType? = some self) (owner : self.name = name) (hm : .method m ∈ i.members)
      (registers : m.Registers self k s) : Parameters items name k s m.head.patterns

/-! ## Names by number -/

theorem plainName_numbered (n : Nat) :
    (Ident.generated ("arg" ++ toString n)).plainName = "arg" ++ toString n := by
  simp [Ident.plainName, Ident.generated, String.toList_append]

/-- The name for the value of the pattern in the `n`th place, as it is spelt. -/
def Pattern.nameAt (n : Nat) (p : Pattern) : String :=
  (p.ownName?.map Ident.plainName).getD ("arg" ++ toString n)

theorem FnHead.plainName_argumentName (n : Nat) (p : Pattern) :
    (argumentName n p).plainName = p.nameAt n := by
  unfold argumentName Pattern.nameAt Pattern.ownName?
  cases p.binding with
  | none => exact plainName_numbered n
  | some i =>
    rw [Option.filter_some]
    by_cases self : i.name = "self"
    · rw [if_neg (by simpa using self)]
      simpa [self] using plainName_numbered n
    · rw [if_pos (by simpa using self)]
      simp [self]

theorem map_plainName_mapIdx (ps : List Pattern) :
    (ps.mapIdx FnHead.argumentName).map Ident.plainName = ps.mapIdx Pattern.nameAt := by
  refine List.ext_getElem? fun n => ?_
  rw [List.getElem?_map, List.getElem?_mapIdx, List.getElem?_mapIdx, Option.map_map]
  exact congrArg (fun f => Option.map f ps[n]?)
    (funext fun p => FnHead.plainName_argumentName n p)

/-- No two places have the same name. -/
theorem nodup_mapIdx_iff {ps : List Pattern} {f : Nat → Pattern → String} :
    (ps.mapIdx f).Nodup ↔
      ∀ m n p q, ps[m]? = some p → ps[n]? = some q → f m p = f n q → m = n := by
  constructor
  · intro nodup m n p q hp hq same
    have bound : m < (ps.mapIdx f).length := by
      rw [List.length_mapIdx]
      exact (List.getElem?_eq_some_iff.1 hp).1
    rw [← List.getElem?_inj bound nodup, List.getElem?_mapIdx, List.getElem?_mapIdx, hp, hq]
    exact congrArg some same
  · intro apart
    rw [List.nodup_iff_getElem?_ne_getElem?]
    intro m n less bound same
    rw [List.length_mapIdx] at bound
    have hq := List.getElem?_eq_getElem bound
    have hp := List.getElem?_eq_getElem (less.trans bound)
    rw [List.getElem?_mapIdx, List.getElem?_mapIdx, hp, hq] at same
    exact absurd (apart m n _ _ hp hq (Option.some.inj same)) (Nat.ne_of_lt less)

/-- No two patterns give the same name. -/
theorem bindApart_iff {ps : List Pattern} :
    BindApart ps ↔ ∀ (m n : Nat) (p q : Pattern) (i j : Ident), ps[m]? = some p →
      ps[n]? = some q → p.ownName? = some i → q.ownName? = some j →
        i.plainName = j.plainName → m = n := by
  have pairwise : BindApart ps ↔ ∀ (m n : Nat) (hm : m < ps.length) (hn : n < ps.length), m < n →
      ∀ i, ps[m].ownName? = some i → ∀ j, ps[n].ownName? = some j →
        i.plainName ≠ j.plainName := by
    rw [BindApart, List.Nodup, List.pairwise_map, List.pairwise_filterMap,
      List.pairwise_iff_getElem]
  rw [pairwise]
  constructor
  · intro apart m n p q i j hp hq hi hj same
    obtain ⟨hm, rfl⟩ := List.getElem?_eq_some_iff.1 hp
    obtain ⟨hn, rfl⟩ := List.getElem?_eq_some_iff.1 hq
    rcases Nat.lt_trichotomy m n with less | eq | more
    · exact absurd same (apart m n hm hn less i hi j hj)
    · exact eq
    · exact absurd same.symm (apart n m hn hm more j hj i hi)
  · intro apart m n hm hn less i hi j hj same
    exact absurd (apart m n _ _ i j (List.getElem?_eq_getElem hm) (List.getElem?_eq_getElem hn)
      hi hj same) (Nat.ne_of_lt less)

/-- The names are different iff those are that patterns give, and none is one that is made up. -/
theorem nodup_nameAt_iff {ps : List Pattern} :
    (ps.mapIdx Pattern.nameAt).Nodup ↔ BindApart ps ∧ ¬ Overlap ps := by
  rw [nodup_mapIdx_iff, bindApart_iff]
  constructor
  · intro apart
    refine ⟨fun m n p q i j hp hq hi hj same => apart m n p q hp hq ?_, ?_⟩
    · rw [Pattern.nameAt, Pattern.nameAt, hi, hj]
      exact same
    · rintro ⟨n, p, q, i, hp, unnamed, hq, hi, same⟩
      obtain ⟨m, hq⟩ := List.mem_iff_getElem?.1 hq
      have eq : n = m := by
        refine apart n m p q hp hq ?_
        rw [Pattern.nameAt, Pattern.nameAt, unnamed, hi]
        exact same.symm
      rw [eq, hq] at hp
      cases hp
      cases unnamed.symm.trans hi
  · rintro ⟨apart, free⟩ m n p q hp hq same
    rw [Pattern.nameAt, Pattern.nameAt] at same
    cases hi : p.ownName? with
    | some i =>
      cases hj : q.ownName? with
      | some j =>
        rw [hi, hj] at same
        exact apart m n p q i j hp hq hi hj same
      | none =>
        rw [hi, hj] at same
        exact absurd ⟨n, q, p, i, hq, hj, List.mem_of_getElem? hp, hi, same⟩ free
    | none =>
      cases hj : q.ownName? with
      | some j =>
        rw [hi, hj] at same
        exact absurd ⟨m, p, q, j, hp, hi, List.mem_of_getElem? hq, hj, same.symm⟩ free
      | none =>
        rw [hi, hj] at same
        exact toString_injective ((String.append_right_inj _).1 same)

/-- A name that is made up is not that of the active value. -/
theorem numbered_ne_activeValue (n : Nat) : "arg" ++ toString n ≠ Emission.activeValue.name := by
  intro same
  have letters := congrArg String.toList same
  simp [Emission.activeValue, Ident.generated, String.toList_append] at letters

/-- The name of the active value is among the names iff a pattern gives it. -/
theorem activeValue_mem_iff {ps : List Pattern} :
    Emission.activeValue.name ∈ ps.mapIdx Pattern.nameAt ↔ NamesActive ps := by
  constructor
  · intro hidden
    obtain ⟨n, bound, same⟩ := List.mem_mapIdx.1 hidden
    refine ⟨ps[n], List.getElem_mem bound, ?_⟩
    rw [Pattern.nameAt] at same
    cases hi : ps[n].ownName? with
    | some i =>
      rw [hi] at same
      exact ⟨i, rfl, same⟩
    | none =>
      rw [hi] at same
      exact absurd same (numbered_ne_activeValue n)
  · rintro ⟨p, hp, i, hi, same⟩
    obtain ⟨n, bound, rfl⟩ := List.getElem_of_mem hp
    refine List.mem_mapIdx.2 ⟨n, bound, ?_⟩
    rw [Pattern.nameAt, hi]
    exact same

/-- What is to be said of names that are made like this. -/
theorem namedBy_mapIdx (ps : List Pattern) : NamedBy ps (ps.mapIdx FnHead.argumentName) where
  length := List.length_mapIdx
  apart := by rw [map_plainName_mapIdx, nodup_nameAt_iff]
  visible := by rw [map_plainName_mapIdx, activeValue_mem_iff]

/-! ## Signatures -/

/-- The names of the arguments from the `n`th on. -/
theorem FnHead.names_of_arguments? {self : Ident} {n : Nat} {inputs : List FnInput}
    {args : List (Ident × Ty)} (h : arguments? self n inputs = some args) :
    args.map (·.1) =
      (inputs.filterMap FnInput.pattern?).mapIdx fun i => argumentName (i + n) := by
  induction inputs generalizing n args with
  | nil =>
    cases h
    rfl
  | cons input inputs ih =>
    cases input with
    | self i => cases h
    | typed attributes pattern type =>
      rw [arguments?] at h
      split at h
      · cases h
      · obtain ⟨more, found, rfl⟩ := Option.map_eq_some_iff.1 h
        rw [List.map_cons, ih found, List.filterMap_cons, FnInput.pattern?, List.mapIdx_cons,
          Nat.zero_add]
        simp only [Nat.add_assoc, Nat.add_comm 1]

/-- A signature has the names of the patterns. -/
theorem FnHead.names_of_signature? {self : Ident} {h : FnHead} {s : Signature}
    (found : h.signature? self = some s) : s.names = h.patterns.mapIdx argumentName := by
  rw [signature?] at found
  split at found
  · obtain ⟨receiver, -, found⟩ := Option.bind_eq_some_iff.1 found
    obtain ⟨args, hargs, found⟩ := Option.bind_eq_some_iff.1 found
    obtain ⟨output, -, rfl⟩ := Option.map_eq_some_iff.1 found
    have names := names_of_arguments? hargs
    simp only [Nat.add_zero] at names
    exact names
  · cases found

/-- What the items contribute has the names of its patterns. -/
theorem Contributed.parameters {items : List Item} {name : String} {k : Key} {s : Signature}
    (h : Contributed items name (k, s)) :
    ∃ ps, Parameters items name k s ps ∧ s.names = ps.mapIdx FnHead.argumentName := by
  rcases h.registers with ⟨d, f, item, owner, hf, registers⟩ | ⟨i, m, self, item, own, owner, hm,
    registers⟩
  · rcases registers.signature_cases with ⟨ident, ⟨shape, rfl⟩ | ⟨shape, rfl⟩⟩
    · exact ⟨_, .read item owner hf registers shape, rfl⟩
    · exact ⟨_, .write item owner hf registers shape, rfl⟩
  · exact ⟨_, .method item own owner hm registers,
      FnHead.names_of_signature? registers.signature_eq⟩

/-! ## Accessors -/

/-- A wrapper with an accessor has a first subtype. -/
theorem exists_first_of_forward {c : Catalogue} {r : Registry} {w : Wrapper} {f : Forwarding}
    (h : r.forward c w = .ok f) {a : Accessor} (ha : a ∈ f.accessors) :
    ∃ t, w.types.head? = some t := by
  cases types : w.types with
  | cons t ts => exact ⟨t, rfl⟩
  | nil =>
    rw [forward_eq, Catalogue.keysOf, types] at h
    cases h
    cases ha

/-- The names of arguments. Those of every method that is entered are told by its patterns, and
those of every accessor by the patterns of what its first subtype provides. They are different iff
these give different names, of which none is made up for another place; and none is hidden in an arm
iff none of these is the name of the active value. -/
theorem parameters_namedBy {items kept : List Item} {c : Catalogue}
    (collected : collect items = .ok (c, kept)) :
    (∀ m self k s, Method.Registers self m k s → NamedBy m.head.patterns s.names) ∧
      ∀ (r : Registry) w f, r.forward c w = .ok f → ∀ a ∈ f.accessors, ∃ t s ps,
        w.types.head? = some t ∧ c.Provides a.key t s ∧ Parameters items t.key a.key s ps ∧
          NamedBy ps a.names := by
  constructor
  · intro m self k s registers
    rw [FnHead.names_of_signature? registers.signature_eq]
    exact namedBy_mapIdx _
  · intro r w f ok a ha
    obtain ⟨t, first⟩ := exists_first_of_forward ok ha
    obtain @⟨k, ss, p, _, _, output, provided, plan, -, -, -⟩ := (made_of_forward ok).2 a ha
    obtain ⟨ts, types⟩ := List.head?_eq_some_iff.1 first
    rw [types] at provided
    obtain ⟨s, rest, provides, -, rfl⟩ := List.forall₂_cons_left_iff.1 provided
    obtain ⟨ps, parameters, names⟩ := ((collect_contributed collected).provided provides).parameters
    refine ⟨t, s, ps, first, provides, parameters, ?_⟩
    show NamedBy ps p.names
    rw [plan.names, show argumentNames (s :: rest) = s.names from rfl, names]
    exact namedBy_mapIdx ps

/-- The patterns that give these names, or none. -/
def patternsOf (names : List (Option String)) : List Pattern :=
  names.map fun name => ⟨name.map .generated, []⟩

/-- A struct with a method whose arguments have these patterns. -/
def scale (ps : List Pattern) : List Item :=
  [openStruct "A" [], .impl ⟨[], [], none, .empty, none, .ofName "A",
    [.method ⟨[], .everywhere none, none,
      ⟨none, none, none, none, none, .generated "scale", .empty,
        .self ⟨[], some (none, none), false, none, none⟩ :: ps.map (.typed [] · (.ofName "u8")),
        false, none, none⟩, []⟩]⟩]

/-- The names of the parameters of all accessors of a wrapper over the struct. -/
def scaleNames (c : Catalogue) : Option (List (List String)) :=
  (Registry.forward (.new []) c (wrapperOver ["A"])).toOption.map fun f =>
    f.accessors.map fun a => a.names.map Ident.plainName

theorem exists_accessor_scale (ps : List Pattern) (names : List String)
    (h : (collect (scale ps)).toOption.map (fun r => scaleNames r.1) = some (some [names])) :
    ∃ c kept f a, collect (scale ps) = .ok (c, kept) ∧
      Registry.forward (.new []) c (wrapperOver ["A"]) = .ok f ∧ a ∈ f.accessors ∧
      a.names.map Ident.plainName = names := by
  obtain ⟨⟨c, kept⟩, collected, found⟩ := exists_ok_of_toOption h
  obtain ⟨f, ok, accessors⟩ := exists_ok_of_toOption found
  obtain ⟨a, single, called⟩ := List.map_eq_singleton_iff.1 accessors
  exact ⟨c, kept, f, a, collected, ok, by rw [single]; exact List.mem_cons_self, called⟩

theorem parameters_namedBy_scale :
    ∃ c kept f a ps, collect (scale (patternsOf [none, some "by"])) = .ok (c, kept) ∧
      Registry.forward (.new []) c (wrapperOver ["A"]) = .ok f ∧ a ∈ f.accessors ∧
      a.names.map Ident.plainName = ["arg0", "by"] ∧ NamedBy ps a.names := by
  obtain ⟨c, kept, f, a, collected, ok, ha, names⟩ :=
    exists_accessor_scale (patternsOf [none, some "by"]) ["arg0", "by"] (by decide +kernel)
  obtain ⟨-, -, ps, -, -, -, named⟩ := (parameters_namedBy collected).2 _ _ f ok a ha
  exact ⟨c, kept, f, a, ps, collected, ok, ha, names, named⟩

/-- A method gives its arguments different names, or none, and nevertheless its accessor has two
parameters of one name, or a parameter that the active value hides. -/
theorem parameters_overlap :
    (BindApart (patternsOf [none, some "arg0"]) ∧ ∃ c kept f a,
      collect (scale (patternsOf [none, some "arg0"])) = .ok (c, kept) ∧
      Registry.forward (.new []) c (wrapperOver ["A"]) = .ok f ∧ a ∈ f.accessors ∧
      ¬ (a.names.map Ident.plainName).Nodup) ∧
    (BindApart (patternsOf [some "__superstruct_value"]) ∧ ∃ c kept f a,
      collect (scale (patternsOf [some "__superstruct_value"])) = .ok (c, kept) ∧
      Registry.forward (.new []) c (wrapperOver ["A"]) = .ok f ∧ a ∈ f.accessors ∧
      Emission.activeValue.name ∈ a.names.map Ident.plainName) := by
  constructor
  · refine ⟨by unfold BindApart; decide +kernel, ?_⟩
    obtain ⟨c, kept, f, a, collected, ok, ha, names⟩ :=
      exists_accessor_scale (patternsOf [none, some "arg0"]) ["arg0", "arg0"] (by decide +kernel)
    exact ⟨c, kept, f, a, collected, ok, ha, by rw [names]; decide⟩
  · refine ⟨by unfold BindApart; decide +kernel, ?_⟩
    obtain ⟨c, kept, f, a, collected, ok, ha, names⟩ :=
      exists_accessor_scale (patternsOf [some "__superstruct_value"]) ["__superstruct_value"]
        (by decide +kernel)
    exact ⟨c, kept, f, a, collected, ok, ha, by rw [names]; exact List.mem_cons_self⟩

end SharedMembers
