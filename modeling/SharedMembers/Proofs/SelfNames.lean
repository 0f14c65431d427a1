import SharedMembers.Proofs.Descriptions
import SharedMembers.Proofs.FirstNames

/-!
# What is left of `Self`

A member is declared inside its type, where `Self` stands for that type, and is used outside of it.
So the types of a signature are those that were declared, with the name of the type in the place of
every `Self` with which a path begins, wherever in a type the path stands. Tokens that are not
understood hold no paths: `Self` stays in the code of macros and attributes, and in the few types,
inputs and patterns that are kept as they were written.

Results:
* `Ty.roots_withSelf`, `Ty.fill_withSelf`: what naming `Self` changes, and what it leaves.
* `Ty.namedAfter_withSelf`: a type in which `Self` is named.
* `collect_namedAfter`: the types of the members of a module.
* `unparsed_keeps_self`: tokens that are not understood keep their `Self`.
-/

namespace SharedMembers

/-! ## What is promised -/

/-- The name that is written for a name in the place of `Self`. -/
def Ident.orSelf (self i : Ident) : Ident :=
  if i.name = "Self" then self else i

/-- The type is what is written outside of the type `own` for a type that was declared in it: the
names with which paths begin are the declared ones, with `own` in the place of `Self`; all else is
as it was declared; and so `Self` is not mentioned, unless a type has that name. -/
structure Ty.NamedAfter (own : Ident) (declared t : Ty) : Prop where
  roots : t.roots = declared.roots.map (Ident.orSelf own)
  rest : declared.fill t.roots = (t, [])
  free : own.name ≠ "Self" → t.mentionsSelf = false

/-- The type that is declared for an input, unless it is the method's own value. -/
def FnInput.type? : FnInput → Option Ty
  | .typed _ _ type => some type
  | .self _ => none

/-- The items declare the member with these types for its arguments, and with that for what it
gives; the unit type is none. A field is read as a value of its type, and one is passed to write
it. -/
inductive Declared (items : List Item) (self : Ident) (k : Key) (s : Signature) :
    List Ty → Option Ty → Prop where
  | read {d : StructItem} {f : Field} (item : .struct d ∈ items) (owner : d.ident = self)
      (hf : f ∈ d.fields.withNames) (registers : f.Registers self k s) (shape : k.shape = .read) :
      Declared items self k s [] (some f.type)
  | write {d : StructItem} {f : Field} (item : .struct d ∈ items) (owner : d.ident = self)
      (hf : f ∈ d.fields.withNames) (registers : f.Registers self k s) (shape : k.shape = .write) :
      Declared items self k s [f.type] none
  | method {i : ImplItem} {m : Method} (item : .impl i ∈ items) (own : i.ownType? = some self)
      (hm : .method m ∈ i.members) (registers : m.Registers self k s) :
      Declared items self k s (m.head.inputs.tail.filterMap FnInput.type?)
        (m.head.output.filter (!·.isUnit))

/-! ## What naming `Self` changes -/

theorem firstName_namingFirst (self : Ident) (ss : List Segment) :
    firstName (namingFirst self ss) = (firstName ss).map (Ident.orSelf self) := by
  cases ss with
  | nil => rfl
  | cons s ss => exact congrArg (fun i => [i]) (Segment.ident_namingSelf self s)

theorem Segment.roots_namingSelf (self : Ident) (s : Segment) :
    (s.namingSelf self).roots = s.roots := by
  unfold Segment.namingSelf
  split
  · cases s <;> rfl
  · rfl

theorem rootsEach_namingFirst (self : Ident) (ss : List Segment) :
    Segment.rootsEach (namingFirst self ss) = Segment.rootsEach ss := by
  cases ss with
  | nil => rfl
  | cons s ss => simp only [namingFirst, Segment.rootsEach, Segment.roots_namingSelf]

theorem firstName_withSelfEach (self : Ident) (ss : List Segment) :
    firstName (Segment.withSelfEach self ss) = firstName ss := by
  cases ss with
  | nil => rfl
  | cons s ss => cases s <;> rfl

mutual

theorem Ty.roots_withSelf (self : Ident) :
    ∀ t : Ty, (t.withSelf self).roots = t.roots.map (Ident.orSelf self)
  | .path p => by simp only [Ty.withSelf, Ty.roots, Path.roots_withSelf self p]
  | .reference _ _ _ t | .pointer _ _ t | .paren _ t | .slice _ t => by
    simp only [Ty.withSelf, Ty.roots, Ty.roots_withSelf self t]
  | .tuple _ elems _ => by simp only [Ty.withSelf, Ty.roots, Ty.rootsEach_withSelf self elems]
  | .array _ elem length => by
    simp only [Ty.withSelf, Ty.roots, Ty.roots_withSelf self elem,
      Fragment.rootsAll_withSelf self length, List.map_append]
  | .never _ | .inferred _ | .unparsed _ => rfl
  | .function code | .traitObject code | .implTrait code => by
    simp only [Ty.withSelf, Ty.roots, Fragment.rootsAll_withSelf self code]
  | .invocation p code => by
    simp only [Ty.withSelf, Ty.roots, Path.roots_withSelf self p,
      Fragment.rootsAll_withSelf self code, List.map_append]

theorem Ty.rootsEach_withSelf (self : Ident) :
    ∀ ts : List Ty,
      Ty.rootsEach (Ty.withSelfEach self ts) = (Ty.rootsEach ts).map (Ident.orSelf self)
  | [] => rfl
  | t :: ts => by
    simp only [Ty.withSelfEach, Ty.rootsEach, Ty.roots_withSelf self t,
      Ty.rootsEach_withSelf self ts, List.map_append]

theorem Path.roots_withSelf (self : Ident) :
    ∀ p : Path, (p.withSelf self).roots = p.roots.map (Ident.orSelf self)
  | .plain leading segments => by
    simp only [Path.withSelf, Path.roots, firstName_namingFirst, rootsEach_namingFirst,
      firstName_withSelfEach, Segment.rootsEach_withSelf self segments, List.map_append]
  | .qualified o own leading traitSegments rest => by
    have first := firstName_namingFirst self (Segment.withSelfEach self (traitSegments ++ rest))
    rw [firstName_withSelfEach] at first
    cases traitSegments with
    | nil =>
      have none : namingFirst self [] = [] := rfl
      rw [List.nil_append] at first
      simp only [Path.withSelf, Path.roots, List.isEmpty_nil, if_true, Segment.withSelfEach, none,
        List.nil_append, first, rootsEach_namingFirst, Ty.roots_withSelf self own,
        Segment.rootsEach, Segment.rootsEach_withSelf self rest, List.map_append]
    | cons s ss =>
      have inTrait := Segment.rootsEach_withSelf self (s :: ss)
      have named : firstName (namingFirst self (Segment.withSelfEach self (s :: ss)) ++
          Segment.withSelfEach self rest) = (firstName (s :: ss ++ rest)).map (Ident.orSelf self) :=
        first
      simp only [Path.withSelf, Path.roots, List.isEmpty_cons, named, rootsEach_namingFirst,
        inTrait, Ty.roots_withSelf self own, Segment.rootsEach_withSelf self rest, List.map_append,
        Bool.false_eq_true, if_false]

theorem Segment.roots_withSelf (self : Ident) :
    ∀ s : Segment, (s.withSelf self).roots = s.roots.map (Ident.orSelf self)
  | .plain _ => rfl
  | .generic _ _ args _ => by
    simp only [Segment.withSelf, Segment.roots, Argument.rootsEach_withSelf self args]

theorem Segment.rootsEach_withSelf (self : Ident) :
    ∀ ss : List Segment, Segment.rootsEach (Segment.withSelfEach self ss) =
      (Segment.rootsEach ss).map (Ident.orSelf self)
  | [] => rfl
  | s :: ss => by
    simp only [Segment.withSelfEach, Segment.rootsEach, Segment.roots_withSelf self s,
      Segment.rootsEach_withSelf self ss, List.map_append]

theorem Argument.roots_withSelf (self : Ident) :
    ∀ a : Argument, (a.withSelf self).roots = a.roots.map (Ident.orSelf self)
  | .lifetime _ => rfl
  | .type t => by simp only [Argument.withSelf, Argument.roots, Ty.roots_withSelf self t]
  | .other code => by
    simp only [Argument.withSelf, Argument.roots, Fragment.rootsAll_withSelf self code]

theorem Argument.rootsEach_withSelf (self : Ident) :
    ∀ as : List Argument, Argument.rootsEach (Argument.withSelfEach self as) =
      (Argument.rootsEach as).map (Ident.orSelf self)
  | [] => rfl
  | a :: as => by
    simp only [Argument.withSelfEach, Argument.rootsEach, Argument.roots_withSelf self a,
      Argument.rootsEach_withSelf self as, List.map_append]

theorem Fragment.roots_withSelf (self : Ident) :
    ∀ f : Fragment, (f.withSelf self).roots = f.roots.map (Ident.orSelf self)
  | .tree _ | .skipped _ => rfl
  | .group _ _ _ body => by
    simp only [Fragment.withSelf, Fragment.roots, Fragment.rootsAll_withSelf self body]
  | .path p => by simp only [Fragment.withSelf, Fragment.roots, Path.roots_withSelf self p]
  | .type t => by simp only [Fragment.withSelf, Fragment.roots, Ty.roots_withSelf self t]

theorem Fragment.rootsAll_withSelf (self : Ident) :
    ∀ fs : List Fragment, Fragment.rootsAll (Fragment.withSelfAll self fs) =
      (Fragment.rootsAll fs).map (Ident.orSelf self)
  | [] => rfl
  | f :: fs => by
    simp only [Fragment.withSelfAll, Fragment.rootsAll, Fragment.roots_withSelf self f,
      Fragment.rootsAll_withSelf self fs, List.map_append]

end

/-! ## What naming `Self` leaves -/

theorem nextName_withSelfEach (self : Ident) (ss : List Segment) (names : List Ident) :
    nextName (Segment.withSelfEach self ss) names = nextName ss names := by
  cases ss <;> cases names <;> rfl

theorem nextName_namingFirst (self : Ident) (ss : List Segment) (names : List Ident) :
    nextName (namingFirst self ss) names = nextName ss names := by
  cases ss <;> cases names <;> rfl

/-- The name that was put in front is written over. -/
theorem fillEach_namingFirst (self : Ident) (ss : List Segment) (names : List Ident) :
    (Segment.fillEach (namingFirst self ss) names).2 = (Segment.fillEach ss names).2 ∧
      ∀ i, withFirst i (Segment.fillEach (namingFirst self ss) names).1 =
        withFirst i (Segment.fillEach ss names).1 := by
  cases ss with
  | nil => exact ⟨rfl, fun _ => rfl⟩
  | cons s ss =>
    rw [namingFirst, Segment.namingSelf]
    split
    · cases s <;> exact ⟨rfl, fun _ => rfl⟩
    · exact ⟨rfl, fun _ => rfl⟩

mutual

theorem Ty.fill_withSelf (self : Ident) :
    ∀ (t : Ty) (names : List Ident), (t.withSelf self).fill names = t.fill names
  | .path p, names => by simp only [Ty.withSelf, Ty.fill, Path.fill_withSelf self p]
  | .reference _ _ _ t, names | .pointer _ _ t, names | .paren _ t, names | .slice _ t, names => by
    simp only [Ty.withSelf, Ty.fill, Ty.fill_withSelf self t]
  | .tuple _ elems _, names => by
    simp only [Ty.withSelf, Ty.fill, Ty.fillEach_withSelf self elems]
  | .array _ elem length, names => by
    simp only [Ty.withSelf, Ty.fill, Ty.fill_withSelf self elem,
      Fragment.fillAll_withSelf self length]
  | .never _, _ | .inferred _, _ | .unparsed _, _ => rfl
  | .function code, names | .traitObject code, names | .implTrait code, names => by
    simp only [Ty.withSelf, Ty.fill, Fragment.fillAll_withSelf self code]
  | .invocation p code, names => by
    simp only [Ty.withSelf, Ty.fill, Path.fill_withSelf self p,
      Fragment.fillAll_withSelf self code]

theorem Ty.fillEach_withSelf (self : Ident) :
    ∀ (ts : List Ty) (names : List Ident),
      Ty.fillEach (Ty.withSelfEach self ts) names = Ty.fillEach ts names
  | [], _ => rfl
  | t :: ts, names => by
    simp only [Ty.withSelfEach, Ty.fillEach, Ty.fill_withSelf self t, Ty.fillEach_withSelf self ts]

theorem Path.fill_withSelf (self : Ident) :
    ∀ (p : Path) (names : List Ident), (p.withSelf self).fill names = p.fill names
  | .plain leading segments, names => by
    simp only [Path.withSelf, Path.fill, nextName_namingFirst, nextName_withSelfEach,
      fillEach_namingFirst, Segment.fillEach_withSelf self segments]
  | .qualified o own leading traitSegments rest, names => by
    cases traitSegments with
    | nil =>
      have none : namingFirst self [] = [] := rfl
      simp only [Path.withSelf, Path.fill, List.isEmpty_nil, if_true, Segment.withSelfEach, none,
        List.nil_append, nextName_namingFirst, nextName_withSelfEach, fillEach_namingFirst,
        Ty.fill_withSelf self own, Segment.fillEach_withSelf self rest]
    | cons s ss =>
      have inTrait := Segment.fillEach_withSelf self (s :: ss)
      have next (names : List Ident) :
          nextName (namingFirst self (Segment.withSelfEach self (s :: ss)) ++
            Segment.withSelfEach self rest) names = nextName (s :: ss ++ rest) names := by
        cases names <;> rfl
      have some : (namingFirst self (Segment.withSelfEach self (s :: ss))).isEmpty = false := rfl
      simp only [Path.withSelf, Path.fill, List.isEmpty_cons, Bool.false_eq_true, if_false, next,
        some, fillEach_namingFirst, inTrait, Ty.fill_withSelf self own,
        Segment.fillEach_withSelf self rest]

theorem Segment.fill_withSelf (self : Ident) :
    ∀ (s : Segment) (names : List Ident), (s.withSelf self).fill names = s.fill names
  | .plain _, _ => rfl
  | .generic _ _ args _, names => by
    simp only [Segment.withSelf, Segment.fill, Argument.fillEach_withSelf self args]

theorem Segment.fillEach_withSelf (self : Ident) :
    ∀ (ss : List Segment) (names : List Ident),
      Segment.fillEach (Segment.withSelfEach self ss) names = Segment.fillEach ss names
  | [], _ => rfl
  | s :: ss, names => by
    simp only [Segment.withSelfEach, Segment.fillEach, Segment.fill_withSelf self s,
      Segment.fillEach_withSelf self ss]

theorem Argument.fill_withSelf (self : Ident) :
    ∀ (a : Argument) (names : List Ident), (a.withSelf self).fill names = a.fill names
  | .lifetime _, _ => rfl
  | .type t, names => by simp only [Argument.withSelf, Argument.fill, Ty.fill_withSelf self t]
  | .other code, names => by
    simp only [Argument.withSelf, Argument.fill, Fragment.fillAll_withSelf self code]

theorem Argument.fillEach_withSelf (self : Ident) :
    ∀ (as : List Argument) (names : List Ident),
      Argument.fillEach (Argument.withSelfEach self as) names = Argument.fillEach as names
  | [], _ => rfl
  | a :: as, names => by
    simp only [Argument.withSelfEach, Argument.fillEach, Argument.fill_withSelf self a,
      Argument.fillEach_withSelf self as]

theorem Fragment.fill_withSelf (self : Ident) :
    ∀ (f : Fragment) (names : List Ident), (f.withSelf self).fill names = f.fill names
  | .tree _, _ | .skipped _, _ => rfl
  | .group _ _ _ body, names => by
    simp only [Fragment.withSelf, Fragment.fill, Fragment.fillAll_withSelf self body]
  | .path p, names => by
    simp only [Fragment.withSelf, Fragment.fill, Path.fill_withSelf self p]
  | .type t, names => by simp only [Fragment.withSelf, Fragment.fill, Ty.fill_withSelf self t]

theorem Fragment.fillAll_withSelf (self : Ident) :
    ∀ (fs : List Fragment) (names : List Ident),
      Fragment.fillAll (Fragment.withSelfAll self fs) names = Fragment.fillAll fs names
  | [], _ => rfl
  | f :: fs, names => by
    simp only [Fragment.withSelfAll, Fragment.fillAll, Fragment.fill_withSelf self f,
      Fragment.fillAll_withSelf self fs]

end

/-- What naming `Self` changes in a type, and what it leaves. -/
theorem Ty.namedAfter_withSelf (self : Ident) (t : Ty) :
    Ty.NamedAfter self t (t.withSelf self) where
  roots := Ty.roots_withSelf self t
  rest := by rw [← Ty.fill_withSelf self t, Ty.fill_roots]
  free other := by
    rw [← Bool.not_eq_true, Ty.mentionsSelf_iff, Ty.roots_withSelf]
    rintro ⟨_, hi, same⟩
    obtain ⟨i, -, rfl⟩ := List.mem_map.1 hi
    unfold Ident.orSelf at same
    split at same
    · exact other same
    · next unlike => exact unlike same

/-! ## Recorded types -/

theorem FnHead.types_of_arguments? {self : Ident} {n : Nat} {inputs : List FnInput}
    {args : List (Ident × Ty)} (h : arguments? self n inputs = some args) :
    args.map (·.2) = (inputs.filterMap FnInput.type?).map (Ty.withSelf self) := by
  induction inputs generalizing n args with
  | nil =>
    cases h
    rfl
  | cons input inputs ih =>
    cases input with
    | self i => cases h
    | typed attributes pattern type =>
      rw [arguments?] at h
      split at h
      · cases h
      · obtain ⟨more, found, rfl⟩ := Option.map_eq_some_iff.1 h
        rw [List.map_cons, ih found]
        rfl

theorem FnHead.type_of_output? {self : Ident} {h : FnHead} {output : Option Ty}
    (found : h.output? self = some output) :
    output = (h.output.filter (!·.isUnit)).map (Ty.withSelf self) := by
  unfold output? at found
  split at found
  · next none =>
    cases found
    rw [none]
    rfl
  · next t some =>
    rw [some, Option.filter_some]
    split at found
    · next unit =>
      cases found
      rw [if_neg (by simp [unit])]
      rfl
    · next value =>
      split at found
      · cases found
      · cases found
        rw [if_pos (by simp [value])]
        rfl

/-- The types of a signature are the declared ones with `Self` named. -/
theorem FnHead.types_of_signature? {self : Ident} {h : FnHead} {s : Signature}
    (found : h.signature? self = some s) :
    s.inputs = (h.inputs.tail.filterMap FnInput.type?).map (Ty.withSelf self) ∧
      s.output = (h.output.filter (!·.isUnit)).map (Ty.withSelf self) := by
  rw [signature?] at found
  split at found
  · obtain ⟨receiver, -, found⟩ := Option.bind_eq_some_iff.1 found
    obtain ⟨args, hargs, found⟩ := Option.bind_eq_some_iff.1 found
    obtain ⟨output, houtput, rfl⟩ := Option.map_eq_some_iff.1 found
    exact ⟨types_of_arguments? hargs, type_of_output? houtput⟩
  · cases found

/-- The types of what the items contribute are the declared ones with `Self` named. -/
theorem Contributed.declared {items : List Item} {name : String} {k : Key} {s : Signature}
    (h : Contributed items name (k, s)) :
    ∃ self inputs output, self.name = name ∧ Declared items self k s inputs output ∧
      s.inputs = inputs.map (Ty.withSelf self) ∧ s.output = output.map (Ty.withSelf self) := by
  rcases h.registers with ⟨d, f, item, owner, hf, registers⟩ | ⟨i, m, self, item, own, owner, hm,
    registers⟩
  · rcases registers.signature_cases with ⟨ident, ⟨shape, rfl⟩ | ⟨shape, rfl⟩⟩
    · exact ⟨_, _, _, owner, .read item rfl hf registers shape, rfl, rfl⟩
    · exact ⟨_, _, _, owner, .write item rfl hf registers shape, rfl, rfl⟩
  · obtain ⟨inputs, output⟩ := FnHead.types_of_signature? registers.signature_eq
    exact ⟨_, _, _, owner, .method item own hm registers, inputs, output⟩

/-- In the tables of a module the types of every member are those that were declared for it, named
after its type: at any depth, `Self` in front of a path is replaced by the name of the type, nothing
else is changed, and `Self` is not mentioned any more. -/
theorem collect_namedAfter {items kept : List Item} {c : Catalogue}
    (collected : collect items = .ok (c, kept)) :
    ∀ d ∈ c.types, ∀ e ∈ d.2.table, ∃ self inputs output, self.name = d.1 ∧
      Declared items self e.1 e.2 inputs output ∧
      List.Forall₂ (Ty.NamedAfter self) inputs e.2.inputs ∧
      Option.Rel (Ty.NamedAfter self) output e.2.output := by
  intro d hd e he
  obtain ⟨self, inputs, output, named, declared, hinputs, houtput⟩ :=
    ((collect_contributed collected d hd).2 e he).declared
  refine ⟨self, inputs, output, named, declared, ?_, ?_⟩
  · rw [hinputs, List.forall₂_map_right_iff, List.forall₂_same]
    exact fun t _ => Ty.namedAfter_withSelf self t
  · rw [houtput]
    cases output with
    | none => exact .none
    | some t => exact .some (Ty.namedAfter_withSelf self t)

/-- What members give, as it is displayed, with the names of their types. -/
def Catalogue.outputs (c : Catalogue) : List (String × String) :=
  c.types.flatMap fun d => d.2.table.filterMap fun e =>
    e.2.output.map fun t => (d.1, t.display)

theorem exists_of_outputs (items : List Item) (name text : String)
    (h : (collect items).toOption.map (fun r => r.1.outputs) = some [(name, text)]) :
    ∃ c kept d e t, collect items = .ok (c, kept) ∧ d ∈ c.types ∧ e ∈ d.2.table ∧ d.1 = name ∧
      e.2.output = some t ∧ t.display = text := by
  obtain ⟨⟨c, kept⟩, collected, outputs⟩ := exists_ok_of_toOption h
  have listed : (name, text) ∈ c.outputs := by
    rw [show c.outputs = [(name, text)] from outputs]
    exact List.mem_cons_self
  obtain ⟨d, hd, listed⟩ := List.mem_flatMap.1 listed
  obtain ⟨e, he, output⟩ := List.mem_filterMap.1 listed
  obtain ⟨t, some, same⟩ := Option.map_eq_some_iff.1 output
  cases same
  exact ⟨c, kept, d, e, t, collected, hd, he, rfl, some, rfl⟩

/-- An array of values of the own type, as long as a constant of it says. -/
def ownArray : Ty :=
  .array none (.ofName "Self")
    [.path (.plain none [.plain (.generated "Self"), .plain (.generated "LEN")])]

theorem collect_namedAfter_ownArray :
    ∃ c kept d e t, collect [openStruct "A" [openField "cells" ownArray]] = .ok (c, kept) ∧
      d ∈ c.types ∧ e ∈ d.2.table ∧ e.2.output = some t ∧ t.display = "[A ; A :: LEN]" ∧
      t.mentionsSelf = false := by
  obtain ⟨c, kept, d, e, t, collected, hd, he, own, output, shown⟩ :=
    exists_of_outputs [openStruct "A" [openField "cells" ownArray]] "A" "[A ; A :: LEN]"
      (by decide +kernel)
  obtain ⟨self, -, declared, named, -, -, after⟩ := collect_namedAfter collected d hd e he
  rw [output] at after
  cases after with
  | some after =>
    refine ⟨c, kept, d, e, t, collected, hd, he, output, shown, after.free ?_⟩
    rw [named, own]
    decide

/-- An object that is held like a pointer and converts into values of the own type. It is kept as
it is written. -/
def ownObject : Ty :=
  .unparsed [.word "dyn" none, .punct '*' false none, .word "Into" none, .punct '<' false none,
    .word "Self" none, .punct '>' false none]

/-- What is recorded for a type that is kept as it is written still speaks of `Self`. -/
theorem unparsed_keeps_self :
    ∃ c kept d e t, collect [openStruct "A" [openField "cells" ownObject]] = .ok (c, kept) ∧
      d ∈ c.types ∧ e ∈ d.2.table ∧ d.1 = "A" ∧ e.2.output = some t ∧
      t.display = "dyn * Into < Self >" :=
  exists_of_outputs _ _ _ (by decide +kernel)

end SharedMembers
