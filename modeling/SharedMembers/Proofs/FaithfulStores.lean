import SharedMembers.Proofs.StoreCode
import SharedMembers.Proofs.Registration

/-!
# Stores are faithful tagged unions

A program replaces a wrapper that it holds, changes the active value in place, and tries to move it
out. What it reads at any time is the last value that was put in, with all later changes.

Results:
* `perform_eq`, `run_eq`: the code of a store does what the store of its types does.
* `act_of_put?_eq_none`: without a replacement the variant stays, and its value is changed as told.
* `foldl_act_eq`: so over any number of operations.
* `faithful_of_check`, `expand_faithful`: the stores of wrappers are faithful.
-/

namespace SharedMembers

/-! ## Operations -/

/-- What a program does with a wrapper that it holds; types are given by their variants. Values are
put in as new wrappers or by assignment, changed through a mutable reference or by a visitor, and
moved out. -/
inductive Operation (w : Wrapper) (Value : String → Type) where
  | convert (i : Fin w.variants.length) (x : Value (w.keyAt i))
  | wrap (i : Fin w.variants.length) (x : Value (w.keyAt i))
  | assign (i : Fin w.variants.length) (x : Value (w.keyAt i))
  | downcastMut (i : Fin w.variants.length) (f : Value (w.keyAt i) → Value (w.keyAt i))
  | visitMut (visitor : (key : String) → Value key → Value key)
  | tryFrom (i : Fin w.variants.length)
  | downcast (i : Fin w.variants.length)

/-- The wrapper that is handed back. -/
def handedBack {σ β : Type} : Except σ β → Option σ
  | .ok _ => none
  | .error s => some s

variable {w : Wrapper} {Value : String → Type}

namespace Operation

/-- The wrapper that an operation leaves by the code, or none once the value is moved out. Then only
a new wrapper can follow. -/
def perform (code : StoreCode) (op : Operation w Value) (held : Option (Store (w.family Value))) :
    Option (Option (Store (w.family Value))) :=
  match op, held with
  | .convert _ x, _ => (code.convert w x).map some
  | .wrap _ x, _ => (code.wrap w x).map some
  | .assign _ x, some _ => (code.wrap w x).map some
  | .downcastMut _ f, some s => (code.projectMut f s).map fun changed => some (changed.getD s)
  | .visitMut visitor, some s =>
    (code.visitMut (fun key x => ((), visitor key x)) s).map fun left => some left.2
  | .tryFrom i, some s => (code.tryFrom (w.keyAt i) s).map handedBack
  | .downcast i, some s => (code.extract (w.keyAt i) s).map handedBack
  | _, none => some none

/-- The wrapper that an operation puts in the place of what was there. -/
def put? : Operation w Value → Option (Store (w.family Value))
  | .convert i x | .wrap i x | .assign i x => some (.wrap i x)
  | _ => none

/-- The variant whose value an operation moves out. -/
def takes? : Operation w Value → Option (Fin w.variants.length)
  | .tryFrom i | .downcast i => some i
  | _ => none

/-- How an operation changes the value of a variant. -/
def change (i : Fin w.variants.length) : Operation w Value → Value (w.keyAt i) → Value (w.keyAt i)
  | .downcastMut j f => if h : j = i then h ▸ f else id
  | .visitMut visitor => visitor (w.keyAt i)
  | _ => id

/-- What an operation does to the store of a wrapper's types. -/
def act (op : Operation w Value) (held : Option (Store (w.family Value))) :
    Option (Store (w.family Value)) :=
  match op, held with
  | .convert i x, _ | .wrap i x, _ => some (.wrap i x)
  | .assign i x, some s => some (s.assign i x)
  | .downcastMut i f, some s => some ((s.modify? i f).getD s)
  | .visitMut visitor, some s => some (s.visitMut fun i x => ((), visitor (w.keyAt i) x)).2
  | .tryFrom i, some s | .downcast i, some s => handedBack (s.extract i)
  | _, none => none

end Operation

/-- The wrapper that is held after several operations. -/
def StoreCode.run (code : StoreCode) (ops : List (Operation w Value))
    (held : Option (Store (w.family Value))) : Option (Option (Store (w.family Value))) :=
  ops.foldlM (fun held op => op.perform code held) held

/-! ## What is promised -/

/-- Whatever reads the wrapper finds this variant with this value. -/
structure StoreCode.Finds (code : StoreCode) (s : Store (w.family Value))
    (i : Fin w.variants.length) (x : Value (w.keyAt i)) : Prop where
  tag : code.tag s = some ↑i
  name : code.subtypeName s = some (w.variants.get i).2.title
  project : code.project (w.keyAt i) s = some (some x)
  extract : code.extract (w.keyAt i) s = some (.ok x)
  tryFrom : code.tryFrom (w.keyAt i) s = some (.ok x)
  visit : ∀ {β : Type} (visitor : (key : String) → Value key → β),
    code.visit visitor s = some (visitor (w.keyAt i) x)
  visitMut : ∀ {β : Type} (visitor : (key : String) → Value key → β × Value key),
    (code.visitMut visitor s).map (·.1) = some (visitor (w.keyAt i) x).1

/-- The type of a variant is active iff the tag is its own, by all ways of asking. If it is not,
moving its value out hands back the wrapper as it was. -/
structure StoreCode.Selects (code : StoreCode) (s : Store (w.family Value)) (n : Nat)
    (i : Fin w.variants.length) : Prop where
  constant : code.constant (w.keyAt i) = some ↑i
  is : code.is (w.keyAt i) s = some (n == i)
  project : (code.project (w.keyAt i) s).map Option.isSome = some (n == i)
  projectMut : ∀ f : Value (w.keyAt i) → Value (w.keyAt i),
    (code.projectMut f s).map Option.isSome = some (n == i)
  extract : (code.extract (w.keyAt i) s).map Except.isOk = some (n == i)
  tryFrom : (code.tryFrom (w.keyAt i) s).map Except.isOk = some (n == i)
  returned : n ≠ i → code.extract (w.keyAt i) s = some (.error s) ∧
    code.tryFrom (w.keyAt i) s = some (.error s)

/-- The code of a wrapper's store is that of a tagged union.
* `tagged`: the tag is the place of a title, and says which type is active.
* `holds`, `made`: some variant's value is found, in a new wrapper the one that it is made from.
* `runs`, `moved`: all operations can be done, and the wrapper is gone only once its value is taken.
* `keeps`, `changes`: without replacements the tag stays, and the value is the one that the changes
  give in their order.
* `last`: the last replacement decides on both. -/
structure Wrapper.Faithful (w : Wrapper) (Value : String → Type) : Prop where
  tagged : ∀ s : Store (w.family Value), ∃ n, w.storeCode.tag s = some n ∧
    n < w.storeCode.titles.length ∧ ∀ i, w.storeCode.Selects s n i
  holds : ∀ s : Store (w.family Value), ∃ i x, w.storeCode.Finds s i x
  made : ∀ i (x : Value (w.keyAt i)), ∃ s, w.storeCode.convert w x = some s ∧
    w.storeCode.wrap w x = some s ∧ w.storeCode.Finds s i x
  runs : ∀ (ops : List (Operation w Value)) held, ∃ held', w.storeCode.run ops held = some held'
  moved : ∀ (op : Operation w Value) s, op.perform w.storeCode (some s) = some none ↔
    ∃ i, op.takes? = some i ∧ w.storeCode.tag s = some ↑i
  keeps : ∀ (ops : List (Operation w Value)) s t, (∀ op ∈ ops, op.put? = none) →
    w.storeCode.run ops (some s) = some (some t) → w.storeCode.tag t = w.storeCode.tag s
  changes : ∀ (ops : List (Operation w Value)) s t i x, (∀ op ∈ ops, op.put? = none) →
    w.storeCode.Finds s i x → w.storeCode.run ops (some s) = some (some t) →
    w.storeCode.Finds t i (ops.foldl (fun x op => op.change i x) x)
  last : ∀ (before : List (Operation w Value)) op later held i x t,
    op.put? = some (.wrap i x) → (∀ op ∈ later, op.put? = none) →
    w.storeCode.run (before ++ op :: later) held = some (some t) →
    w.storeCode.Finds t i (later.foldl (fun x op => op.change i x) x)

/-! ## One operation -/

/-- What an operation puts in is held then; only an assignment needs something that is held. -/
theorem act_of_put?_eq_some {op : Operation w Value} {s : Store (w.family Value)}
    (h : op.put? = some s) (held : Option (Store (w.family Value))) :
    op.act held = some s ∨ held = none ∧ op.act held = none := by
  cases op with
  | convert i x => exact .inl h
  | wrap i x => exact .inl h
  | assign i x =>
    cases held with
    | none => exact .inr ⟨rfl, rfl⟩
    | some t => exact .inl h
  | downcastMut i f => cases h
  | visitMut visitor => cases h
  | tryFrom i => cases h
  | downcast i => cases h

theorem takes?_of_put?_eq_some {op : Operation w Value} {s : Store (w.family Value)}
    (h : op.put? = some s) : op.takes? = none := by
  cases op with
  | tryFrom i => cases h
  | downcast i => cases h
  | _ => rfl

theorem handedBack_extract (s : Store (w.family Value)) (i : Fin w.variants.length) :
    handedBack (s.extract i) = if s.kind = i then none else some s := by
  split
  · next same =>
    subst same
    exact congrArg handedBack (Store.extract_wrap s.kind s.value)
  · next other => rw [Store.extract_eq_error.2 ⟨other, rfl⟩, handedBack]

theorem getD_modify? (s : Store (w.family Value)) (i : Fin w.variants.length)
    (f : Value (w.keyAt i) → Value (w.keyAt i)) :
    (s.modify? i f).getD s = .wrap s.kind ((Operation.downcastMut i f).change s.kind s.value) := by
  rw [Store.modify?, Store.project?, Operation.change]
  by_cases same : s.kind = i
  · subst same
    rw [dif_pos rfl, dif_pos rfl]
    rfl
  · rw [dif_neg same, dif_neg (Ne.symm same)]
    rfl

/-- Without a replacement, the value of the active variant is moved out or changed. -/
theorem act_of_put?_eq_none {op : Operation w Value} (h : op.put? = none)
    (s : Store (w.family Value)) :
    op.act (some s) =
      if op.takes? = some s.kind then none else some (.wrap s.kind (op.change s.kind s.value)) := by
  have taken (i : Fin w.variants.length) : handedBack (s.extract i) =
      if some i = some s.kind then none else some (.wrap s.kind s.value) := by
    rw [handedBack_extract]
    exact if_congr (by rw [Option.some.injEq, eq_comm]) rfl rfl
  cases op with
  | convert i x => cases h
  | wrap i x => cases h
  | assign i x => cases h
  | downcastMut i f => exact congrArg some (getD_modify? s i f)
  | visitMut visitor => rfl
  | tryFrom i => exact taken i
  | downcast i => exact taken i

theorem act_none {op : Operation w Value} (h : op.put? = none) : op.act none = none := by
  cases op with
  | convert i x => cases h
  | wrap i x => cases h
  | _ => rfl

/-- The code does what the store does. -/
theorem perform_eq (h : w.WellFormed) (op : Operation w Value)
    (held : Option (Store (w.family Value))) :
    op.perform w.storeCode held = some (op.act held) := by
  cases op with
  | convert i x => rw [Operation.perform, convert_storeCode h, Operation.act, Option.map_some]
  | wrap i x => rw [Operation.perform, wrap_storeCode h, Operation.act, Option.map_some]
  | assign i x =>
    cases held with
    | none => rfl
    | some s => rw [Operation.perform, wrap_storeCode h, Operation.act, Option.map_some]; rfl
  | downcastMut i f =>
    cases held with
    | none => rfl
    | some s => rw [Operation.perform, projectMut_storeCode h, Operation.act, Option.map_some]
  | visitMut visitor =>
    cases held with
    | none => rfl
    | some s => rw [Operation.perform, visitMut_storeCode h, Operation.act, Option.map_some]
  | tryFrom i =>
    cases held with
    | none => rfl
    | some s => rw [Operation.perform, tryFrom_storeCode h, Operation.act, Option.map_some]
  | downcast i =>
    cases held with
    | none => rfl
    | some s => rw [Operation.perform, extract_storeCode h, Operation.act, Option.map_some]

/-! ## Many operations -/

theorem run_eq (h : w.WellFormed) (ops : List (Operation w Value))
    (held : Option (Store (w.family Value))) :
    w.storeCode.run ops held = some (ops.foldl (fun held op => op.act held) held) := by
  induction ops generalizing held with
  | nil => rfl
  | cons op ops ih =>
    rw [StoreCode.run, List.foldlM_cons, perform_eq h, Option.bind_eq_bind, Option.bind_some]
    exact ih (op.act held)

theorem foldl_act_none {ops : List (Operation w Value)} (h : ∀ op ∈ ops, op.put? = none) :
    ops.foldl (fun held op => op.act held) none = none := by
  induction ops with
  | nil => rfl
  | cons op ops ih =>
    rw [List.foldl_cons, act_none (h op List.mem_cons_self)]
    exact ih fun op hop => h op (List.mem_cons_of_mem _ hop)

/-- Without replacements, a value that is not moved out is changed in the order of the operations. -/
theorem foldl_act_eq {ops : List (Operation w Value)} (h : ∀ op ∈ ops, op.put? = none)
    {i : Fin w.variants.length} {x : Value (w.keyAt i)} {t : Store (w.family Value)}
    (left : ops.foldl (fun held op => op.act held) (some (.wrap i x)) = some t) :
    t = .wrap i (ops.foldl (fun x op => op.change i x) x) := by
  induction ops generalizing x with
  | nil => exact (Option.some.inj left).symm
  | cons op ops ih =>
    have rest : ∀ op ∈ ops, op.put? = none := fun op hop => h op (List.mem_cons_of_mem _ hop)
    rw [List.foldl_cons] at left ⊢
    rw [act_of_put?_eq_none (h op List.mem_cons_self)] at left
    split at left
    · rw [foldl_act_none rest] at left
      cases left
    · exact ih rest left

/-! ## Wrappers without repetitions -/

/-- A wrapper holds a value of a variant iff this is what is found. -/
theorem finds_iff (h : w.WellFormed) {s : Store (w.family Value)} {i : Fin w.variants.length}
    {x : Value (w.keyAt i)} : w.storeCode.Finds s i x ↔ s = .wrap i x := by
  constructor
  · intro found
    have projected := found.project
    rw [project_storeCode h] at projected
    exact Store.project?_eq_some.1 (Option.some.inj projected)
  · rintro rfl
    constructor
    · rw [tag_storeCode h, tag_eq_kind]
      rfl
    · rw [subtypeName_storeCode h]
      rfl
    · rw [project_storeCode h, Store.project?_wrap]
    · rw [extract_storeCode h, Store.extract_wrap]
    · rw [tryFrom_storeCode h, Store.extract_wrap]
    · intro β visitor
      rw [visit_storeCode h]
      rfl
    · intro β visitor
      rw [visitMut_storeCode h]
      rfl

/-- The tag of the active variant selects its type. -/
theorem selects_kind (h : w.WellFormed) (s : Store (w.family Value))
    (i : Fin w.variants.length) : w.storeCode.Selects s s.kind i := by
  have active (b : Bool) (chosen : b = true ↔ s.kind = i) : b = ((s.kind : Nat) == i) := by
    rw [Bool.eq_iff_iff, chosen, beq_iff_eq, Fin.ext_iff]
  have moved : (s.extract i).isOk = true ↔ s.kind = i := by
    rw [← Store.isSome_project?, Store.extract]
    cases s.project? i <;> simp [Except.isOk, Except.toBool]
  constructor
  · exact constant_storeCode h i
  · rw [is_storeCode h, active _ Store.is_iff]
  · rw [project_storeCode h, Option.map_some, active _ Store.isSome_project?]
  · intro f
    rw [projectMut_storeCode h, Option.map_some, active _ Store.isSome_modify?]
  · rw [extract_storeCode h, Option.map_some, active _ moved]
  · rw [tryFrom_storeCode h, Option.map_some, active _ moved]
  · intro other
    have back := Store.extract_eq_error.2 ⟨fun same => other (congrArg Fin.val same), rfl⟩
    rw [extract_storeCode h, tryFrom_storeCode h, back]
    exact ⟨rfl, rfl⟩

theorem faithful_of_wellFormed (h : w.WellFormed) : w.Faithful Value where
  tagged s := by
    refine ⟨s.kind, ?_, ?_, selects_kind h s⟩
    · rw [tag_storeCode h, tag_eq_kind]
    · rw [titles_storeCode Value, ← tag_eq_kind s]
      exact s.tag_lt
  holds s := ⟨s.kind, s.value, (finds_iff h).2 rfl⟩
  made i x := ⟨.wrap i x, convert_storeCode h i x, wrap_storeCode h i x, (finds_iff h).2 rfl⟩
  runs ops held := ⟨_, run_eq h ops held⟩
  moved op s := by
    rw [perform_eq h, tag_storeCode h, tag_eq_kind]
    cases put : op.put? with
    | none =>
      rw [act_of_put?_eq_none put]
      constructor
      · intro gone
        split at gone
        · next taken => exact ⟨s.kind, taken, rfl⟩
        · cases gone
      · rintro ⟨i, taken, active⟩
        rw [taken, if_pos (congrArg some (Fin.ext (Option.some.inj active).symm))]
    | some t =>
      rw [takes?_of_put?_eq_some put]
      rcases act_of_put?_eq_some put (some s) with new | ⟨missing, -⟩
      · simp [new]
      · cases missing
  keeps ops s t unreplaced left := by
    rw [run_eq h] at left
    have kept := foldl_act_eq unreplaced (i := s.kind) (x := s.value) (Option.some.inj left)
    rw [tag_storeCode h, tag_storeCode h, kept]
    rfl
  changes ops s t i x unreplaced found left := by
    rw [run_eq h, (finds_iff h).1 found] at left
    exact (finds_iff h).2 (foldl_act_eq unreplaced (Option.some.inj left))
  last before op later held i x t put unreplaced left := by
    rw [run_eq h, List.foldl_append, List.foldl_cons] at left
    rcases act_of_put?_eq_some put (before.foldl (fun held op => op.act held) held) with new | none
    · rw [new] at left
      exact (finds_iff h).2 (foldl_act_eq unreplaced (Option.some.inj left))
    · rw [none.2, foldl_act_none unreplaced] at left
      cases left

/-- The store of every wrapper that passes the check is faithful. -/
theorem faithful_of_check {w : Wrapper} (h : w.check = .ok ()) (Value : String → Type) :
    w.Faithful Value :=
  faithful_of_wellFormed (wellFormed_of_check h)

/-- A wrapper over two types with variants of other names. -/
def shapes : Wrapper :=
  ⟨.generated "Shape", .inherited, [],
    [(.generated "Sharp", .ofName "Square"), (.generated "Round", .ofName "Circle")], [], none⟩

theorem check_shapes : shapes.check = .ok () := by
  have none : Wrapper.heldTwice? [] shapes.variants = none ∧
      Wrapper.namedTwice? [] shapes.variants = none := by decide +kernel
  rw [Wrapper.check, none.1, none.2]

theorem faithful_of_check_shapes :
    shapes.check = .ok () ∧ shapes.Faithful fun key => if key = "Square" then Int × Int else Nat :=
  ⟨check_shapes, faithful_of_check check_shapes _⟩

/-- So are the stores of all wrappers of a module that expands. -/
theorem expand_faithful {m : Module} {library : Path} {e : Expansion}
    (h : m.expand library = .ok e) {g : Registry.Forwarded} (hg : g ∈ e.wrappers)
    (Value : String → Type) : g.wrapper.Faithful Value := by
  obtain ⟨c, kept, start, last, -, -, -, emitted, orderly⟩ := expand_orderly h
  have held : g.wrapper ∈ last.wrappers := emitted ▸ List.mem_map_of_mem hg
  exact faithful_of_wellFormed (orderly.wellFormed _ held)

end SharedMembers
