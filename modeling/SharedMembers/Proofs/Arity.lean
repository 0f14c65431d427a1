import SharedMembers.Proofs.Conversion

/-!
# The number of arguments

How many arguments a member takes is told by its shape, and every signature under its key takes that
many, with a name for each. So the places of the first subtype's arguments are places on all
subtypes, and wherever names, slots and types are put side by side none is left over.

* `Shape.Takes`: how many arguments members of a shape take.
* `inShape_of_fits`: signatures that fit their keys take that many.
* `inRange_of_fits`: no place is missing on a subtype.
* `aligned_of_fits`: nothing is dropped where arguments are put side by side.
* `collect_arity`: all of this for the members of a module.
-/

namespace SharedMembers

/-! ## What is promised -/

/-- Members of the shape take so many arguments. A call takes at least one. -/
def Shape.Takes : Shape → Nat → Prop
  | .read, n => n = 0
  | .write, n => n = 1
  | .call k, n => n = k ∧ 1 ≤ k

/-- The signature takes as many arguments as the shape of the key says, and has a name for each. -/
structure Signature.InShape (k : Key) (s : Signature) : Prop where
  inputs : k.shape.Takes s.inputs.length
  names : s.names.length = s.inputs.length

/-- In each place of the first signature's arguments every signature has one, and the types that are
declared there are all of those. -/
def InRange (ss : List Signature) : Prop :=
  ∀ n < (ss.head?.map (·.inputs.length)).getD 0, ∃ types,
    ss.mapM (·.inputs[n]?) = some types ∧ declaredTypes ss n = distinct types

/-- Names, slots and the types of a subtype can be put side by side without loss: they are found
again in the pairs. -/
structure Aligned (names : List Ident) (slots : List Slot) (types : List Ty) : Prop where
  parameters : (names.zip slots).unzip = (names, slots)
  arguments : ((names.zip slots).zip types).unzip = (names.zip slots, types)

/-! ## Signatures -/

/-- A signature that fits its key takes as many arguments as the shape says. -/
theorem inShape_of_fits {k : Key} {s : Signature} (fits : s.Fits k) : s.InShape k where
  inputs := by
    obtain ⟨name, shape⟩ := k
    have inputs := fits.inputs
    cases shape with
    | read => exact inputs
    | write => exact inputs
    | call n =>
      refine ⟨inputs, Nat.one_le_iff_ne_zero.2 fun nothing => ?_⟩
      cases fits.read nothing
  names := fits.names.trans fits.inputs.symm

/-- If all signatures have an argument in the place, no type is passed over. -/
theorem mapM_getElem?_of_lt {ss : List Signature} {n : Nat}
    (long : ∀ s ∈ ss, n < s.inputs.length) :
    ss.mapM (·.inputs[n]?) = some (ss.filterMap (·.inputs[n]?)) := by
  induction ss with
  | nil => rfl
  | cons s ss ih =>
    rw [List.forall_mem_cons] at long
    have here : s.inputs[n]? = some s.inputs[n] := List.getElem?_eq_getElem long.1
    rw [List.mapM_cons, ih long.2, List.filterMap_cons, here]
    rfl

/-- Signatures that fit one key have their arguments in the same places. -/
theorem inRange_of_fits {k : Key} {ss : List Signature} (fits : ∀ s ∈ ss, s.Fits k) :
    InRange ss := by
  intro n hn
  refine ⟨_, mapM_getElem?_of_lt fun s hs => ?_, rfl⟩
  obtain ⟨first, rest, rfl⟩ := List.exists_cons_of_ne_nil (List.ne_nil_of_mem hs)
  have hn : n < first.inputs.length := hn
  rwa [(fits s hs).inputs, ← (fits first List.mem_cons_self).inputs]

/-! ## Arguments side by side -/

theorem aligned_of_length_eq {names : List Ident} {slots : List Slot} {types : List Ty}
    (hnames : names.length = types.length) (hslots : slots.length = types.length) :
    Aligned names slots types where
  parameters := List.unzip_zip (hnames.trans hslots.symm)
  arguments := by
    apply List.unzip_zip
    rw [List.length_zip, hnames, hslots, Nat.min_self]

/-- There is a name for each slot. -/
theorem length_names_eq_slots {k : Key} {ss : List Signature} {slots : List Slot}
    (fits : ∀ s ∈ ss, s.Fits k) (h : argumentSlots ss = .ok slots) :
    (argumentNames ss).length = slots.length := by
  by_cases nonempty : ss = []
  · subst nonempty
    cases h
    rfl
  · have arity : ∀ s ∈ ss, s.inputs.length = k.shape.inputs := fun s hs => (fits s hs).inputs
    rw [length_argumentNames nonempty fits, (argumentSlots_spec nonempty arity h).1]

/-- Signatures that fit one key are put beside the names and slots without loss. -/
theorem aligned_of_fits {k : Key} {ss : List Signature} {slots : List Slot} {s : Signature}
    (fits : ∀ s ∈ ss, s.Fits k) (h : argumentSlots ss = .ok slots) (hs : s ∈ ss) :
    Aligned (argumentNames ss) slots s.inputs := by
  have nonempty := List.ne_nil_of_mem hs
  have arity : ∀ s ∈ ss, s.inputs.length = k.shape.inputs := fun s hs => (fits s hs).inputs
  apply aligned_of_length_eq
  · rw [length_argumentNames nonempty fits, arity s hs]
  · rw [(argumentSlots_spec nonempty arity h).1, arity s hs]

/-! ## Modules -/

/-- In the tables of a module every signature takes as many arguments as its shape says. Where a
member resolves on given types, all arguments have places; and wherever the names, the slots and a
subtype's types are put side by side, for the parameters of an accessor or for an arm, none is
dropped. -/
theorem collect_arity {items kept : List Item} {c : Catalogue}
    (h : collect items = .ok (c, kept)) :
    (∀ d ∈ c.types, ∀ e ∈ d.2.table, e.2.InShape e.1) ∧
    (∀ (types : List Ty) (k : Key) (ss : List Signature),
      resolveAll (types.map c.table?) k = some ss → InRange ss ∧
        ∀ slots, argumentSlots ss = .ok slots →
          ((argumentNames ss).zip slots).unzip = (argumentNames ss, slots) ∧
            ∀ s ∈ ss, Aligned (argumentNames ss) slots s.inputs) ∧
    ∀ (r : Registry) (w : Wrapper) (f : Forwarding), r.forward c w = .ok f →
      ∀ a ∈ f.accessors, (a.names.zip a.slots).unzip = (a.names, a.slots) ∧
        ∀ arm ∈ a.arms, Aligned a.names a.slots arm.2.inputs := by
  have fits : c.Fits := collect_fits h
  refine ⟨fun d hd e he => inShape_of_fits (fits d hd e he), ?_, ?_⟩
  · intro types k ss resolved
    have each := fits_of_provided fits (resolveAll_eq_some_iff_provides.1 resolved)
    refine ⟨inRange_of_fits each, fun slots hslots => ⟨?_, fun s hs => ?_⟩⟩
    · exact List.unzip_zip (length_names_eq_slots each hslots)
    · exact aligned_of_fits each hslots hs
  · intro r w f ok a ha
    obtain @⟨k, ss, p, _, _, output, provided, plan, -, -, -⟩ := (made_of_forward ok).2 a ha
    have each := fits_of_provided fits provided
    show (p.names.zip p.slots).unzip = (p.names, p.slots) ∧
      ∀ arm ∈ (w.variants.map (·.1)).zip ss, Aligned p.names p.slots arm.2.inputs
    rw [plan.names]
    constructor
    · exact List.unzip_zip (length_names_eq_slots each plan.slots)
    · intro arm harm
      exact aligned_of_fits each plan.slots (List.of_mem_zip harm).2

/-- Two structs with a method of the name that takes two arguments, of types in another order. -/
def scaled (method : String) : List Item :=
  [openStruct "Gauge" [], openStruct "Dial" [],
    openMethod "Gauge" method [.ofName "u8", .ofName "u16"] none,
    openMethod "Dial" method [.ofName "u16", .ofName "u8"] none]

theorem collect_arity_scaled :
    ∃ c kept ss slots, collect (scaled "scale") = .ok (c, kept) ∧
      resolveAll (["Gauge", "Dial"].map fun t => c.table? (.ofName t)) ⟨"scale", .call 2⟩ =
        some ss ∧
      argumentSlots ss = .ok slots ∧ ss.length = 2 ∧ slots.length = 2 ∧
      (∀ d ∈ c.types, ∀ e ∈ d.2.table, e.2.InShape e.1) ∧ InRange ss ∧
      ((argumentNames ss).zip slots).unzip = (argumentNames ss, slots) ∧
      ∀ s ∈ ss, Aligned (argumentNames ss) slots s.inputs := by
  obtain ⟨⟨c, kept⟩, h, seen⟩ := exists_ok_of_toOption (x := collect (scaled "scale"))
    (f := fun r =>
      (resolveAll (["Gauge", "Dial"].map fun t => r.1.table? (.ofName t))
        ⟨"scale", .call 2⟩).map fun ss =>
          (ss.length, (argumentSlots ss).toOption.map List.length))
    (b := some (2, some 2)) (by decide +kernel)
  obtain ⟨ss, resolved, seen⟩ := Option.map_eq_some_iff.1 seen
  obtain ⟨many, seen⟩ := Prod.mk.inj seen
  obtain ⟨slots, hslots, length⟩ := exists_ok_of_toOption seen
  obtain ⟨shapes, resolves, -⟩ := collect_arity h
  obtain ⟨inRange, aligned⟩ :=
    resolves [.ofName "Gauge", .ofName "Dial"] ⟨"scale", .call 2⟩ ss resolved
  obtain ⟨parameters, arms⟩ := aligned slots hslots
  exact ⟨c, kept, ss, slots, h, resolved, hslots, many, length, shapes, inRange, parameters, arms⟩

end SharedMembers
