import SharedMembers.Member.Table
import SharedMembers.Unification.Basic

/-!
# Resolution

A member can be forwarded if every subtype has it. What the subtypes' signatures have in common
decides how the wrapper's method is called.

The model of `resolve_all`, `argument_slots`, `receiver_of` and `argument_names`.

* `resolveAll`: the signatures of all subtypes.
* `argumentSlots`: what the method takes.
* `receiverOf`, `argumentNames`: how it takes its own value, and what its arguments are called.
* `resolveAll_eq_some_iff`, `rank_le_receiverOf`: every subtype has the member, and the receiver
  is strong enough for each of them.
-/

namespace SharedMembers

/-- The signatures of a member on all subtypes; none if one of them lacks it (`resolve_all` with
`try_resolve`). A subtype without a table lacks every member. -/
def resolveAll (subtypes : List (Option Table)) (k : Key) : Option (List Signature) :=
  subtypes.mapM fun t => t.bind (·.get? k)

theorem resolveAll_eq_some_iff {subtypes : List (Option Table)} {k : Key} {ss : List Signature} :
    resolveAll subtypes k = some ss ↔
      subtypes.map (fun t => t.bind (·.get? k)) = ss.map some := by
  unfold resolveAll
  induction subtypes generalizing ss with
  | nil => cases ss <;> simp
  | cons t ts ih =>
    rw [List.mapM_cons]
    cases h : t.bind (·.get? k) with
    | none => cases ss <;> simp [h]
    | some s =>
      cases ss with
      | nil => simp [Option.bind_eq_some_iff]
      | cons s' ss =>
        simp only [List.map_cons, List.cons.injEq, h, Option.some.injEq, ← ih]
        cases hts : ts.mapM fun t => t.bind (·.get? k) <;> simp [eq_comm]

/-! ## Arguments -/

/-- What the wrapper's method takes in one place (`ArgSlot`). -/
inductive Slot where
  /-- Anything that converts into all of these types. -/
  | convertible (parameter : Ident) (bounds : List Ty)
  /-- Exactly this type, which is borrowed. -/
  | exact (type : Ty)

namespace Slot

/-- The type of the argument. -/
def type : Slot → Ty
  | convertible parameter _ => .ofIdent parameter
  | exact t => t

end Slot

/-- The name of the type parameter for the `n`th argument. -/
def parameterName (n : Nat) : String :=
  "__SuperstructArg" ++ toString n

/-- What the wrapper's method takes in the `n`th place, where the subtypes declare these types. A
borrowed type cannot be converted into another one. -/
def slotFor (n : Nat) (types : List Ty) : Except Mismatch Slot :=
  if types.any Ty.borrows then
    match types with
    | [t] => .ok (.exact t)
    | _ => .error .borrowedArguments
  else .ok (.convertible (.generated (parameterName n)) types)

/-- The types that the subtypes declare in the `n`th place, each once. -/
def declaredTypes (signatures : List Signature) (n : Nat) : List Ty :=
  distinct (signatures.filterMap (·.inputs[n]?))

/-- What the wrapper's method takes: as many arguments as the first subtype's (`argument_slots`). -/
def argumentSlots (signatures : List Signature) : Except Mismatch (List Slot) :=
  let arity := (signatures.head?.map (·.inputs.length)).getD 0
  (List.range arity).mapM fun n => slotFor n (declaredTypes signatures n)

/-! ## Receiver and names -/

/-- The strongest receiver that any subtype needs (`receiver_of`). -/
def receiverOf (signatures : List Signature) : Receiver :=
  signatures.foldr (fun s r => s.receiver.max r) .shared

theorem rank_le_receiverOf {signatures : List Signature} {s : Signature} (h : s ∈ signatures) :
    s.receiver.rank ≤ (receiverOf signatures).rank := by
  induction signatures with
  | nil => simp at h
  | cons t ts ih =>
    have step : (receiverOf (t :: ts)).rank = Nat.max t.receiver.rank (receiverOf ts).rank := by
      simp [receiverOf, Receiver.rank_max]
    rw [step]
    rcases List.mem_cons.1 h with rfl | h
    · exact Nat.le_max_left _ _
    · exact Nat.le_trans (ih h) (Nat.le_max_right _ _)

/-- What the arguments are called: as on the first subtype (`argument_names`). -/
def argumentNames (signatures : List Signature) : List Ident :=
  (signatures.head?.map (·.names)).getD []

end SharedMembers
