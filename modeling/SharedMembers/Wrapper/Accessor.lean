import SharedMembers.Member.Catalogue
import SharedMembers.Resolution.Basic
import SharedMembers.Wrapper.Basic

/-!
# Accessors

An accessor is the method by which a wrapper forwards a member that all of its subtypes share. It
matches on the active variant; each arm uses the member of its subtype.

The model of what `synthesize` decides about one member.

* `plan`: how a member is forwarded, or what stands in the way.
* `readByReference`: a field that may not be cloned is read by reference.
* `Obstacle.message`: the words for a member that is not forwarded.
-/

namespace SharedMembers

/-- A wrapper's method that forwards a member. There is an arm for each variant with the signature
of the member on its subtype. -/
structure Accessor where
  visibility : Visibility
  key : Key
  receiver : Receiver
  names : List Ident
  slots : List Slot
  output : Option Ty
  byReference : Bool
  arms : List (Ident × Signature)

/-! ## Obstacles -/

/-- Why a member that all subtypes share is not forwarded. -/
inductive Obstacle where
  /-- The wrapper has a method of that name of its own. -/
  | reserved
  /-- Another member is forwarded under the name. -/
  | used
  | mismatch (m : Mismatch)
  /-- Reading the member would clone a field that may not be cloned. -/
  | clonesField
deriving Repr, DecidableEq

namespace Obstacle

/-- The reason in words. -/
def reason : Obstacle → String
  | reserved => "the name is used by the wrapper itself"
  | used => "another member already uses the name"
  | mismatch m => "it " ++ m.message
  | clonesField => "reading it would clone a field"

/-- The words for an accessor that is missing. -/
def message (accessor : String) (o : Obstacle) : String :=
  "`" ++ accessor ++ "` is not forwarded: " ++ o.reason

end Obstacle

/-! ## Plans -/

/-- The names of the methods that every wrapper has (`RESERVED`). -/
def reservedNames : List String := ["visit", "visit_mut"]

/-- How a member is forwarded; what it returns may still need a wrapper. -/
structure Plan where
  receiver : Receiver
  names : List Ident
  slots : List Slot
  byReference : Bool
  returns : Unified

/-- The types of the fields among the signatures. -/
def fieldTypes (signatures : List Signature) : List Ty :=
  (signatures.filter (·.target.isField)).filterMap (·.output)

/-- Whether the member is read by reference (`by_ref` of a member that is read). Fields that may not
be cloned are, but only if every subtype has a field of the same type. -/
def readByReference (c : Catalogue) (signatures : List Signature) : Except Obstacle Bool :=
  let fields := fieldTypes signatures
  if fields.all c.isClone then .ok false
  else if fields.length = signatures.length && (distinct fields).length = 1 then .ok true
  else .error .clonesField

/-- Whether a member of the shape is read by reference. Only a member that is read can be. -/
def usesReference (c : Catalogue) (shape : Shape) (signatures : List Signature) :
    Except Obstacle Bool :=
  match shape with
  | .read => readByReference c signatures
  | _ => .ok false

/-- How the member is forwarded that the subtypes provide by these signatures. -/
def plan (c : Catalogue) (used : List String) (k : Key) (signatures : List Signature) :
    Except Obstacle Plan := do
  if reservedNames.contains k.accessorName then throw .reserved
  if used.contains k.accessorName then throw .used
  let slots ← (argumentSlots signatures).mapError .mismatch
  let byReference ← usesReference c k.shape signatures
  match unify (signatures.map (·.output)) with
  | .incompatible m => throw (.mismatch m)
  | returns =>
    return ⟨receiverOf signatures, argumentNames signatures, slots, byReference, returns⟩

namespace Plan

/-- The accessor of a plan, once its output is known. -/
def accessor (p : Plan) (w : Wrapper) (k : Key) (signatures : List Signature)
    (output : Option Ty) : Accessor :=
  ⟨w.visibility, k, p.receiver, p.names, p.slots, output, p.byReference,
    (w.variants.map (·.1)).zip signatures⟩

end Plan

end SharedMembers
