import SharedMembers.Emission.Accessor
import SharedMembers.Emission.Store
import SharedMembers.Proofs.PlacelessRuns

/-!
# Text without places

What is generated for a wrapper is the same text wherever its parts were written: without its places
it is the text of the wrapper without places.

Results:
* `storeTokens_unplaced`: the text of a store.
* `accessorImpl_unplaced`: the text of the accessors.
-/

namespace SharedMembers

/-! ## Code -/

@[simp] theorem Code.ofTokens_unplaced (ts : List Tree) :
    (ofTokens ts).map Fragment.unplaced = ofTokens (ts.map Tree.unplaced) := by
  simp only [ofTokens, List.map_map]
  rfl

@[simp] theorem Code.operatorAt_unplaced (o : Origin) (text : String) :
    (operatorAt o text).map Fragment.unplaced = operator text := by
  rw [operatorAt, ofTokens_unplaced, operatorTokens_unplaced, operator, operatorAt]

@[simp] theorem Code.wordAt_unplaced (o : Origin) (name : String) :
    (wordAt o name).map Fragment.unplaced = word name := rfl

@[simp] theorem Code.group_unplaced (d : Delimiter) (opened : Origin) (body : Code) :
    (group d opened body).map Fragment.unplaced = group d none (body.map Fragment.unplaced) := by
  simp [group, Fragment.unplaced]

@[simp] theorem AttributeArguments.code_unplaced (a : AttributeArguments) :
    a.unplaced.code = a.code.map Fragment.unplaced := by
  cases a <;> simp [unplaced, code, Code.operator, Fragment.unplaced]

@[simp] theorem Attribute.code_unplaced (a : Attribute) :
    a.unplaced.code = a.code.map Fragment.unplaced := by
  obtain ⟨o, inner, path, arguments⟩ := a
  cases inner <;> simp [unplaced, code, Code.operator, Fragment.unplaced]

@[simp] theorem Visibility.code_unplaced (v : Visibility) :
    v.unplaced.code = v.code.map Fragment.unplaced := by
  cases v with
  | inherited => rfl
  | everywhere o => rfl
  | restricted o within path => cases within <;> simp [unplaced, code, Code.word, Fragment.unplaced]

namespace Emission

/-! ## Templates -/

theorem spellPiece_unplaced (piece : List Char) :
    (spellPiece piece).map Tree.unplaced = spellPiece piece := by
  unfold spellPiece
  split
  · rfl
  · rfl
  · split
    · rfl
    · exact operatorTokens_unplaced none _

@[simp] theorem spell_unplaced (text : String) : (spell text).map Tree.unplaced = spell text := by
  simp [spell, List.map_flatMap, spellPiece_unplaced]

section

variable (ts : List Tree)

@[simp] theorem parens_unplaced :
    (parens ts).map Tree.unplaced = parens (ts.map Tree.unplaced) := by
  simp [parens, Tree.unplaced]

@[simp] theorem brackets_unplaced :
    (brackets ts).map Tree.unplaced = brackets (ts.map Tree.unplaced) := by
  simp [brackets, Tree.unplaced]

@[simp] theorem braces_unplaced :
    (braces ts).map Tree.unplaced = braces (ts.map Tree.unplaced) := by
  simp [braces, Tree.unplaced]

@[simp] theorem angles_unplaced :
    (angles ts).map Tree.unplaced = angles (ts.map Tree.unplaced) := by
  simp [angles]

@[simp] theorem attributed_unplaced :
    (attributed ts).map Tree.unplaced = attributed (ts.map Tree.unplaced) := by
  simp [attributed]

@[simp] theorem succeeded_unplaced :
    (succeeded ts).map Tree.unplaced = succeeded (ts.map Tree.unplaced) := by
  simp [succeeded, core]

@[simp] theorem refused_unplaced :
    (refused ts).map Tree.unplaced = refused (ts.map Tree.unplaced) := by
  simp [refused, core]

@[simp] theorem present_unplaced :
    (present ts).map Tree.unplaced = present (ts.map Tree.unplaced) := by
  simp [present, core]

end

@[simp] theorem absent_unplaced : absent.map Tree.unplaced = absent :=
  spell_unplaced _

@[simp] theorem core_unplaced (text : String) : (core text).map Tree.unplaced = core text :=
  spell_unplaced _

@[simp] theorem textLiteral_unplaced (text : String) :
    (textLiteral text).map Tree.unplaced = textLiteral text := rfl

@[simp] theorem number_unplaced (n : Nat) : (number n).map Tree.unplaced = number n := rfl

@[simp] theorem attributeWith_unplaced (name word : String) :
    (attributeWith name word).map Tree.unplaced = attributeWith name word := by
  simp [attributeWith]

@[simp] theorem documentation_unplaced (text : String) :
    (documentation text).map Tree.unplaced = documentation text := by
  simp [documentation]

@[simp] theorem named_unplaced (i : Ident) : (named i).map Tree.unplaced = named i.unplaced := rfl

@[simp] theorem commas_unplaced (parts : List (List Tree)) :
    (commas parts).map Tree.unplaced = commas (parts.map (List.map Tree.unplaced)) := by
  rw [commas, map_separated]
  rfl

@[simp] theorem intoTrait_unplaced (t : Ty) :
    (intoTrait t).map Tree.unplaced = intoTrait t.unplaced := by
  simp [intoTrait]

end Emission

/-! ## Stores -/

/-- The body of a function without places. -/
def VariantMatch.unplaced (m : VariantMatch) : VariantMatch :=
  { m with variant := m.variant.unplaced }

/-- The functions of a subtype without places. -/
def SubtypeCode.unplaced (c : SubtypeCode) : SubtypeCode :=
  ⟨c.type.unplaced, c.tag, c.converted.unplaced, c.tried.unplaced, c.wrapped.unplaced,
    c.projected.unplaced, c.projectedMut.unplaced, c.extracted.unplaced⟩

/-- The code of a store without places. -/
def StoreCode.unplaced (c : StoreCode) : StoreCode :=
  ⟨c.titles, c.tags.map (Prod.map Ident.unplaced id), c.subtypes.map SubtypeCode.unplaced,
    c.visits.map (Prod.map Ident.unplaced Ty.unplaced),
    c.visitsMut.map (Prod.map Ident.unplaced Ty.unplaced)⟩

@[simp] theorem Wrapper.storeCode_unplaced (w : Wrapper) :
    w.unplaced.storeCode = w.storeCode.unplaced := by
  have variants : w.unplaced.variants = w.variants.map (Prod.map Ident.unplaced Ty.unplaced) := rfl
  simp [storeCode, variants, List.zipIdx_map, StoreCode.unplaced, SubtypeCode.unplaced,
    SubtypeCode.ofVariant, VariantMatch.unplaced, Function.comp_def]

namespace Emission

section

variable (library : Path) (wrapper variant : Ident) (body : VariantMatch) (type : Ty)

theorem enumTokens_unplaced (w : Wrapper) :
    (enumTokens w).map Tree.unplaced = enumTokens w.unplaced := by
  have code : (w.unplaced.attributes.flatMap Attribute.code ++ w.unplaced.visibility.code) =
      (w.attributes.flatMap Attribute.code ++ w.visibility.code).map Fragment.unplaced := by
    simp [Wrapper.unplaced, List.map_flatMap, List.flatMap_map]
  rw [enumTokens, enumTokens, code, Fragment.tokensAll_unplaced]
  simp [Wrapper.unplaced, List.map_flatMap, List.flatMap_map]

@[simp] theorem matchSelf_unplaced (arms : List Tree) :
    (matchSelf arms).map Tree.unplaced = matchSelf (arms.map Tree.unplaced) := by
  simp [matchSelf]

@[simp] theorem reply_unplaced (name : String) (a : Reply) :
    (reply name a).map Tree.unplaced = reply name a := by
  cases a <;> simp [reply]

@[simp] theorem otherPattern_unplaced (a : Reply) :
    (otherPattern a).map Tree.unplaced = otherPattern a := by
  cases a <;> simp [otherPattern]

@[simp] theorem matchVariant_unplaced :
    (matchVariant wrapper body).map Tree.unplaced =
      matchVariant wrapper.unplaced body.unplaced := by
  simp [matchVariant, VariantMatch.unplaced]

@[simp] theorem takeApart_unplaced (name : String) :
    (takeApart name wrapper body).map Tree.unplaced =
      takeApart name wrapper.unplaced body.unplaced := by
  simp [takeApart]

@[simp] theorem lookInto_unplaced (name reference : String) :
    (lookInto name reference wrapper body).map Tree.unplaced =
      lookInto name reference wrapper.unplaced body.unplaced := by
  simp [lookInto]

theorem fromImpl_unplaced :
    (fromImpl wrapper variant type).map Tree.unplaced =
      fromImpl wrapper.unplaced variant.unplaced type.unplaced := by
  simp [fromImpl]

theorem tryFromImpl_unplaced :
    (tryFromImpl wrapper body type).map Tree.unplaced =
      tryFromImpl wrapper.unplaced body.unplaced type.unplaced := by
  simp [tryFromImpl]

theorem tagImpl_unplaced (code : StoreCode) :
    (tagImpl library wrapper code).map Tree.unplaced =
      tagImpl library.unplaced wrapper.unplaced code.unplaced := by
  simp [tagImpl, StoreCode.unplaced, List.map_flatMap, List.flatMap_map, Function.comp_def]

theorem subtypeImpl_unplaced (code : SubtypeCode) :
    (subtypeImpl library wrapper code).map Tree.unplaced =
      subtypeImpl library.unplaced wrapper.unplaced code.unplaced := by
  simp [subtypeImpl, SubtypeCode.unplaced]

theorem conversions_unplaced (code : SubtypeCode) :
    (conversions library wrapper code).map Tree.unplaced =
      conversions library.unplaced wrapper.unplaced code.unplaced := by
  simp only [conversions, List.map_append, fromImpl_unplaced, tryFromImpl_unplaced,
    subtypeImpl_unplaced]
  rfl

@[simp] theorem visitTrait_unplaced (trait : String) :
    (visitTrait library trait).map Tree.unplaced = visitTrait library.unplaced trait := by
  simp [visitTrait]

@[simp] theorem visitorName_unplaced : visitorName.map Tree.unplaced = visitorName :=
  spell_unplaced _

@[simp] theorem visitOutput_unplaced (trait : String) :
    (visitOutput library trait type).map Tree.unplaced =
      visitOutput library.unplaced trait type.unplaced := by
  simp [visitOutput]

theorem visitFn_unplaced (w : Wrapper) (arms : List (Ident × Ty)) (rest : List Ty)
    (name trait text reference : String) :
    (visitFn library w arms type rest name trait text reference).map Tree.unplaced =
      visitFn library.unplaced w.unplaced (arms.map (Prod.map Ident.unplaced Ty.unplaced))
        type.unplaced (rest.map Ty.unplaced) name trait text reference := by
  simp [visitFn, Wrapper.unplaced, List.map_flatMap, List.flatMap_map]

theorem visitImpl_unplaced (w : Wrapper) (code : StoreCode) (rest : List Ty) :
    (visitImpl library w code type rest).map Tree.unplaced =
      visitImpl library.unplaced w.unplaced code.unplaced type.unplaced
        (rest.map Ty.unplaced) := by
  simp [visitImpl, visitFn_unplaced, StoreCode.unplaced]
  rfl

end

end Emission

open Emission in
theorem storeTokens_unplaced (library : Path) (w : Wrapper) :
    (storeTokens library w).map Tree.unplaced = storeTokens library.unplaced w.unplaced := by
  have ident : w.unplaced.ident = w.ident.unplaced := rfl
  have subtypes : w.storeCode.unplaced.subtypes =
      w.storeCode.subtypes.map SubtypeCode.unplaced := rfl
  rw [storeTokens, storeTokens, Wrapper.types_unplaced, Wrapper.storeCode_unplaced]
  cases w.types with
  | nil => rfl
  | cons first rest =>
    simp [enumTokens_unplaced, tagImpl_unplaced, visitImpl_unplaced, conversions_unplaced,
      List.map_flatMap, List.flatMap_map, ident, subtypes]

/-! ## Accessors -/

/-- The argument that is passed on, without places. -/
def Passed.unplaced : Passed → Passed
  | .converted name parameter type => .converted name.unplaced parameter.unplaced type.unplaced
  | .unchanged name => .unchanged name.unplaced

/-- The use without places. -/
def Use.unplaced : Use → Use
  | .borrowed field => .borrowed field.unplaced
  | .cloned field => .cloned field.unplaced
  | .assigned field value => .assigned field.unplaced (value.map Passed.unplaced)
  | .called method args => .called method.unplaced (args.map Passed.unplaced)

/-- The arm without places. -/
def Arm.unplaced (a : Arm) : Arm :=
  ⟨a.variant.unplaced, a.use.unplaced, a.result.map Ty.unplaced⟩

theorem passedArguments_unplaced (names : List Ident) (slots : List Slot) (types : List Ty) :
    passedArguments (names.map Ident.unplaced) (slots.map Slot.unplaced) (types.map Ty.unplaced) =
      (passedArguments names slots types).map Passed.unplaced := by
  rw [passedArguments, List.zip_map, List.zip_map, List.map_map, passedArguments, List.map_map]
  refine List.map_congr_left fun ((name, slot), type) _ => ?_
  cases slot <;> rfl

theorem Use.ofSignature_unplaced (names : List Ident) (slots : List Slot) (byReference : Bool)
    (s : Signature) :
    ofSignature (names.map Ident.unplaced) (slots.map Slot.unplaced) byReference s.unplaced =
      (ofSignature names slots byReference s).unplaced := by
  obtain ⟨receiver, target, ownNames, inputs, output⟩ := s
  cases target with
  | field f =>
    simp only [ofSignature, Signature.unplaced, Target.unplaced, passedArguments_unplaced,
      List.isEmpty_map]
    split
    · split <;> rfl
    · rfl
  | method m =>
    simp only [ofSignature, Signature.unplaced, Target.unplaced, passedArguments_unplaced, unplaced]

theorem Arm.ofSignature_unplaced (names : List Ident) (slots : List Slot) (output : Option Ty)
    (byReference : Bool) (variant : Ident) (s : Signature) :
    ofSignature (names.map Ident.unplaced) (slots.map Slot.unplaced) (output.map Ty.unplaced)
        byReference variant.unplaced s.unplaced =
      (ofSignature names slots output byReference variant s).unplaced := by
  have borrowed : ∀ u : Use, u.unplaced.isBorrowed = u.isBorrowed := fun u => by cases u <;> rfl
  have own : s.unplaced.output = s.output.map Ty.unplaced := rfl
  simp only [ofSignature, Use.ofSignature_unplaced, borrowed, unplaced, own]
  cases output with
  | none => rfl
  | some t =>
    cases s.output with
    | none => rfl
    | some u =>
      simp only [Option.map_some, Ty.key_unplaced]
      split <;> rfl

namespace Emission

@[simp] theorem passed_unplaced (p : Passed) :
    (passed p).map Tree.unplaced = passed p.unplaced := by
  cases p <;> simp [passed, Passed.unplaced]

@[simp] theorem ofActive_unplaced (member : Ident) :
    (ofActive member).map Tree.unplaced = ofActive member.unplaced := by
  simp [ofActive, activeValue]

@[simp] theorem use_unplaced (u : Use) : (use u).map Tree.unplaced = use u.unplaced := by
  cases u <;> simp [use, Use.unplaced, List.map_flatMap, List.flatMap_map, Function.comp_def]

@[simp] theorem armValue_unplaced (a : Arm) :
    (armValue a).map Tree.unplaced = armValue a.unplaced := by
  obtain ⟨variant, use, result⟩ := a
  cases result <;> simp [armValue, Arm.unplaced]

@[simp] theorem arm_unplaced (a : Arm) : (arm a).map Tree.unplaced = arm a.unplaced := by
  simp [arm, activeValue]
  rfl

@[simp] theorem predicate_unplaced (parameter : Ident) (bounds : List Ty) :
    (predicate parameter bounds).map Tree.unplaced =
      predicate parameter.unplaced (bounds.map Ty.unplaced) := by
  simp [predicate, map_joined, Function.comp_def]

theorem parameters_unplaced (slots : List Slot) :
    parameters (slots.map Slot.unplaced) =
      (parameters slots).map (Prod.map Ident.unplaced (List.map Ty.unplaced)) := by
  rw [parameters, List.filterMap_map, parameters, List.map_filterMap]
  refine congrArg (slots.filterMap ·) (funext fun s => ?_)
  cases s <;> rfl

@[simp] theorem ownInput_unplaced (r : Receiver) :
    (ownInput r).map Tree.unplaced = ownInput r := by
  cases r <;> simp [ownInput]

end Emission

theorem Slot.type_unplaced (s : Slot) : s.unplaced.type = s.type.unplaced := by
  cases s <;> rfl

open Emission in
theorem Accessor.tokens_unplaced (a : Accessor) :
    a.tokens.map Tree.unplaced = a.unplaced.tokens := by
  have arms : a.unplaced.matchArms = a.matchArms.map Arm.unplaced := by
    simp [matchArms, unplaced, Arm.ofSignature_unplaced]
  have slots : parameters a.unplaced.slots =
      (parameters a.slots).map (Prod.map Ident.unplaced (List.map Ty.unplaced)) :=
    parameters_unplaced a.slots
  have arguments : a.unplaced.names.zip a.unplaced.slots =
      (a.names.zip a.slots).map (Prod.map Ident.unplaced Slot.unplaced) := List.zip_map
  have visibility : a.unplaced.visibility = a.visibility.unplaced := rfl
  have key : a.unplaced.key = a.key := rfl
  have receiver : a.unplaced.receiver = a.receiver := rfl
  have output : a.unplaced.output = a.output.map Ty.unplaced := rfl
  rw [tokens, tokens, arms, slots, arguments, output, visibility, key, receiver]
  cases a.output <;>
    simp [List.map_flatMap, List.flatMap_map, Slot.type_unplaced, Function.comp_def,
      apply_ite (List.map Tree.unplaced)]

open Emission in
theorem accessorImpl_unplaced (wrapper : Ident) (accessors : List Accessor) :
    (accessorImpl wrapper accessors).map Tree.unplaced =
      accessorImpl wrapper.unplaced (accessors.map Accessor.unplaced) := by
  rw [accessorImpl, accessorImpl, List.isEmpty_map]
  split
  · rfl
  · simp [List.map_flatMap, List.flatMap_map, Accessor.tokens_unplaced]

end SharedMembers
