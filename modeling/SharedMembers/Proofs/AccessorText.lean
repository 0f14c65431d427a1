import Mathlib.Data.List.Forall2
import SharedMembers.Emission.Accessor

/-!
# What the text of an accessor says

The text is put together from templates. Here it is token by token, so that what an arm does with the
member of its subtype can be read off what is emitted: which member it names, what it passes on to
it, and what it converts, clones or borrows.

* `Passed.Reads`, `Use.Reads`, `Arm.Reads`: an argument, the use of a member, an arm.
* `Accessor.Reads`: an accessor whose arms have the given texts.

Results:
* `arm_reads`: the tokens of every arm.
* `accessor_reads`: the tokens of every accessor, whose arms stand one behind the other.
* `accessorImpl_eq`: all accessors of a wrapper stand in one implementation.
-/

namespace SharedMembers

/-! ## Tokens -/

/-- A mark of one character. -/
def mark (c : Char) : Tree := .punct c false none

/-- A mark of two characters. -/
def twoMarks (c d : Char) : List Tree := [.punct c true none, .punct d false none]

/-- A path with a double colon in front of each name. -/
def rooted (names : List String) : List Tree :=
  names.flatMap fun name => twoMarks ':' ':' ++ [keyword name]

/-- Tokens in parentheses, as one token. -/
def inParens (ts : List Tree) : Tree := .group .parenthesis ts none none

/-- Tokens in curly braces, as one token. -/
def inBraces (ts : List Tree) : Tree := .group .brace ts none none

/-- The trait of conversions into a type. -/
def conversionTrait (t : Ty) : List Tree :=
  rooted ["core", "convert", "Into"] ++ mark '<' :: t.tokens ++ [mark '>']

/-- The member of the active value. -/
def memberText (member : Ident) : List Tree :=
  [keyword "__superstruct_value", mark '.', member.token]

/-! ## Arms -/

/-- How an argument is passed on: by its name alone, or by the conversion from the type of its
parameter into the declared one, called by its full path. -/
inductive Passed.Reads : Passed → List Tree → Prop where
  | unchanged (name : Ident) : Reads (.unchanged name) [name.token]
  | converted (name parameter : Ident) (type : Ty) :
      Reads (.converted name parameter type)
        (mark '<' :: parameter.token :: keyword "as" :: conversionTrait type ++
          mark '>' :: rooted ["into"] ++ [inParens [name.token]])

/-- How a member is used. What is passed on stands in the order in which it is given. -/
inductive Use.Reads : Use → List Tree → Prop where
  | borrowed (field : Ident) : Reads (.borrowed field) (mark '&' :: memberText field)
  | cloned (field : Ident) :
      Reads (.cloned field)
        (rooted ["core", "clone", "Clone", "clone"] ++ [inParens (mark '&' :: memberText field)])
  | assigned (field : Ident) (value : List Passed) (parts : List (List Tree))
      (passes : List.Forall₂ Passed.Reads value parts) :
      Reads (.assigned field value)
        [inBraces (memberText field ++ mark '=' :: parts.flatten ++ [mark ';'])]
  | called (method : Ident) (args : List Passed) (parts : List (List Tree))
      (passes : List.Forall₂ Passed.Reads args parts) :
      Reads (.called method args) (memberText method ++ [inParens (separated comma false parts)])

/-- The pattern of an arm, which binds the active value. -/
def armPattern (variant : Ident) : List Tree :=
  keyword "Self" :: twoMarks ':' ':' ++
    [variant.token, inParens [keyword "__superstruct_value"]] ++ twoMarks '=' '>'

/-- An arm gives what the use of the member gives, or that converted into the result. -/
inductive Arm.Reads : Arm → List Tree → Prop where
  | unconverted (variant : Ident) (use : Use) (ts : List Tree) (value : use.Reads ts) :
      Reads ⟨variant, use, none⟩ (armPattern variant ++ ts ++ [comma])
  | converted (variant : Ident) (use : Use) (t : Ty) (ts : List Tree) (value : use.Reads ts) :
      Reads ⟨variant, use, some t⟩
        (armPattern variant ++ rooted ["core", "convert", "Into"] ++ twoMarks ':' ':' ++
          mark '<' :: t.tokens ++ mark '>' :: rooted ["into"] ++ [inParens ts] ++ [comma])

/-! ## Accessors -/

/-- What a type parameter has to convert into. -/
def boundsText (parameter : Ident) (bounds : List Ty) : List Tree :=
  parameter.token :: mark ':' :: joined [mark '+'] (bounds.map conversionTrait)

/-- A further input. -/
def inputText (name : Ident) (slot : Slot) : List Tree :=
  comma :: name.token :: mark ':' :: slot.type.tokens

/-- A receiver. -/
def receiverText : Receiver → List Tree
  | .shared => [mark '&', keyword "self"]
  | .mutable => [mark '&', keyword "mut", keyword "self"]
  | .owned => [keyword "self"]

/-- The type parameters of an accessor, and what they have to convert into. -/
def genericsText (slots : List Slot) : List Tree × List Tree :=
  match Emission.parameters slots with
  | [] => ([], [])
  | ps =>
    (mark '<' :: separated comma false (ps.map fun (p, _) => [p.token]) ++ [mark '>'],
      keyword "where" :: separated comma false (ps.map fun (p, bounds) => boundsText p bounds))

/-- What an accessor returns. -/
def outputText : Option Ty → List Tree
  | none => []
  | some t => twoMarks '-' '>' ++ t.tokens

/-- An accessor whose arms have the given texts: attributes, and a function that takes an input for
each slot and does nothing but match on the wrapper. -/
inductive Accessor.Reads (a : Accessor) (arms : List (List Tree)) : List Tree → Prop where
  | function (attributes : List Tree) :
      Reads a arms
        (attributes ++ Fragment.tokensAll a.visibility.code ++
          [keyword "fn", keyword a.key.accessorName] ++ (genericsText a.slots).1 ++
          [inParens (receiverText a.receiver ++
            (a.names.zip a.slots).flatMap fun (name, slot) => inputText name slot)] ++
          outputText a.output ++ (genericsText a.slots).2 ++
          [inBraces [keyword "match", keyword "self", inBraces arms.flatten]])

/-! ## Templates -/

namespace Emission

theorem intoTrait_eq (t : Ty) : intoTrait t = conversionTrait t := rfl

theorem ofActive_eq (member : Ident) : ofActive member = memberText member := rfl

theorem angles_eq (ts : List Tree) : angles ts = mark '<' :: ts ++ [mark '>'] := rfl

theorem passed_reads (p : Passed) : p.Reads (passed p) := by
  cases p with
  | converted name parameter type =>
    have text : passed (.converted name parameter type) =
        mark '<' :: parameter.token :: keyword "as" :: conversionTrait type ++
          mark '>' :: rooted ["into"] ++ [inParens [name.token]] := by
      rw [passed, angles_eq, intoTrait_eq]
      simp only [List.append_assoc, List.cons_append]
      rfl
    rw [text]
    exact .converted name parameter type
  | unchanged name => exact .unchanged name

theorem forall₂_passed_reads (ps : List Passed) : List.Forall₂ Passed.Reads ps (ps.map passed) := by
  rw [List.forall₂_map_right_iff, List.forall₂_same]
  exact fun p _ => passed_reads p

/-- Every member is used as told, and what is passed on stands where it belongs. -/
theorem use_reads (u : Use) : u.Reads (use u) := by
  cases u with
  | borrowed field => exact .borrowed field
  | cloned field => exact .cloned field
  | assigned field value =>
    have text : use (.assigned field value) =
        [inBraces (memberText field ++ mark '=' :: (value.map passed).flatten ++ [mark ';'])] := by
      rw [use, ofActive_eq, ← List.flatMap_def]
      simp only [List.append_assoc, List.cons_append]
      rfl
    rw [text]
    exact .assigned field value _ (forall₂_passed_reads value)
  | called method args => exact .called method args _ (forall₂_passed_reads args)

/-- The tokens of every arm. -/
theorem arm_reads (a : Arm) : a.Reads (arm a) := by
  obtain ⟨variant, u, result⟩ := a
  have pattern : spell "Self ::" ++ named variant ++ parens (named activeValue) ++ spell "=>" =
      armPattern variant := rfl
  cases result with
  | none =>
    have text : arm ⟨variant, u, none⟩ = armPattern variant ++ use u ++ [comma] := by
      rw [arm, pattern]
      rfl
    rw [text]
    exact .unconverted variant u _ (use_reads u)
  | some t =>
    have text : arm ⟨variant, u, some t⟩ =
        armPattern variant ++ rooted ["core", "convert", "Into"] ++ twoMarks ':' ':' ++
          mark '<' :: t.tokens ++ mark '>' :: rooted ["into"] ++ [inParens (use u)] ++ [comma] := by
      rw [arm, pattern, armValue]
      simp only [angles_eq, List.append_assoc, List.cons_append]
      rfl
    rw [text]
    exact .converted variant u t _ (use_reads u)

theorem forall₂_arm_reads (as : List Arm) : List.Forall₂ Arm.Reads as (as.map arm) := by
  rw [List.forall₂_map_right_iff, List.forall₂_same]
  exact fun a _ => arm_reads a

theorem ownInput_eq (r : Receiver) : ownInput r = receiverText r := by
  cases r <;> rfl

end Emission

open Emission

/-- The type parameters stand in angle brackets, and their bounds behind the output. -/
theorem genericsText_eq (slots : List Slot) :
    (if (parameters slots).isEmpty then []
      else angles (commas ((parameters slots).map fun (p, _) => named p))) =
        (genericsText slots).1 ∧
      (if (parameters slots).isEmpty then []
        else spell "where" ++
          commas ((parameters slots).map fun (p, bounds) => predicate p bounds)) =
        (genericsText slots).2 := by
  rw [genericsText]
  cases parameters slots <;> exact ⟨rfl, rfl⟩

/-- The tokens of every accessor: its arms stand one behind the other. -/
theorem accessor_reads (a : Accessor) : a.Reads (a.matchArms.map arm) a.tokens := by
  have reads : a.Reads (a.matchArms.map arm) _ :=
    .function (documentation (accessorDocumentation a.key) ++ attributed (spell "inline"))
  rw [← (genericsText_eq a.slots).1, ← (genericsText_eq a.slots).2, ← ownInput_eq,
    ← List.flatMap_def] at reads
  have title : ∀ ts : List Tree, ts ++ spell "fn" ++ named (.generated a.key.accessorName) =
      ts ++ [keyword "fn", keyword a.key.accessorName] := fun ts => by
    rw [List.append_assoc]
    rfl
  rw [Accessor.tokens]
  dsimp only
  rw [title]
  cases output : a.output with
  | none =>
    rw [output] at reads
    exact reads
  | some t =>
    rw [output] at reads
    exact reads

/-- All accessors of a wrapper stand in one implementation, one behind the other. -/
theorem accessorImpl_eq (wrapper : Ident) {accessors : List Accessor} (some : accessors ≠ []) :
    ∃ attributes, accessorImpl wrapper accessors = attributes ++ [keyword "impl", wrapper.token,
      inBraces (accessors.flatMap Accessor.tokens)] := by
  refine ⟨attributeWith "allow" "dead_code", ?_⟩
  rw [accessorImpl, if_neg (by simpa using some), List.append_assoc, List.append_assoc]
  rfl

end SharedMembers
