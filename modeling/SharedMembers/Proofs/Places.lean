import SharedMembers.Member.Catalogue
import SharedMembers.Type.Mention
import SharedMembers.Type.SelfType
import SharedMembers.Type.VariantName
import SharedMembers.Unification.Scalar
import Mathlib.Logic.Basic

/-!
# Places do not matter

Tokens, names, types and paths know where they were written. What is asked of a type is answered by
its text alone: with all places taken out the answers are the same.

Results:
* `Ty.tokens_unplaced`, `Ty.key_unplaced`: the text of a type, and the key by which it is compared.
* `Ty.withSelf_unplaced`: naming `Self`.
* `Ty.mentions_unplaced`, `Ty.variantName_unplaced`, `isClone_unplaced`: what a type mentions, how
  its variants are called, and whether it can be cloned.
-/

namespace SharedMembers

/-! ## Taking places out -/

mutual

/-- The token without its place. -/
def Tree.unplaced : Tree → Tree
  | .word name _ => .word name none
  | .lifetime name _ => .lifetime name none
  | .literal text _ => .literal text none
  | .punct char joint _ => .punct char joint none
  | .group d body _ _ => .group d (Tree.unplacedAll body) none none

/-- The tokens without their places. -/
def Tree.unplacedAll : List Tree → List Tree
  | [] => []
  | t :: ts => t.unplaced :: Tree.unplacedAll ts

end

/-- The name without its place. -/
def Ident.unplaced (i : Ident) : Ident :=
  .generated i.name

mutual

/-- The type without places. -/
def Ty.unplaced : Ty → Ty
  | .path p => .path p.unplaced
  | .reference _ lifetime mutable referent =>
    .reference none (lifetime.map Ident.unplaced) mutable referent.unplaced
  | .pointer _ mutable pointee => .pointer none mutable pointee.unplaced
  | .paren _ inner => .paren none inner.unplaced
  | .tuple _ elems trailing => .tuple none (Ty.unplacedEach elems) trailing
  | .array _ elem length => .array none elem.unplaced (Fragment.unplacedAll length)
  | .slice _ elem => .slice none elem.unplaced
  | .never _ => .never none
  | .inferred _ => .inferred none
  | .function code => .function (Fragment.unplacedAll code)
  | .traitObject code => .traitObject (Fragment.unplacedAll code)
  | .implTrait code => .implTrait (Fragment.unplacedAll code)
  | .invocation p code => .invocation p.unplaced (Fragment.unplacedAll code)
  | .unparsed tokens => .unparsed (Tree.unplacedAll tokens)

/-- Each type without places. -/
def Ty.unplacedEach : List Ty → List Ty
  | [] => []
  | t :: ts => t.unplaced :: Ty.unplacedEach ts

/-- The path without places. -/
def Path.unplaced : Path → Path
  | .plain leading segments => .plain (leading.map fun _ => none) (Segment.unplacedEach segments)
  | .qualified _ self leading traitSegments rest =>
    .qualified none self.unplaced (leading.map fun _ => none) (Segment.unplacedEach traitSegments)
      (Segment.unplacedEach rest)

/-- The segment without places. -/
def Segment.unplaced : Segment → Segment
  | .plain i => .plain i.unplaced
  | .generic i colons args trailing =>
    .generic i.unplaced colons (Argument.unplacedEach args) trailing

/-- Each segment without places. -/
def Segment.unplacedEach : List Segment → List Segment
  | [] => []
  | s :: ss => s.unplaced :: Segment.unplacedEach ss

/-- The argument without places. -/
def Argument.unplaced : Argument → Argument
  | .lifetime i => .lifetime i.unplaced
  | .type t => .type t.unplaced
  | .other code => .other (Fragment.unplacedAll code)

/-- Each argument without places. -/
def Argument.unplacedEach : List Argument → List Argument
  | [] => []
  | a :: as => a.unplaced :: Argument.unplacedEach as

/-- The piece of code without places. -/
def Fragment.unplaced : Fragment → Fragment
  | .tree t => .tree t.unplaced
  | .group d _ _ body => .group d none none (Fragment.unplacedAll body)
  | .path p => .path p.unplaced
  | .type t => .type t.unplaced
  | .skipped ts => .skipped (Tree.unplacedAll ts)

/-- The code without places. -/
def Fragment.unplacedAll : List Fragment → List Fragment
  | [] => []
  | f :: fs => f.unplaced :: Fragment.unplacedAll fs

end

@[simp] theorem Tree.unplacedAll_eq_map (ts : List Tree) : unplacedAll ts = ts.map unplaced := by
  induction ts with
  | nil => rfl
  | cons t ts ih => rw [unplacedAll, ih, List.map_cons]

@[simp] theorem Ty.unplacedEach_eq_map (ts : List Ty) : unplacedEach ts = ts.map unplaced := by
  induction ts with
  | nil => rfl
  | cons t ts ih => rw [unplacedEach, ih, List.map_cons]

@[simp] theorem Segment.unplacedEach_eq_map (ss : List Segment) :
    unplacedEach ss = ss.map unplaced := by
  induction ss with
  | nil => rfl
  | cons s ss ih => rw [unplacedEach, ih, List.map_cons]

@[simp] theorem Argument.unplacedEach_eq_map (as : List Argument) :
    unplacedEach as = as.map unplaced := by
  induction as with
  | nil => rfl
  | cons a as ih => rw [unplacedEach, ih, List.map_cons]

@[simp] theorem Fragment.unplacedAll_eq_map (fs : List Fragment) :
    unplacedAll fs = fs.map unplaced := by
  induction fs with
  | nil => rfl
  | cons f fs ih => rw [unplacedAll, ih, List.map_cons]

@[simp] theorem Ident.name_unplaced (i : Ident) : i.unplaced.name = i.name := rfl

@[simp] theorem Ident.origin_unplaced (i : Ident) : i.unplaced.origin = none := rfl

/-! ## Tokens -/

mutual

@[simp] theorem Tree.display_unplaced : ∀ t : Tree, t.unplaced.display = t.display
  | .word .. | .lifetime .. | .literal .. | .punct .. => rfl
  | .group d body _ _ => by
    simp only [unplaced, display, unplacedAll_eq_map, displayAll_unplaced body, List.isEmpty_map]

@[simp] theorem Tree.displayAll_unplaced :
    ∀ ts : List Tree, displayAll (ts.map unplaced) = displayAll ts
  | [] => rfl
  | t :: ts => by
    have joint : t.unplaced.isJoint = t.isJoint := by cases t <;> rfl
    simp only [List.map_cons, displayAll, display_unplaced t, displayAll_unplaced ts, joint,
      List.isEmpty_map]

end

@[simp] theorem Tree.isPlus_unplaced (t : Tree) : t.unplaced.isPlus = t.isPlus := by
  cases t with
  | punct c joint o => by_cases h : c = '+' <;> simp [unplaced, isPlus, h]
  | _ => rfl

@[simp] theorem operatorTokens_unplaced (o : Origin) (cs : List Char) :
    (operatorTokens o cs).map Tree.unplaced = operatorTokens none cs := by
  induction cs with
  | nil => rfl
  | cons c cs ih =>
    cases cs with
    | nil => rfl
    | cons d cs => exact congrArg _ ih

/-! ### Lists -/

section

variable {α β : Type} (f : α → β)

theorem map_separated (comma : α) (trailing : Bool) (parts : List (List α)) :
    (separated comma trailing parts).map f =
      separated (f comma) trailing (parts.map (List.map f)) := by
  induction parts with
  | nil => rfl
  | cons part parts ih =>
    cases parts with
    | nil => cases trailing <;> simp [separated]
    | cons next parts => simpa [separated] using ih

theorem map_joined (between : List α) (parts : List (List α)) :
    (joined between parts).map f = joined (between.map f) (parts.map (List.map f)) := by
  induction parts with
  | nil => rfl
  | cons part parts ih =>
    cases parts with
    | nil => rfl
    | cons next parts => simpa [joined] using ih

theorem map_withCommas (trailing : Bool) (parts : List α) :
    (withCommas trailing parts).map (Prod.map f id) = withCommas trailing (parts.map f) := by
  induction parts with
  | nil => rfl
  | cons part parts ih =>
    cases parts with
    | nil => rfl
    | cons next parts => exact congrArg _ ih

theorem map_glued (comma : α) (closed : Bool) (parts : List (List α × Bool)) :
    (glued comma closed parts).map f =
      glued (f comma) closed (parts.map (Prod.map (List.map f) id)) := by
  induction parts generalizing closed with
  | nil => rfl
  | cons part parts ih =>
    obtain ⟨part, followed⟩ := part
    cases closed <;> cases followed <;> simp [glued, ih]

/-- A list in angle brackets is arranged by which of its parts are lifetimes. -/
theorem map_arranged (comma : α) (trailing : Bool) (parts : List (Bool × List α)) :
    (arranged comma trailing parts).map f =
      arranged (f comma) trailing (parts.map (Prod.map id (List.map f))) := by
  simp only [arranged, map_glued, ← map_withCommas, List.filter_map, ← List.map_append,
    List.map_map]
  rfl

end

@[simp] theorem leadingTokens_unplaced (leading : Option Origin) :
    leadingTokens (leading.map fun _ => none) = (leadingTokens leading).map Tree.unplaced := by
  cases leading with
  | none => rfl
  | some o => exact (operatorTokens_unplaced o _).symm

@[simp] theorem operator_unplaced (text : String) :
    (operator text).map Tree.unplaced = operator text :=
  operatorTokens_unplaced none _

mutual

@[simp] theorem Ty.tokens_unplaced : ∀ t : Ty, t.unplaced.tokens = t.tokens.map Tree.unplaced
  | .path p => by rw [Ty.unplaced, Ty.tokens, Ty.tokens, Path.tokens_unplaced p]
  | .reference o lifetime mutable referent => by
    cases lifetime <;> cases mutable <;>
      simp [Ty.unplaced, Ty.tokens, Ty.tokens_unplaced referent, Ident.lifetimeToken, keyword,
        Tree.unplaced]
  | .pointer o mutable pointee => by
    cases mutable <;>
      simp [Ty.unplaced, Ty.tokens, Ty.tokens_unplaced pointee, keyword, Tree.unplaced]
  | .paren o inner => by simp [Ty.unplaced, Ty.tokens, Ty.tokens_unplaced inner, Tree.unplaced]
  | .tuple o elems trailing => by
    simp [Ty.unplaced, Ty.tokens, Ty.tokensEach_unplaced elems, map_separated, comma, Tree.unplaced]
  | .array o elem length => by
    simp [Ty.unplaced, Ty.tokens, Ty.tokens_unplaced elem, Fragment.tokensAll_unplaced length,
      Tree.unplaced]
  | .slice o elem => by simp [Ty.unplaced, Ty.tokens, Ty.tokens_unplaced elem, Tree.unplaced]
  | .never o => by simp [Ty.unplaced, Ty.tokens]
  | .inferred o => rfl
  | .function code => by simp [Ty.unplaced, Ty.tokens, Fragment.tokensAll_unplaced code]
  | .traitObject code => by simp [Ty.unplaced, Ty.tokens, Fragment.tokensAll_unplaced code]
  | .implTrait code => by simp [Ty.unplaced, Ty.tokens, Fragment.tokensAll_unplaced code]
  | .invocation p code => by
    simp [Ty.unplaced, Ty.tokens, Path.tokens_unplaced p, Fragment.tokensAll_unplaced code]
  | .unparsed tokens => by simp [Ty.unplaced, Ty.tokens]

theorem Ty.tokensEach_unplaced : ∀ ts : List Ty,
    Ty.tokensEach (ts.map Ty.unplaced) = (Ty.tokensEach ts).map (List.map Tree.unplaced)
  | [] => rfl
  | t :: ts => by simp [Ty.tokensEach, Ty.tokens_unplaced t, Ty.tokensEach_unplaced ts]

@[simp] theorem Path.tokens_unplaced : ∀ p : Path,
    p.unplaced.tokens = p.tokens.map Tree.unplaced
  | .plain leading segments => by
    simp [Path.unplaced, Path.tokens, Segment.tokensEach_unplaced segments, map_joined]
  | .qualified o self leading traitSegments rest => by
    have self := Ty.tokens_unplaced self
    have trait := Segment.tokensEach_unplaced traitSegments
    have rest := Segment.tokensEach_unplaced rest
    cases empty : traitSegments.isEmpty <;>
      simp [Path.unplaced, Path.tokens, empty, self, trait, rest, map_joined, keyword,
        Tree.unplaced]

@[simp] theorem Segment.tokens_unplaced : ∀ s : Segment,
    s.unplaced.tokens = s.tokens.map Tree.unplaced
  | .plain i => rfl
  | .generic i colons args trailing => by
    cases colons <;>
      simp [Segment.unplaced, Segment.tokens, Argument.tokensEach_unplaced args, map_arranged,
        Ident.token, comma, Tree.unplaced]

theorem Segment.tokensEach_unplaced : ∀ ss : List Segment,
    Segment.tokensEach (ss.map Segment.unplaced) =
      (Segment.tokensEach ss).map (List.map Tree.unplaced)
  | [] => rfl
  | s :: ss => by
    simp [Segment.tokensEach, Segment.tokens_unplaced s, Segment.tokensEach_unplaced ss]

theorem Argument.tokens_unplaced : ∀ a : Argument,
    a.unplaced.tokens = Prod.map id (List.map Tree.unplaced) a.tokens
  | .lifetime i => rfl
  | .type t => by simp [Argument.unplaced, Argument.tokens, Ty.tokens_unplaced t]
  | .other code => by simp [Argument.unplaced, Argument.tokens, Fragment.tokensAll_unplaced code]

theorem Argument.tokensEach_unplaced : ∀ as : List Argument,
    Argument.tokensEach (as.map Argument.unplaced) =
      (Argument.tokensEach as).map (Prod.map id (List.map Tree.unplaced))
  | [] => rfl
  | a :: as => by
    simp [Argument.tokensEach, Argument.tokens_unplaced a, Argument.tokensEach_unplaced as]

@[simp] theorem Fragment.tokens_unplaced : ∀ f : Fragment,
    f.unplaced.tokens = f.tokens.map Tree.unplaced
  | .tree t => rfl
  | .group d opened closed body => by
    simp [Fragment.unplaced, Fragment.tokens, Fragment.tokensAll_unplaced body, Tree.unplaced]
  | .path p => by rw [Fragment.unplaced, Fragment.tokens, Fragment.tokens, Path.tokens_unplaced p]
  | .type t => by rw [Fragment.unplaced, Fragment.tokens, Fragment.tokens, Ty.tokens_unplaced t]
  | .skipped ts => by simp [Fragment.unplaced, Fragment.tokens]

@[simp] theorem Fragment.tokensAll_unplaced : ∀ fs : List Fragment,
    Fragment.tokensAll (fs.map Fragment.unplaced) = (Fragment.tokensAll fs).map Tree.unplaced
  | [] => rfl
  | f :: fs => by
    simp [Fragment.tokensAll, Fragment.tokens_unplaced f, Fragment.tokensAll_unplaced fs]

end

/-! ## Texts of types -/

namespace Ty

@[simp] theorem display_unplaced (t : Ty) : t.unplaced.display = t.display := by
  rw [display, tokens_unplaced, Tree.displayAll_unplaced, display]

@[simp] theorem title_unplaced (t : Ty) : t.unplaced.title = t.title := by
  rw [title, display_unplaced, title]

end Ty

@[simp] theorem Segment.ident_unplaced (s : Segment) : s.unplaced.ident = s.ident.unplaced := by
  cases s <;> rfl

theorem Ty.normal_unplaced : ∀ t : Ty, t.unplaced.normal = t.normal.unplaced
  | .paren _ inner => by rw [unplaced, normal, normal, normal_unplaced inner]
  | .path (.plain none (first :: second :: rest)) => by
    by_cases self : first.ident.name = "self" <;> simp [unplaced, Path.unplaced, normal, self]
  | .path (.plain none []) | .path (.plain none [_]) | .path (.plain (some _) _)
  | .path (.qualified ..) => rfl
  | .reference .. | .pointer .. | .tuple .. | .array .. | .slice .. | .never _ | .inferred _
  | .function _ | .traitObject _ | .implTrait _ | .invocation .. | .unparsed _ => rfl

@[simp] theorem Ty.key_unplaced (t : Ty) : t.unplaced.key = t.key := by
  rw [key, normal_unplaced, display_unplaced, key]

@[simp] theorem Ty.isUnit_unplaced (t : Ty) : t.unplaced.isUnit = t.isUnit := by
  cases t with
  | tuple o elems trailing => cases elems <;> simp [unplaced, isUnit]
  | _ => rfl

@[simp] theorem Fragment.isPlus_unplaced (f : Fragment) : f.unplaced.isPlus = f.isPlus := by
  cases f with
  | tree t => exact t.isPlus_unplaced
  | _ => rfl

theorem Fragment.any_isPlus_unplaced (fs : List Fragment) :
    (fs.map unplaced).any isPlus = fs.any isPlus := by
  rw [List.any_map]
  exact congrArg fs.any (funext isPlus_unplaced)

theorem Tree.any_isPlus_unplaced (ts : List Tree) :
    (ts.map unplaced).any isPlus = ts.any isPlus := by
  rw [List.any_map]
  exact congrArg ts.any (funext isPlus_unplaced)

@[simp] theorem Ty.isSum_unplaced (t : Ty) : t.unplaced.isSum = t.isSum := by
  cases t with
  | traitObject code => simp only [unplaced, Fragment.unplacedAll_eq_map, isSum,
      Fragment.any_isPlus_unplaced]
  | implTrait code => simp only [unplaced, Fragment.unplacedAll_eq_map, isSum,
      Fragment.any_isPlus_unplaced]
  | unparsed tokens => simp only [unplaced, Tree.unplacedAll_eq_map, isSum,
      Tree.any_isPlus_unplaced]
  | _ => rfl

@[simp] theorem Path.ident?_unplaced (p : Path) :
    p.unplaced.ident? = p.ident?.map Ident.unplaced := by
  match p with
  | .plain none [] => rfl
  | .plain none [.plain i] => rfl
  | .plain none [.generic ..] => rfl
  | .plain none (.plain _ :: _ :: _) => rfl
  | .plain none (.generic .. :: _ :: _) => rfl
  | .plain (some _) _ => rfl
  | .qualified .. => rfl

@[simp] theorem Path.isIdent_unplaced (p : Path) (name : String) :
    p.unplaced.isIdent name = p.isIdent name := by
  rw [isIdent, ident?_unplaced, Option.any_map, isIdent]
  rfl

@[simp] theorem Scalar.ofTy?_unplaced : ∀ t : Ty, ofTy? t.unplaced = ofTy? t
  | .path p => by
    rw [Ty.unplaced, ofTy?, Path.ident?_unplaced, ofTy?]
    cases p.ident? <;> rfl
  | .paren _ inner => by rw [Ty.unplaced, ofTy?, ofTy?_unplaced inner, ofTy?]
  | .reference _ _ true _ => rfl
  | .reference _ _ false referent => by cases referent <;> simp [Ty.unplaced, ofTy?]
  | .pointer .. | .tuple .. | .array .. | .slice .. | .never _ | .inferred _ | .function _
  | .traitObject _ | .implTrait _ | .invocation .. | .unparsed _ => rfl

/-! ## Naming `Self` -/

theorem Segment.namingSelf_unplaced (name : Ident) (s : Segment) :
    s.unplaced.namingSelf name.unplaced = (s.namingSelf name).unplaced := by
  rw [namingSelf, namingSelf, ident_unplaced, Ident.name_unplaced]
  split
  · cases s <;> rfl
  · rfl

theorem namingFirst_unplaced (name : Ident) (ss : List Segment) :
    namingFirst name.unplaced (ss.map Segment.unplaced) =
      (namingFirst name ss).map Segment.unplaced := by
  cases ss with
  | nil => rfl
  | cons s ss => rw [List.map_cons, namingFirst, namingFirst, List.map_cons, s.namingSelf_unplaced]

mutual

@[simp] theorem Ty.withSelf_unplaced (name : Ident) : ∀ t : Ty,
    t.unplaced.withSelf name.unplaced = (t.withSelf name).unplaced
  | .path p => by
    rw [Ty.unplaced, Ty.withSelf, Ty.withSelf, Ty.unplaced, Path.withSelf_unplaced name p]
  | .reference o lifetime mutable referent => by
    simp [Ty.unplaced, Ty.withSelf, Ty.withSelf_unplaced name referent]
  | .pointer o mutable pointee => by
    simp [Ty.unplaced, Ty.withSelf, Ty.withSelf_unplaced name pointee]
  | .paren o inner => by simp [Ty.unplaced, Ty.withSelf, Ty.withSelf_unplaced name inner]
  | .tuple o elems trailing => by
    simp [Ty.unplaced, Ty.withSelf, Ty.withSelfEach_unplaced name elems]
  | .array o elem length => by
    simp [Ty.unplaced, Ty.withSelf, Ty.withSelf_unplaced name elem,
      Fragment.withSelfAll_unplaced name length]
  | .slice o elem => by simp [Ty.unplaced, Ty.withSelf, Ty.withSelf_unplaced name elem]
  | .never o => rfl
  | .inferred o => rfl
  | .function code => by
    simp [Ty.unplaced, Ty.withSelf, Fragment.withSelfAll_unplaced name code]
  | .traitObject code => by
    simp [Ty.unplaced, Ty.withSelf, Fragment.withSelfAll_unplaced name code]
  | .implTrait code => by
    simp [Ty.unplaced, Ty.withSelf, Fragment.withSelfAll_unplaced name code]
  | .invocation p code => by
    simp [Ty.unplaced, Ty.withSelf, Path.withSelf_unplaced name p,
      Fragment.withSelfAll_unplaced name code]
  | .unparsed tokens => rfl

theorem Ty.withSelfEach_unplaced (name : Ident) : ∀ ts : List Ty,
    Ty.withSelfEach name.unplaced (ts.map Ty.unplaced) = (Ty.withSelfEach name ts).map Ty.unplaced
  | [] => rfl
  | t :: ts => by
    simp [Ty.withSelfEach, Ty.withSelf_unplaced name t, Ty.withSelfEach_unplaced name ts]

@[simp] theorem Path.withSelf_unplaced (name : Ident) : ∀ p : Path,
    p.unplaced.withSelf name.unplaced = (p.withSelf name).unplaced
  | .plain leading segments => by
    simp [Path.unplaced, Path.withSelf, Segment.withSelfEach_unplaced name segments,
      namingFirst_unplaced]
  | .qualified o self leading traitSegments rest => by
    have self := Ty.withSelf_unplaced name self
    have trait := Segment.withSelfEach_unplaced name traitSegments
    have rest := Segment.withSelfEach_unplaced name rest
    cases empty : traitSegments.isEmpty <;>
      simp [Path.unplaced, Path.withSelf, empty, self, trait, rest, namingFirst_unplaced]

theorem Segment.withSelf_unplaced (name : Ident) : ∀ s : Segment,
    s.unplaced.withSelf name.unplaced = (s.withSelf name).unplaced
  | .plain i => rfl
  | .generic i colons args trailing => by
    simp [Segment.unplaced, Segment.withSelf, Argument.withSelfEach_unplaced name args]

theorem Segment.withSelfEach_unplaced (name : Ident) : ∀ ss : List Segment,
    Segment.withSelfEach name.unplaced (ss.map Segment.unplaced) =
      (Segment.withSelfEach name ss).map Segment.unplaced
  | [] => rfl
  | s :: ss => by
    simp [Segment.withSelfEach, Segment.withSelf_unplaced name s,
      Segment.withSelfEach_unplaced name ss]

theorem Argument.withSelf_unplaced (name : Ident) : ∀ a : Argument,
    a.unplaced.withSelf name.unplaced = (a.withSelf name).unplaced
  | .lifetime i => rfl
  | .type t => by
    simp [Argument.unplaced, Argument.withSelf, Ty.withSelf_unplaced name t]
  | .other code => by
    simp [Argument.unplaced, Argument.withSelf, Fragment.withSelfAll_unplaced name code]

theorem Argument.withSelfEach_unplaced (name : Ident) : ∀ as : List Argument,
    Argument.withSelfEach name.unplaced (as.map Argument.unplaced) =
      (Argument.withSelfEach name as).map Argument.unplaced
  | [] => rfl
  | a :: as => by
    simp [Argument.withSelfEach, Argument.withSelf_unplaced name a,
      Argument.withSelfEach_unplaced name as]

theorem Fragment.withSelf_unplaced (name : Ident) : ∀ f : Fragment,
    f.unplaced.withSelf name.unplaced = (f.withSelf name).unplaced
  | .tree t => rfl
  | .group d opened closed body => by
    simp [Fragment.unplaced, Fragment.withSelf, Fragment.withSelfAll_unplaced name body]
  | .path p => by simp [Fragment.unplaced, Fragment.withSelf, Path.withSelf_unplaced name p]
  | .type t => by simp [Fragment.unplaced, Fragment.withSelf, Ty.withSelf_unplaced name t]
  | .skipped ts => rfl

theorem Fragment.withSelfAll_unplaced (name : Ident) : ∀ fs : List Fragment,
    Fragment.withSelfAll name.unplaced (fs.map Fragment.unplaced) =
      (Fragment.withSelfAll name fs).map Fragment.unplaced
  | [] => rfl
  | f :: fs => by
    simp [Fragment.withSelfAll, Fragment.withSelf_unplaced name f,
      Fragment.withSelfAll_unplaced name fs]

end

/-! ## What a type mentions -/

/-- What is searched for is found by its text. -/
structure Search.Placeless (s : Search) : Prop where
  type : ∀ t, s.type t.unplaced = s.type t
  path : ∀ p, s.path p.unplaced = s.path p

mutual

theorem Search.inType_unplaced {s : Search} (h : s.Placeless) :
    ∀ t : Ty, s.inType t.unplaced = s.inType t
  | .path p => congrArg₂ or (h.type _) (Search.inPath_unplaced h p)
  | .reference _ none _ referent =>
    congrArg₂ or (h.type _) (congrArg (or _) (Search.inType_unplaced h referent))
  | .reference _ (some _) _ referent =>
    congrArg₂ or (h.type _) (congrArg (or _) (Search.inType_unplaced h referent))
  | .pointer _ _ pointee => congrArg₂ or (h.type _) (Search.inType_unplaced h pointee)
  | .paren _ inner => congrArg₂ or (h.type _) (Search.inType_unplaced h inner)
  | .tuple _ elems _ => congrArg₂ or (h.type _) (Search.inTypes_unplaced h elems)
  | .array _ elem length =>
    congrArg₂ or (h.type _)
      (congrArg₂ or (Search.inType_unplaced h elem) (Search.inCode_unplaced h length))
  | .slice _ elem => congrArg₂ or (h.type _) (Search.inType_unplaced h elem)
  | .never _ => congrArg₂ or (h.type _) rfl
  | .inferred _ => congrArg₂ or (h.type _) rfl
  | .function code => congrArg₂ or (h.type _) (Search.inCode_unplaced h code)
  | .traitObject code => congrArg₂ or (h.type _) (Search.inCode_unplaced h code)
  | .implTrait code => congrArg₂ or (h.type _) (Search.inCode_unplaced h code)
  | .invocation p code =>
    congrArg₂ or (h.type _)
      (congrArg₂ or (Search.inPath_unplaced h p) (Search.inCode_unplaced h code))
  | .unparsed _ => congrArg₂ or (h.type _) rfl

theorem Search.inTypes_unplaced {s : Search} (h : s.Placeless) :
    ∀ ts : List Ty, s.inTypes (Ty.unplacedEach ts) = s.inTypes ts
  | [] => rfl
  | t :: ts => congrArg₂ or (Search.inType_unplaced h t) (Search.inTypes_unplaced h ts)

theorem Search.inPath_unplaced {s : Search} (h : s.Placeless) :
    ∀ p : Path, s.inPath p.unplaced = s.inPath p
  | .plain _ segments => congrArg₂ or (h.path _) (Search.inSegments_unplaced h segments)
  | .qualified _ self _ traitSegments rest =>
    congrArg₂ or (h.path _) (congrArg₂ or
      (congrArg₂ or (Search.inType_unplaced h self) (Search.inSegments_unplaced h traitSegments))
      (Search.inSegments_unplaced h rest))

theorem Search.inSegment_unplaced {s : Search} (h : s.Placeless) :
    ∀ g : Segment, s.inSegment g.unplaced = s.inSegment g
  | .plain _ => rfl
  | .generic _ _ args _ => Search.inArguments_unplaced h args

theorem Search.inSegments_unplaced {s : Search} (h : s.Placeless) :
    ∀ gs : List Segment, s.inSegments (Segment.unplacedEach gs) = s.inSegments gs
  | [] => rfl
  | g :: gs => congrArg₂ or (Search.inSegment_unplaced h g) (Search.inSegments_unplaced h gs)

theorem Search.inArgument_unplaced {s : Search} (h : s.Placeless) :
    ∀ a : Argument, s.inArgument a.unplaced = s.inArgument a
  | .lifetime _ => rfl
  | .type t => Search.inType_unplaced h t
  | .other code => Search.inCode_unplaced h code

theorem Search.inArguments_unplaced {s : Search} (h : s.Placeless) :
    ∀ as : List Argument, s.inArguments (Argument.unplacedEach as) = s.inArguments as
  | [] => rfl
  | a :: as => congrArg₂ or (Search.inArgument_unplaced h a) (Search.inArguments_unplaced h as)

theorem Search.inFragment_unplaced {s : Search} (h : s.Placeless) :
    ∀ f : Fragment, s.inFragment f.unplaced = s.inFragment f
  | .tree t => by cases t <;> rfl
  | .group _ _ _ body => Search.inCode_unplaced h body
  | .path p => Search.inPath_unplaced h p
  | .type t => Search.inType_unplaced h t
  | .skipped _ => rfl

theorem Search.inCode_unplaced {s : Search} (h : s.Placeless) :
    ∀ fs : List Fragment, s.inCode (Fragment.unplacedAll fs) = s.inCode fs
  | [] => rfl
  | f :: fs => congrArg₂ or (Search.inFragment_unplaced h f) (Search.inCode_unplaced h fs)

end

@[simp] theorem Ty.borrows_unplaced (t : Ty) : t.unplaced.borrows = t.borrows :=
  Search.inType_unplaced ⟨fun t => by cases t <;> rfl, fun _ => rfl⟩ t

@[simp] theorem Ty.mentionsImplTrait_unplaced (t : Ty) :
    t.unplaced.mentionsImplTrait = t.mentionsImplTrait :=
  Search.inType_unplaced ⟨fun t => by cases t <;> rfl, fun _ => rfl⟩ t

/-! ## Names of variants -/

theorem withoutAttributes_unplaced (code : Code) :
    withoutAttributes (code.map Fragment.unplaced) =
      (withoutAttributes code).map Fragment.unplaced := by
  fun_induction withoutAttributes code with
  | case1 joint o opened closed body rest ih => exact ih
  | case2 code other =>
    -- Without places there is no attribute in front either.
    rw [withoutAttributes]
    intro joint o opened closed body rest eq
    match code, other, eq with
    | .tree (.punct c joint o) :: .group d opened closed body :: rest, other, eq =>
      obtain ⟨rfl, rfl⟩ : c = '#' ∧ d = .bracket := by simp_all [Fragment.unplaced, Tree.unplaced]
      exact other joint o opened closed body rest rfl

@[simp] theorem lengthDigits_unplaced (code : Code) :
    lengthDigits (code.map Fragment.unplaced) = lengthDigits code := by
  rw [lengthDigits, withoutAttributes_unplaced, lengthDigits]
  match withoutAttributes code with
  | [] => rfl
  | [.tree t] => cases t <;> rfl
  | [.group ..] | [.path _] | [.type _] | [.skipped _] => rfl
  | .tree t :: _ :: _ => cases t <;> rfl
  | .group .. :: _ :: _ | .path _ :: _ :: _ | .type _ :: _ :: _ | .skipped _ :: _ :: _ => rfl

mutual

@[simp] theorem Ty.variantName_unplaced : ∀ t : Ty, t.unplaced.variantName = t.variantName
  | .path p => by rw [Ty.unplaced, Ty.variantName, Ty.variantName, Path.variantName_unplaced p]
  | .tuple _ elems _ => by simp [Ty.unplaced, Ty.variantName, Ty.variantNames_unplaced elems]
  | .array _ elem length => by simp [Ty.unplaced, Ty.variantName, Ty.variantName_unplaced elem]
  | .slice _ elem => by simp [Ty.unplaced, Ty.variantName, Ty.variantName_unplaced elem]
  | .paren _ inner => by simp [Ty.unplaced, Ty.variantName, Ty.variantName_unplaced inner]
  | .reference .. | .pointer .. | .never _ | .inferred _ | .function _ | .traitObject _
  | .implTrait _ | .invocation .. | .unparsed _ => rfl

theorem Ty.variantNames_unplaced : ∀ ts : List Ty,
    Ty.variantNames (ts.map Ty.unplaced) = Ty.variantNames ts
  | [] => rfl
  | t :: ts => by
    simp [Ty.variantNames, Ty.variantName_unplaced t, Ty.variantNames_unplaced ts]

theorem Path.variantName_unplaced : ∀ p : Path, p.unplaced.variantName = p.variantName
  | .plain _ segments => by
    simp [Path.unplaced, Path.variantName, Segment.lastVariantName_unplaced segments]
  | .qualified _ _ _ _ rest => by
    simp [Path.unplaced, Path.variantName, Segment.lastVariantName_unplaced rest]

theorem Segment.variantName_unplaced : ∀ s : Segment, s.unplaced.variantName = s.variantName
  | .plain i => rfl
  | .generic i _ args _ => by
    simp [Segment.unplaced, Segment.variantName, Argument.variantNames_unplaced args]

theorem Segment.lastVariantName_unplaced : ∀ ss : List Segment,
    Segment.lastVariantName (ss.map Segment.unplaced) = Segment.lastVariantName ss
  | [] => rfl
  | [s] => by simp [Segment.lastVariantName, Segment.variantName_unplaced s]
  | _ :: s :: ss => by
    simpa [Segment.lastVariantName] using Segment.lastVariantName_unplaced (s :: ss)

theorem Argument.variantName_unplaced : ∀ a : Argument, a.unplaced.variantName = a.variantName
  | .type t => by simp [Argument.unplaced, Argument.variantName, Ty.variantName_unplaced t]
  | .lifetime _ | .other _ => rfl

theorem Argument.variantNames_unplaced : ∀ as : List Argument,
    Argument.variantNames (as.map Argument.unplaced) = Argument.variantNames as
  | [] => rfl
  | a :: as => by
    simp [Argument.variantNames, Argument.variantName_unplaced a, Argument.variantNames_unplaced as]

end

/-! ## Types that can be cloned -/

mutual

theorem isClone_unplaced {c c' : Catalogue} (same : c.cloneable = c'.cloneable) :
    ∀ t : Ty, c'.isClone t.unplaced = c.isClone t
  | .reference .. => rfl
  | .paren _ inner => by simp [Ty.unplaced, Catalogue.isClone, isClone_unplaced same inner]
  | .tuple _ elems _ => by simp [Ty.unplaced, Catalogue.isClone, areClone_unplaced same elems]
  | .array _ elem _ => by simp [Ty.unplaced, Catalogue.isClone, isClone_unplaced same elem]
  | .path (.plain leading segments) => by
    have key := Ty.key_unplaced (.path (.plain leading segments))
    simp_all [Ty.unplaced, Path.unplaced, Catalogue.isClone, lastIsClone_unplaced same segments]
  | .path (.qualified ..) => rfl
  | .pointer .. | .slice .. | .never _ | .inferred _ | .function _ | .traitObject _
  | .implTrait _ | .invocation .. | .unparsed _ => rfl

theorem areClone_unplaced {c c' : Catalogue} (same : c.cloneable = c'.cloneable) :
    ∀ ts : List Ty, c'.areClone (ts.map Ty.unplaced) = c.areClone ts
  | [] => rfl
  | t :: ts => by simp [Catalogue.areClone, isClone_unplaced same t, areClone_unplaced same ts]

theorem lastIsClone_unplaced {c c' : Catalogue} (same : c.cloneable = c'.cloneable) :
    ∀ ss : List Segment,
    c'.lastIsClone (ss.map Segment.unplaced) = c.lastIsClone ss
  | [] => rfl
  | [s] => by simp [Catalogue.lastIsClone, segmentIsClone_unplaced same s]
  | _ :: s :: ss => by simpa [Catalogue.lastIsClone] using lastIsClone_unplaced same (s :: ss)

theorem segmentIsClone_unplaced {c c' : Catalogue} (same : c.cloneable = c'.cloneable) :
    ∀ s : Segment, c'.segmentIsClone s.unplaced = c.segmentIsClone s
  | .plain _ => rfl
  | .generic _ _ args _ => by
    simp [Segment.unplaced, Catalogue.segmentIsClone, argumentsAreClone_unplaced same args]

theorem argumentsAreClone_unplaced {c c' : Catalogue} (same : c.cloneable = c'.cloneable) :
    ∀ as : List Argument,
    c'.argumentsAreClone (as.map Argument.unplaced) = c.argumentsAreClone as
  | [] => rfl
  | a :: as => by
    simp [Catalogue.argumentsAreClone, argumentIsClone_unplaced same a,
      argumentsAreClone_unplaced same as]

theorem argumentIsClone_unplaced {c c' : Catalogue} (same : c.cloneable = c'.cloneable) :
    ∀ a : Argument,
    c'.argumentIsClone a.unplaced = c.argumentIsClone a
  | .type t => by simp [Argument.unplaced, Catalogue.argumentIsClone, isClone_unplaced same t]
  | .lifetime _ | .other _ => rfl

end

end SharedMembers
