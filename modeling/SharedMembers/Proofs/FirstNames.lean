import SharedMembers.Type.Mention

/-!
# The names with which paths begin

A path in a type begins with a name, and so do the paths in its arguments and in the code of
lengths and constants. The type is taken apart here into these names and all else, and put together
again. Tokens that are not understood hold no paths.

Results:
* `Ty.roots`, `Ty.fill`: the first names of the paths in a type, and other names in their places.
* `Ty.fill_roots`: a type is what it is without the first names of its paths, and these.
* `Ty.mentionsSelf_iff`: the search for `Self` looks at these names.
-/

namespace SharedMembers

/-! ## The first names of paths -/

/-- The name of the first segment. -/
def firstName : List Segment → List Ident
  | [] => []
  | s :: _ => [s.ident]

mutual

/-- The names with which the paths in a type begin, at any depth, in their order. -/
def Ty.roots : Ty → List Ident
  | .path p => p.roots
  | .reference _ _ _ t | .pointer _ _ t | .paren _ t | .slice _ t => t.roots
  | .tuple _ elems _ => Ty.rootsEach elems
  | .array _ elem length => elem.roots ++ Fragment.rootsAll length
  | .never _ | .inferred _ | .unparsed _ => []
  | .function code | .traitObject code | .implTrait code => Fragment.rootsAll code
  | .invocation p code => p.roots ++ Fragment.rootsAll code

/-- The first names in each type. -/
def Ty.rootsEach : List Ty → List Ident
  | [] => []
  | t :: ts => t.roots ++ Ty.rootsEach ts

/-- The first name of a path and those of the paths in it. -/
def Path.roots : Path → List Ident
  | .plain _ segments => firstName segments ++ Segment.rootsEach segments
  | .qualified _ self _ traitSegments rest =>
    self.roots ++ (firstName (traitSegments ++ rest) ++
      (Segment.rootsEach traitSegments ++ Segment.rootsEach rest))

/-- The first names in the arguments of a segment. -/
def Segment.roots : Segment → List Ident
  | .plain _ => []
  | .generic _ _ args _ => Argument.rootsEach args

/-- The first names in the arguments of each segment. -/
def Segment.rootsEach : List Segment → List Ident
  | [] => []
  | s :: ss => s.roots ++ Segment.rootsEach ss

/-- The first names in an argument. -/
def Argument.roots : Argument → List Ident
  | .lifetime _ => []
  | .type t => t.roots
  | .other code => Fragment.rootsAll code

/-- The first names in each argument. -/
def Argument.rootsEach : List Argument → List Ident
  | [] => []
  | a :: as => a.roots ++ Argument.rootsEach as

/-- The first names in a piece of code. -/
def Fragment.roots : Fragment → List Ident
  | .tree _ | .skipped _ => []
  | .group _ _ _ body => Fragment.rootsAll body
  | .path p => p.roots
  | .type t => t.roots

/-- The first names in code. -/
def Fragment.rootsAll : List Fragment → List Ident
  | [] => []
  | f :: fs => f.roots ++ Fragment.rootsAll fs

end

/-! ## Other names in their places -/

/-- The name for the first of the segments, and the names that are left. It is empty if none is. -/
def nextName : List Segment → List Ident → Ident × List Ident
  | _ :: _, i :: names => (i, names)
  | _, names => (.generated "", names)

/-- The segments with another first name. -/
def withFirst (i : Ident) : List Segment → List Segment
  | [] => []
  | s :: ss => s.withIdent i :: ss

mutual

/-- The type with these names for its paths to begin with, and the names that are left. -/
def Ty.fill : Ty → List Ident → Ty × List Ident
  | .path p, names =>
    let (p, names) := p.fill names
    (.path p, names)
  | .reference o lifetime mutable t, names =>
    let (t, names) := t.fill names
    (.reference o lifetime mutable t, names)
  | .pointer o mutable t, names =>
    let (t, names) := t.fill names
    (.pointer o mutable t, names)
  | .paren o t, names =>
    let (t, names) := t.fill names
    (.paren o t, names)
  | .slice o t, names =>
    let (t, names) := t.fill names
    (.slice o t, names)
  | .tuple o elems trailing, names =>
    let (elems, names) := Ty.fillEach elems names
    (.tuple o elems trailing, names)
  | .array o elem length, names =>
    let (elem, names) := elem.fill names
    let (length, names) := Fragment.fillAll length names
    (.array o elem length, names)
  | .never o, names => (.never o, names)
  | .inferred o, names => (.inferred o, names)
  | .unparsed tokens, names => (.unparsed tokens, names)
  | .function code, names =>
    let (code, names) := Fragment.fillAll code names
    (.function code, names)
  | .traitObject code, names =>
    let (code, names) := Fragment.fillAll code names
    (.traitObject code, names)
  | .implTrait code, names =>
    let (code, names) := Fragment.fillAll code names
    (.implTrait code, names)
  | .invocation p code, names =>
    let (p, names) := p.fill names
    let (code, names) := Fragment.fillAll code names
    (.invocation p code, names)

/-- The types with these first names, and the names that are left. -/
def Ty.fillEach : List Ty → List Ident → List Ty × List Ident
  | [], names => ([], names)
  | t :: ts, names =>
    let (t, names) := t.fill names
    let (ts, names) := Ty.fillEach ts names
    (t :: ts, names)

/-- The path with these first names, and the names that are left. -/
def Path.fill : Path → List Ident → Path × List Ident
  | .plain leading segments, names =>
    let (first, names) := nextName segments names
    let (segments, names) := Segment.fillEach segments names
    (.plain leading (withFirst first segments), names)
  | .qualified o self leading traitSegments rest, names =>
    let (self, names) := self.fill names
    let (first, names) := nextName (traitSegments ++ rest) names
    let (traitSegments', names) := Segment.fillEach traitSegments names
    let (rest', names) := Segment.fillEach rest names
    (.qualified o self leading (withFirst first traitSegments')
      (if traitSegments.isEmpty then withFirst first rest' else rest'), names)

/-- The segment with these first names in its arguments, and the names that are left. -/
def Segment.fill : Segment → List Ident → Segment × List Ident
  | .plain i, names => (.plain i, names)
  | .generic i colons args trailing, names =>
    let (args, names) := Argument.fillEach args names
    (.generic i colons args trailing, names)

/-- The segments with these first names in their arguments, and the names that are left. -/
def Segment.fillEach : List Segment → List Ident → List Segment × List Ident
  | [], names => ([], names)
  | s :: ss, names =>
    let (s, names) := s.fill names
    let (ss, names) := Segment.fillEach ss names
    (s :: ss, names)

/-- The argument with these first names, and the names that are left. -/
def Argument.fill : Argument → List Ident → Argument × List Ident
  | .lifetime i, names => (.lifetime i, names)
  | .type t, names =>
    let (t, names) := t.fill names
    (.type t, names)
  | .other code, names =>
    let (code, names) := Fragment.fillAll code names
    (.other code, names)

/-- The arguments with these first names, and the names that are left. -/
def Argument.fillEach : List Argument → List Ident → List Argument × List Ident
  | [], names => ([], names)
  | a :: as, names =>
    let (a, names) := a.fill names
    let (as, names) := Argument.fillEach as names
    (a :: as, names)

/-- The piece of code with these first names, and the names that are left. -/
def Fragment.fill : Fragment → List Ident → Fragment × List Ident
  | .tree t, names => (.tree t, names)
  | .skipped tokens, names => (.skipped tokens, names)
  | .group d opened closed body, names =>
    let (body, names) := Fragment.fillAll body names
    (.group d opened closed body, names)
  | .path p, names =>
    let (p, names) := p.fill names
    (.path p, names)
  | .type t, names =>
    let (t, names) := t.fill names
    (.type t, names)

/-- The code with these first names, and the names that are left. -/
def Fragment.fillAll : List Fragment → List Ident → List Fragment × List Ident
  | [], names => ([], names)
  | f :: fs, names =>
    let (f, names) := f.fill names
    let (fs, names) := Fragment.fillAll fs names
    (f :: fs, names)

end

/-! ## A type is filled with its own names -/

theorem Segment.withIdent_ident (s : Segment) : s.withIdent s.ident = s := by
  cases s <;> rfl

theorem nextName_firstName (ss : List Segment) (names : List Ident) :
    ∃ i, nextName ss (firstName ss ++ names) = (i, names) ∧ withFirst i ss = ss := by
  cases ss with
  | nil => exact ⟨.generated "", rfl, rfl⟩
  | cons s ss => exact ⟨s.ident, rfl, congrArg (· :: ss) s.withIdent_ident⟩

mutual

theorem Ty.fill_roots_append (names : List Ident) :
    ∀ t : Ty, t.fill (t.roots ++ names) = (t, names)
  | .path p => by simp only [Ty.roots, Ty.fill, Path.fill_roots_append names p]
  | .reference _ _ _ t | .pointer _ _ t | .paren _ t | .slice _ t => by
    simp only [Ty.roots, Ty.fill, Ty.fill_roots_append names t]
  | .tuple _ elems _ => by simp only [Ty.roots, Ty.fill, Ty.fillEach_roots_append names elems]
  | .array _ elem length => by
    simp only [Ty.roots, Ty.fill, List.append_assoc, Ty.fill_roots_append _ elem,
      Fragment.fillAll_roots_append names length]
  | .never _ | .inferred _ | .unparsed _ => rfl
  | .function code | .traitObject code | .implTrait code => by
    simp only [Ty.roots, Ty.fill, Fragment.fillAll_roots_append names code]
  | .invocation p code => by
    simp only [Ty.roots, Ty.fill, List.append_assoc, Path.fill_roots_append _ p,
      Fragment.fillAll_roots_append names code]

theorem Ty.fillEach_roots_append (names : List Ident) :
    ∀ ts : List Ty, Ty.fillEach ts (Ty.rootsEach ts ++ names) = (ts, names)
  | [] => rfl
  | t :: ts => by
    simp only [Ty.rootsEach, Ty.fillEach, List.append_assoc, Ty.fill_roots_append _ t,
      Ty.fillEach_roots_append names ts]

theorem Path.fill_roots_append (names : List Ident) :
    ∀ p : Path, p.fill (p.roots ++ names) = (p, names)
  | .plain leading segments => by
    obtain ⟨i, next, own⟩ := nextName_firstName segments (Segment.rootsEach segments ++ names)
    simp only [Path.roots, Path.fill, List.append_assoc, next,
      Segment.fillEach_roots_append names segments, own]
  | .qualified o self leading traitSegments rest => by
    obtain ⟨i, next, own⟩ := nextName_firstName (traitSegments ++ rest)
      (Segment.rootsEach traitSegments ++ (Segment.rootsEach rest ++ names))
    simp only [Path.roots, Path.fill, List.append_assoc, Ty.fill_roots_append _ self, next,
      Segment.fillEach_roots_append _ traitSegments, Segment.fillEach_roots_append names rest]
    cases traitSegments with
    | nil => rw [List.isEmpty_nil, if_pos rfl, show withFirst i rest = rest from own]; rfl
    | cons s ss =>
      rw [withFirst, (List.cons.inj own).1]
      rfl

theorem Segment.fill_roots_append (names : List Ident) :
    ∀ s : Segment, s.fill (s.roots ++ names) = (s, names)
  | .plain _ => rfl
  | .generic _ _ args _ => by
    simp only [Segment.roots, Segment.fill, Argument.fillEach_roots_append names args]

theorem Segment.fillEach_roots_append (names : List Ident) :
    ∀ ss : List Segment, Segment.fillEach ss (Segment.rootsEach ss ++ names) = (ss, names)
  | [] => rfl
  | s :: ss => by
    simp only [Segment.rootsEach, Segment.fillEach, List.append_assoc,
      Segment.fill_roots_append _ s, Segment.fillEach_roots_append names ss]

theorem Argument.fill_roots_append (names : List Ident) :
    ∀ a : Argument, a.fill (a.roots ++ names) = (a, names)
  | .lifetime _ => rfl
  | .type t => by simp only [Argument.roots, Argument.fill, Ty.fill_roots_append names t]
  | .other code => by
    simp only [Argument.roots, Argument.fill, Fragment.fillAll_roots_append names code]

theorem Argument.fillEach_roots_append (names : List Ident) :
    ∀ as : List Argument, Argument.fillEach as (Argument.rootsEach as ++ names) = (as, names)
  | [] => rfl
  | a :: as => by
    simp only [Argument.rootsEach, Argument.fillEach, List.append_assoc,
      Argument.fill_roots_append _ a, Argument.fillEach_roots_append names as]

theorem Fragment.fill_roots_append (names : List Ident) :
    ∀ f : Fragment, f.fill (f.roots ++ names) = (f, names)
  | .tree _ | .skipped _ => rfl
  | .group _ _ _ body => by
    simp only [Fragment.roots, Fragment.fill, Fragment.fillAll_roots_append names body]
  | .path p => by simp only [Fragment.roots, Fragment.fill, Path.fill_roots_append names p]
  | .type t => by simp only [Fragment.roots, Fragment.fill, Ty.fill_roots_append names t]

theorem Fragment.fillAll_roots_append (names : List Ident) :
    ∀ fs : List Fragment, Fragment.fillAll fs (Fragment.rootsAll fs ++ names) = (fs, names)
  | [] => rfl
  | f :: fs => by
    simp only [Fragment.rootsAll, Fragment.fillAll, List.append_assoc,
      Fragment.fill_roots_append _ f, Fragment.fillAll_roots_append names fs]

end

/-- A type is what it is without the first names of its paths, and these. -/
theorem Ty.fill_roots (t : Ty) : t.fill t.roots = (t, []) := by
  have own := t.fill_roots_append []
  rwa [List.append_nil] at own

/-! ## The search for `Self` -/

/-- The name is `Self`. -/
def Ident.isSelf (i : Ident) : Bool :=
  i.name == "Self"

theorem selfSearch_path (p : Path) :
    Ty.selfSearch.path p = (firstName p.segments).any Ident.isSelf := by
  show p.first?.any _ = _
  unfold Path.first?
  cases p.segments with
  | nil => rfl
  | cons s ss => exact (Bool.or_false _).symm

mutual

theorem Ty.inType_selfSearch :
    ∀ t : Ty, Ty.selfSearch.inType t = t.roots.any Ident.isSelf
  | .path p => by
    simp only [Search.inType, Ty.roots, Path.inPath_selfSearch p]
    rfl
  | .reference _ _ _ t | .pointer _ _ t | .paren _ t | .slice _ t => by
    simp only [Search.inType, Ty.roots, Ty.inType_selfSearch t]
    rfl
  | .tuple _ elems _ => by
    simp only [Search.inType, Ty.roots, Ty.inTypes_selfSearch elems]
    rfl
  | .array _ elem length => by
    simp only [Search.inType, Ty.roots, Ty.inType_selfSearch elem,
      Fragment.inCode_selfSearch length, List.any_append]
    rfl
  | .never _ | .inferred _ | .unparsed _ => rfl
  | .function code | .traitObject code | .implTrait code => by
    simp only [Search.inType, Ty.roots, Fragment.inCode_selfSearch code]
    rfl
  | .invocation p code => by
    simp only [Search.inType, Ty.roots, Path.inPath_selfSearch p,
      Fragment.inCode_selfSearch code, List.any_append]
    rfl

theorem Ty.inTypes_selfSearch :
    ∀ ts : List Ty, Ty.selfSearch.inTypes ts = (Ty.rootsEach ts).any Ident.isSelf
  | [] => rfl
  | t :: ts => by
    simp only [Search.inTypes, Ty.rootsEach, Ty.inType_selfSearch t, Ty.inTypes_selfSearch ts,
      List.any_append]

theorem Path.inPath_selfSearch :
    ∀ p : Path, Ty.selfSearch.inPath p = p.roots.any Ident.isSelf
  | .plain _ segments => by
    simp only [Search.inPath, selfSearch_path, Path.segments, Path.roots,
      Segment.inSegments_selfSearch segments, List.any_append]
  | .qualified _ self _ traitSegments rest => by
    simp only [Search.inPath, selfSearch_path, Path.segments, Path.roots,
      Ty.inType_selfSearch self, Segment.inSegments_selfSearch traitSegments,
      Segment.inSegments_selfSearch rest, List.any_append, Bool.or_assoc, Bool.or_left_comm]

theorem Segment.inSegment_selfSearch :
    ∀ s : Segment, Ty.selfSearch.inSegment s = s.roots.any Ident.isSelf
  | .plain _ => rfl
  | .generic _ _ args _ => by
    simp only [Search.inSegment, Segment.roots, Argument.inArguments_selfSearch args]

theorem Segment.inSegments_selfSearch :
    ∀ ss : List Segment, Ty.selfSearch.inSegments ss = (Segment.rootsEach ss).any Ident.isSelf
  | [] => rfl
  | s :: ss => by
    simp only [Search.inSegments, Segment.rootsEach, Segment.inSegment_selfSearch s,
      Segment.inSegments_selfSearch ss, List.any_append]

theorem Argument.inArgument_selfSearch :
    ∀ a : Argument, Ty.selfSearch.inArgument a = a.roots.any Ident.isSelf
  | .lifetime _ => rfl
  | .type t => by simp only [Search.inArgument, Argument.roots, Ty.inType_selfSearch t]
  | .other code => by
    simp only [Search.inArgument, Argument.roots, Fragment.inCode_selfSearch code]

theorem Argument.inArguments_selfSearch :
    ∀ as : List Argument,
      Ty.selfSearch.inArguments as = (Argument.rootsEach as).any Ident.isSelf
  | [] => rfl
  | a :: as => by
    simp only [Search.inArguments, Argument.rootsEach, Argument.inArgument_selfSearch a,
      Argument.inArguments_selfSearch as, List.any_append]

theorem Fragment.inFragment_selfSearch :
    ∀ f : Fragment, Ty.selfSearch.inFragment f = f.roots.any Ident.isSelf
  | .tree _ | .skipped _ => rfl
  | .group _ _ _ body => by
    simp only [Search.inFragment, Fragment.roots, Fragment.inCode_selfSearch body]
  | .path p => by simp only [Search.inFragment, Fragment.roots, Path.inPath_selfSearch p]
  | .type t => by simp only [Search.inFragment, Fragment.roots, Ty.inType_selfSearch t]

theorem Fragment.inCode_selfSearch :
    ∀ fs : List Fragment, Ty.selfSearch.inCode fs = (Fragment.rootsAll fs).any Ident.isSelf
  | [] => rfl
  | f :: fs => by
    simp only [Search.inCode, Fragment.rootsAll, Fragment.inFragment_selfSearch f,
      Fragment.inCode_selfSearch fs, List.any_append]

end

/-- A type mentions `Self` iff a path in it begins with that name. -/
theorem Ty.mentionsSelf_iff (t : Ty) :
    t.mentionsSelf = true ↔ ∃ i ∈ t.roots, i.name = "Self" := by
  show Ty.selfSearch.inType t = true ↔ _
  rw [Ty.inType_selfSearch, List.any_eq_true]
  simp only [Ident.isSelf, beq_iff_eq]

end SharedMembers
