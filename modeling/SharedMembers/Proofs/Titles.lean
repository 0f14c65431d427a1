import SharedMembers.Proofs.Registration
import Mathlib.Data.List.Chain

/-!
# The titles of subtypes

A wrapper shows its subtypes to people by their titles, the display forms without the blanks next to
brackets, colons, ampersands and commas. The blanks are found in the text alone, whether they stand
between two tokens or in a literal.

Results:
* `sublist_tightened`, `filter_tightened`: a title has lost nothing but blanks.
* `confusable_of_title_eq`: two types without such blanks in their literals that have one title have
  one display form, or two characters that one of them writes together and the other apart.
* `titles_apart`: so the titles of an emitted wrapper are different unless two of its types can be
  confused.
* `titles_repeated`: the titles of an emitted wrapper that are not different.
-/

namespace SharedMembers

/-! ## Blanks in a text -/

theorem sublist_tightened (last : Option Char) (cs : List Char) :
    (tightened last cs).Sublist cs := by
  induction cs generalizing last with
  | nil => exact .slnil
  | cons c cs ih =>
    rw [tightened]
    split
    · exact (ih last).cons c
    · exact (ih (some c)).cons_cons c

theorem filter_tightened (last : Option Char) (cs : List Char) :
    (tightened last cs).filter (· ≠ ' ') = cs.filter (· ≠ ' ') := by
  induction cs generalizing last with
  | nil => rfl
  | cons c cs ih =>
    rw [tightened]
    split
    next dropped =>
      have blank : c = ' ' := of_decide_eq_true (Bool.and_eq_true_iff.1 dropped).1
      rw [ih, blank]
      rfl
    next => rw [List.filter_cons, List.filter_cons, ih]

theorem tightened_cons {c : Char} (ink : c ≠ ' ') (last : Option Char) (cs : List Char) :
    tightened last (c :: cs) = c :: tightened (some c) cs := by
  simp [tightened, ink]

/-- No blank is kept between the two characters. -/
def tight (x y : Char) : Bool :=
  tightAfter x || tightBefore y

theorem tightBefore_of_tightAfter {c : Char} (h : tightAfter c = true) : tightBefore c = true := by
  simp only [tightAfter, tightBefore, List.contains_iff_mem, List.mem_cons, List.not_mem_nil,
    or_false] at h ⊢
  tauto

/-- A character with whether a blank stands in front of it. -/
structure Glyph where
  spaced : Bool
  char : Char
deriving Repr, DecidableEq

/-- A blank, or nothing. -/
def blankIf (spaced : Bool) : List Char :=
  if spaced then [' '] else []

/-- The text of the glyphs. -/
def written (gs : List Glyph) : List Char :=
  gs.flatMap fun g => blankIf g.spaced ++ [g.char]

/-- The glyphs without the blanks that are not kept; `last` is the character written before. -/
def closedUp : (last : Option Char) → List Glyph → List Glyph
  | _, [] => []
  | last, g :: gs =>
    ⟨g.spaced && !(last.any tightAfter || tightBefore g.char), g.char⟩ :: closedUp (some g.char) gs

/-- No glyph is itself a blank. -/
def Inked (gs : List Glyph) : Prop :=
  ∀ g ∈ gs, g.char ≠ ' '

theorem written_append (gs hs : List Glyph) : written (gs ++ hs) = written gs ++ written hs :=
  List.flatMap_append

theorem written_cons (g : Glyph) (gs : List Glyph) :
    written (g :: gs) = blankIf g.spaced ++ g.char :: written gs := by
  simp [written]

theorem tightened_written {gs : List Glyph} (ink : Inked gs) (last : Option Char) :
    tightened last (written gs) = written (closedUp last gs) := by
  induction gs generalizing last with
  | nil => rfl
  | cons g gs ih =>
    obtain ⟨inkHead, inkTail⟩ := List.forall_mem_cons.1 ink
    obtain ⟨spaced, c⟩ := g
    have rest : ∀ last, tightened last (c :: written gs) = c :: written (closedUp (some c) gs) := by
      intro last
      rw [tightened_cons inkHead, ih inkTail]
    rw [closedUp, written_cons, written_cons]
    cases spaced with
    | false => simpa [blankIf] using rest last
    | true =>
      by_cases dropped : last.any tightAfter || tightBefore c
      · simpa [blankIf, tightened, dropped, Bool.or_comm] using rest last
      · simpa [blankIf, tightened, dropped, Bool.or_comm] using rest (some ' ')

theorem written_injective {gs hs : List Glyph} (ink : Inked gs) (ink' : Inked hs)
    (same : written gs = written hs) : gs = hs := by
  induction gs generalizing hs with
  | nil =>
    cases hs with
    | nil => rfl
    | cons h hs => simp [written] at same
  | cons g gs ih =>
    cases hs with
    | nil => simp [written] at same
    | cons h hs =>
      obtain ⟨inkHead, inkTail⟩ := List.forall_mem_cons.1 ink
      obtain ⟨inkHead', inkTail'⟩ := List.forall_mem_cons.1 ink'
      obtain ⟨spaced, c⟩ := g
      obtain ⟨spaced', c'⟩ := h
      rw [written_cons, written_cons] at same
      -- A blank is told from a character by its looks.
      cases spaced <;> cases spaced' <;> simp [blankIf] at same inkHead inkHead'
      · rw [same.1, ih inkTail inkTail' same.2]
      · exact absurd same.1 inkHead
      · exact absurd same.1.symm inkHead'
      · rw [same.1, ih inkTail inkTail' same.2]

theorem inked_closedUp {gs : List Glyph} (ink : Inked gs) (last : Option Char) :
    Inked (closedUp last gs) := by
  induction gs generalizing last with
  | nil => exact ink
  | cons g gs ih =>
    obtain ⟨inkHead, inkTail⟩ := List.forall_mem_cons.1 ink
    exact List.forall_mem_cons.2 ⟨inkHead, ih inkTail (some g.char)⟩

/-! ## Where characters meet -/

/-- Two characters that meet, and whether a blank is between them. -/
structure Seam where
  left : Char
  spaced : Bool
  right : Char
deriving Repr, DecidableEq

/-- The same two characters meet with a blank and without one, and no title shows which it was. -/
def Seam.Clashes (s s' : Seam) : Prop :=
  s.left = s'.left ∧ s.right = s'.right ∧ tight s.left s.right = true ∧ s.spaced ≠ s'.spaced

instance (s s' : Seam) : Decidable (s.Clashes s') :=
  inferInstanceAs (Decidable (_ ∧ _ ∧ _ ∧ _))

/-- If no blank is kept between the glyphs, they meet at one of the seams. -/
def Fits (seams : List Seam) (g h : Glyph) : Prop :=
  tight g.char h.char = true → ⟨g.char, h.spaced, h.char⟩ ∈ seams

theorem Fits.mono {S S' : List Seam} (sub : S ⊆ S') {g h : Glyph} (fits : Fits S g h) :
    Fits S' g h :=
  fun near => sub (fits near)

/-- Glyphs that look alike when they are closed up are the same unless two of their seams clash. -/
theorem eq_of_closedUp_eq {S S' : List Seam} (apart : ∀ s ∈ S, ∀ s' ∈ S', ¬s.Clashes s')
    {g g' : Glyph} {gs hs : List Glyph} (first : g.char = g'.char)
    (fits : (g :: gs).IsChain (Fits S)) (fits' : (g' :: hs).IsChain (Fits S'))
    (same : closedUp (some g.char) gs = closedUp (some g'.char) hs) : gs = hs := by
  induction gs generalizing g g' hs with
  | nil =>
    cases hs with
    | nil => rfl
    | cons h hs => simp [closedUp] at same
  | cons k gs ih =>
    cases hs with
    | nil => simp [closedUp] at same
    | cons h hs =>
      obtain ⟨fit, fits⟩ := List.isChain_cons_cons.1 fits
      obtain ⟨fit', fits'⟩ := List.isChain_cons_cons.1 fits'
      simp only [closedUp, List.cons.injEq, Glyph.mk.injEq, Option.any_some] at same
      obtain ⟨⟨blanks, char⟩, rest⟩ := same
      have spaced : k.spaced = h.spaced := by
        by_contra differ
        have near : tight g.char k.char = true := by
          by_contra far
          rw [Bool.not_eq_true, tight] at far
          rw [← first, ← char, far] at blanks
          exact differ (by simpa using blanks)
        have near' : tight g'.char h.char = true := by rwa [← first, ← char]
        exact apart _ (fit near) _ (fit' near') ⟨first, char, near, differ⟩
      have head : k = h := by
        cases k
        cases h
        exact congrArg₂ Glyph.mk spaced char
      rw [head, ih char fits fits' rest]

/-! ## Where tokens meet -/

/-- The seam between two texts. -/
def meeting (left : String) (spaced : Bool) (right : String) : List Seam :=
  match left.toList.getLast?, right.toList.head? with
  | some x, some y => [⟨x, spaced, y⟩]
  | _, _ => []

/-- The glyphs of a text in which there is no blank. -/
def marked (before : Bool) : List Char → List Glyph
  | [] => []
  | c :: cs => ⟨before, c⟩ :: cs.map (⟨false, ·⟩)

/-- The text is not empty and holds neither a blank nor a character that blanks are dropped next
to. -/
def solidText (s : String) : Bool :=
  !s.toList.isEmpty && s.toList.all fun c => c ≠ ' ' && !tightBefore c

namespace Tree

mutual

/-- All words and literals are solid. -/
def solid : Tree → Bool
  | group _ body _ _ => solidAll body
  | punct c _ _ => c ≠ ' '
  | t => solidText t.display

/-- All words and literals of the run are solid. -/
def solidAll : List Tree → Bool
  | [] => true
  | t :: ts => solid t && solidAll ts

end

mutual

/-- Where the tokens inside a token meet one another and the brackets. -/
def seams : Tree → List Seam
  | group d [] _ _ => meeting d.opening (d = .brace) d.closing
  | group d (t :: ts) _ _ =>
    meeting d.opening (d = .brace) (displayAll (t :: ts)) ++ seamsAll (t :: ts) ++
      meeting (displayAll (t :: ts)) (d = .brace) d.closing
  | _ => []

/-- Where the tokens of a run meet, those inside them included. -/
def seamsAll : List Tree → List Seam
  | [] => []
  | t :: ts => seams t ++ meeting t.display (!t.isJoint) (displayAll ts) ++ seamsAll ts

end

mutual

/-- The glyphs of a token in display form. -/
def glyphs (before : Bool) : Tree → List Glyph
  | group d body _ _ =>
    marked before d.opening.toList ++ glyphsAll (d = .brace) body ++
      marked (d = .brace) d.closing.toList
  | t => marked before t.display.toList

/-- The glyphs of a run in display form. -/
def glyphsAll (before : Bool) : List Tree → List Glyph
  | [] => []
  | t :: ts => glyphs before t ++ glyphsAll (!t.isJoint) ts

end

end Tree

/-- The glyphs are those of a text that is written behind a blank or without one, and no blank
next to them is dropped but at the seams. -/
structure Prints (before : Bool) (text : String) (seams : List Seam) (gs : List Glyph) : Prop where
  text : written gs = blankIf before ++ text.toList
  begins : ∃ c rest, gs = ⟨before, c⟩ :: rest
  inked : Inked gs
  fits : gs.IsChain (Fits seams)

theorem meeting_append {a b : String} (nonempty : b.toList ≠ []) (spaced : Bool) (c : String) :
    meeting (a ++ b) spaced c = meeting b spaced c := by
  rw [meeting, String.toList_append, List.getLast?_append_of_ne_nil _ nonempty, meeting]

namespace Prints

variable {before spaced : Bool} {left right : String} {S S' : List Seam} {gs hs : List Glyph}

theorem mono (h : Prints before left S gs) (sub : S ⊆ S') : Prints before left S' gs where
  text := h.text
  begins := h.begins
  inked := h.inked
  fits := h.fits.imp fun _ _ fits => fits.mono sub

theorem head? (h : Prints before left S gs) : ∃ c, left.toList.head? = some c ∧
    ∃ rest, gs = ⟨before, c⟩ :: rest := by
  obtain ⟨c, rest, rfl⟩ := h.begins
  have text := h.text
  rw [written_cons, List.append_cancel_left_eq] at text
  exact ⟨c, by rw [← text]; rfl, rest, rfl⟩

theorem nonempty (h : Prints before left S gs) : left.toList ≠ [] := by
  obtain ⟨c, head, -⟩ := h.head?
  intro empty
  rw [empty] at head
  cases head

theorem getLast? (h : Prints before left S gs) {g : Glyph} (last : g ∈ gs.getLast?) :
    left.toList.getLast? = some g.char := by
  obtain ⟨gs, rfl⟩ := List.getLast?_eq_some_iff.1 last
  have ends := congrArg List.getLast? h.text
  rw [written_append, written_cons, List.getLast?_append_of_ne_nil _ h.nonempty] at ends
  rw [← ends]
  simp [written]

/-- What is written behind a text meets it at one more seam. -/
theorem append (h : Prints before left S gs) (h' : Prints spaced right S' hs) :
    Prints before (left ++ String.ofList (blankIf spaced) ++ right)
      (S ++ meeting left spaced right ++ S') (gs ++ hs) where
  text := by
    rw [written_append, h.text, h'.text]
    simp
  begins := by
    obtain ⟨c, rest, rfl⟩ := h.begins
    exact ⟨c, rest ++ hs, rfl⟩
  inked := List.forall_mem_append.2 ⟨h.inked, h'.inked⟩
  fits := by
    refine .append (h.fits.imp fun _ _ fits => fits.mono (by simp))
      (h'.fits.imp fun _ _ fits => fits.mono (by simp)) fun x hx y hy _ => ?_
    obtain ⟨c, head, rest, rfl⟩ := h'.head?
    obtain rfl : ⟨spaced, c⟩ = y := Option.some.inj hy
    have seam : (⟨x.char, spaced, c⟩ : Seam) ∈ meeting left spaced right := by
      rw [meeting, h.getLast? hx, head]
      exact List.mem_singleton_self _
    exact List.mem_append_left _ (List.mem_append_right _ seam)

/-- A character by itself. -/
theorem single {c : Char} (ink : c ≠ ' ') (before : Bool) :
    Prints before c.toString [] (marked before c.toString.toList) := by
  have chars : c.toString.toList = [c] := by simp
  rw [chars]
  exact ⟨by simp [marked, written], ⟨c, [], rfl⟩, by simpa [marked, Inked] using ink, .singleton _⟩

/-- A text in which nothing can be dropped. -/
theorem solid {s : String} (h : solidText s = true) (before : Bool) :
    Prints before s [] (marked before s.toList) := by
  have sound : s.toList ≠ [] ∧ ∀ c ∈ s.toList, c ≠ ' ' ∧ tightBefore c = false := by
    simpa [solidText] using h
  obtain ⟨nonempty, sound⟩ := sound
  obtain ⟨c, cs, chars⟩ := List.exists_cons_of_ne_nil nonempty
  rw [chars] at sound ⊢
  have mem : ∀ g ∈ marked before (c :: cs), g.char ∈ c :: cs := by
    simp +contextual [marked]
  have text : written (cs.map (⟨false, ·⟩)) = cs := by
    rw [written, List.flatMap_map]
    exact List.flatMap_singleton' cs
  refine ⟨by rw [marked, written_cons, text, chars], ⟨c, _, rfl⟩,
    fun g hg => (sound _ (mem g hg)).1, ?_⟩
  refine List.Pairwise.isChain (List.pairwise_of_forall_mem_list fun g hg h hh near => ?_)
  have loose := (sound _ (mem g hg)).2
  rw [tight, (sound _ (mem h hh)).2, Bool.or_false] at near
  rw [tightBefore_of_tightAfter near] at loose
  cases loose

theorem opening (d : Delimiter) (before : Bool) :
    Prints before d.opening [] (marked before d.opening.toList) := by
  cases d with
  | parenthesis => exact single (c := '(') (by decide) before
  | bracket => exact single (c := '[') (by decide) before
  | brace => exact single (c := '\x7b') (by decide) before

theorem closing (d : Delimiter) (before : Bool) :
    Prints before d.closing [] (marked before d.closing.toList) := by
  cases d with
  | parenthesis => exact single (c := ')') (by decide) before
  | bracket => exact single (c := ']') (by decide) before
  | brace => exact single (c := '\x7d') (by decide) before

end Prints

namespace Tree

mutual

/-- The glyphs of a solid token are its display form, and what is tight in it meets at its seams. -/
theorem prints_glyphs {t : Tree} (h : t.solid = true) (before : Bool) :
    Prints before t.display t.seams (t.glyphs before) := by
  cases t with
  | group d body o o' =>
    rw [solid] at h
    have opens := Prints.opening d before
    have closes := Prints.closing d (d = .brace)
    cases body with
    | nil =>
      have text : (group d [] o o').display =
          d.opening ++ String.ofList (blankIf (d = .brace)) ++ d.closing := by
        cases d <;> simp [display, displayAll, blankIf]
      rw [text, glyphs, glyphsAll, List.append_nil]
      exact (opens.append closes).mono (by simp [seams])
    | cons t ts =>
      have inner := prints_glyphsAll h (List.cons_ne_nil t ts) (d = .brace)
      have text : (group d (t :: ts) o o').display =
          d.opening ++ String.ofList (blankIf (d = .brace)) ++ displayAll (t :: ts) ++
            String.ofList (blankIf (d = .brace)) ++ d.closing := by
        cases d <;> simp [display, blankIf]
      rw [text, glyphs]
      refine ((opens.append inner).append closes).mono ?_
      rw [meeting_append inner.nonempty]
      simp [seams]
  | punct c _ _ => exact .single (of_decide_eq_true h) before
  | word | lifetime | literal => exact .solid h before

/-- So it is for a run, in which each token brings the blank that its predecessor asks for. -/
theorem prints_glyphsAll {ts : List Tree} (h : solidAll ts = true) (nonempty : ts ≠ [])
    (before : Bool) : Prints before (displayAll ts) (seamsAll ts) (glyphsAll before ts) := by
  cases ts with
  | nil => exact absurd rfl nonempty
  | cons t ts =>
    rw [solidAll, Bool.and_eq_true] at h
    have first := prints_glyphs h.1 before
    cases ts with
    | nil =>
      have text : displayAll [t] = t.display := by simp [displayAll]
      rw [text, glyphsAll, glyphsAll, List.append_nil]
      exact first.mono (by simp [seamsAll])
    | cons u ts =>
      have later := prints_glyphsAll h.2 (List.cons_ne_nil u ts) (!t.isJoint)
      have text : displayAll (t :: u :: ts) =
          t.display ++ String.ofList (blankIf (!t.isJoint)) ++ displayAll (u :: ts) := by
        cases joint : t.isJoint <;> simp [displayAll, joint, blankIf]
      rw [text, glyphsAll, seamsAll]
      exact first.append later

end

end Tree

/-! ## Types with one title -/

namespace Ty

/-- The type has tokens, and its words and literals hold neither blanks nor characters that blanks
are dropped next to. Of words this is always so. -/
def Solid (t : Ty) : Prop :=
  t.tokens ≠ [] ∧ Tree.solidAll t.tokens = true

instance (t : Ty) : Decidable t.Solid :=
  inferInstanceAs (Decidable (_ ∧ _))

/-- The same two characters meet in both types, in one with a blank that is dropped in its title and
in the other without. -/
def Confusable (t u : Ty) : Prop :=
  ∃ s ∈ Tree.seamsAll t.tokens, ∃ s' ∈ Tree.seamsAll u.tokens, s.Clashes s'

instance (t u : Ty) : Decidable (t.Confusable u) :=
  inferInstanceAs (Decidable (∃ s ∈ _, ∃ s' ∈ _, _))

theorem title_sublist (t : Ty) : t.title.toList.Sublist t.display.toList := by
  rw [title, String.toList_ofList]
  exact sublist_tightened none _

theorem filter_title (t : Ty) :
    t.title.toList.filter (· ≠ ' ') = t.display.toList.filter (· ≠ ' ') := by
  rw [title, String.toList_ofList, filter_tightened]

/-- The title is what is written without the blanks between the type's glyphs. -/
theorem title_eq_written {t : Ty} {gs : List Glyph} {S : List Seam}
    (prints : Prints false t.display S gs) : t.title.toList = written (closedUp none gs) := by
  rw [title, String.toList_ofList, ← tightened_written prints.inked, prints.text]
  rfl

/-- Types that are written differently have different titles unless they can be confused. -/
theorem confusable_of_title_eq {t u : Ty} (ht : t.Solid) (hu : u.Solid)
    (differ : t.display ≠ u.display) (same : t.title = u.title) : t.Confusable u := by
  by_contra apart
  have prints := Tree.prints_glyphsAll ht.2 ht.1 false
  have prints' := Tree.prints_glyphsAll hu.2 hu.1 false
  obtain ⟨c, gs, eq⟩ := prints.begins
  obtain ⟨c', gs', eq'⟩ := prints'.begins
  rw [eq] at prints
  rw [eq'] at prints'
  have closed : closedUp none (⟨false, c⟩ :: gs) = closedUp none (⟨false, c'⟩ :: gs') := by
    refine written_injective (inked_closedUp prints.inked _) (inked_closedUp prints'.inked _) ?_
    rw [← title_eq_written prints, ← title_eq_written prints', same]
  obtain ⟨first, rest⟩ := List.cons.inj closed
  obtain rfl : c = c' := congrArg Glyph.char first
  have clashes : ∀ s ∈ Tree.seamsAll t.tokens, ∀ s' ∈ Tree.seamsAll u.tokens, ¬s.Clashes s' :=
    fun s hs s' hs' clash => apart ⟨s, hs, s', hs', clash⟩
  obtain rfl := eq_of_closedUp_eq clashes rfl prints.fits prints'.fits rest
  exact differ (String.toList_injective (prints.text.symm.trans prints'.text))

end Ty

/-- Types with one display form have one key. -/
def DisplayKeyed (ts : List Ty) : Prop :=
  ∀ t ∈ ts, ∀ u ∈ ts, t.display = u.display → t.key = u.key

instance (ts : List Ty) : Decidable (DisplayKeyed ts) :=
  inferInstanceAs (Decidable (∀ t ∈ ts, ∀ u ∈ ts, t.display = u.display → t.key = u.key))

/-! ## Expansions -/

/-- The titles of an emitted wrapper are the display forms of its types without some of the blanks.
Where no blank can be dropped inside a word or literal, two types with the same title can be
confused; so if no two can, the titles are different. -/
theorem titles_apart {m : Module} {library : Path} {e : Expansion}
    (h : m.expand library = .ok e) {g : Registry.Forwarded} (hg : g ∈ e.wrappers) :
    List.Forall₂ (fun t title => title.toList.Sublist t.display.toList ∧
        title.toList.filter (· ≠ ' ') = t.display.toList.filter (· ≠ ' '))
      g.wrapper.types g.wrapper.storeCode.titles ∧
    ((∀ t ∈ g.wrapper.types, t.Solid) → DisplayKeyed g.wrapper.types →
      g.wrapper.types.Pairwise (fun t u => t.title = u.title → t.Confusable u) ∧
        (g.wrapper.types.Pairwise (fun t u => ¬t.Confusable u) →
          g.wrapper.storeCode.titles.Nodup)) := by
  refine ⟨List.forall₂_map_right_iff.2 (List.forall₂_same.2 fun t _ =>
    ⟨t.title_sublist, t.filter_title⟩), fun solid keyed => ?_⟩
  obtain ⟨c, kept, start, last, -, -, -, emitted, orderly⟩ := expand_orderly h
  have held : g.wrapper ∈ last.wrappers := emitted ▸ List.mem_map_of_mem hg
  have keys := List.pairwise_map.1 (orderly.wellFormed _ held).types
  have confusable : g.wrapper.types.Pairwise fun t u => t.title = u.title → t.Confusable u := by
    refine keys.imp_of_mem fun {t u} ht hu differ same => ?_
    exact Ty.confusable_of_title_eq (solid t ht) (solid u hu)
      (fun display => differ (keyed t ht u hu display)) same
  refine ⟨confusable, fun apart => List.pairwise_map.2 ?_⟩
  exact confusable.imp₂ (fun t u confused clear same => clear (confused same)) apart

/-- An enum that declares a wrapper with the variants. -/
def holdingEnum (name : String) (variants : List (String × Ty)) : Item :=
  .enum ⟨[⟨none, false, .ofIdent (.generated directiveName), .nothing⟩], .everywhere none, none,
    .generated name, .empty, variants.map fun (variant, type) =>
      ⟨[], .generated variant, .positional none [⟨[], .inherited, none, type⟩] false, none⟩, false⟩

/-- A wrapper over a list of lists, a text and an array. -/
def nestedLists : Module :=
  let listOf (t : Ty) : Ty :=
    .path (.plain none [.generic (.generated "Vec") false [.type t] false])
  moduleOf [holdingEnum "W"
    [("Lists", listOf (listOf (.ofName "u8"))),
      ("Text", .reference none (some (.generated "static")) false (.ofName "str")),
      ("Array", .array none (.ofName "u8") (Code.ofTokens [.literal "4" none]))]]

theorem titles_apart_nestedLists :
    ∃ e g, nestedLists.expand defaultLibrary = .ok e ∧ g ∈ e.wrappers ∧
      (∀ t ∈ g.wrapper.types, t.Solid) ∧ DisplayKeyed g.wrapper.types ∧
      g.wrapper.types.Pairwise (fun t u => ¬t.Confusable u) ∧
      g.wrapper.storeCode.titles = ["Vec<Vec<u8>>", "&'static str", "[u8 ; 4]"] ∧
      g.wrapper.storeCode.titles.Nodup := by
  obtain ⟨e, h, seen⟩ := exists_ok_of_toOption
    (x := nestedLists.expand defaultLibrary) (f := fun e => e.wrappers.map fun g : Registry.Forwarded =>
      (decide (∀ t ∈ g.wrapper.types, t.Solid), decide (DisplayKeyed g.wrapper.types),
        decide (g.wrapper.types.Pairwise fun t u : Ty => ¬t.Confusable u),
        g.wrapper.storeCode.titles))
    (b := [(true, true, true, ["Vec<Vec<u8>>", "&'static str", "[u8 ; 4]"])]) (by decide +kernel)
  obtain ⟨g, emitted, facts⟩ := List.map_eq_singleton_iff.1 seen
  simp only [Prod.mk.injEq, decide_eq_true_eq] at facts
  obtain ⟨solid, keyed, apart, titles⟩ := facts
  have hg : g ∈ e.wrappers := emitted ▸ List.mem_singleton_self g
  exact ⟨e, g, h, hg, solid, keyed, apart, titles,
    ((titles_apart h hg).2 solid keyed).2 apart⟩

/-! ## Titles that are not different -/

/-- An array of bytes of the length of a literal. -/
def bytesLike (literal : String) : Ty :=
  .array none (.ofName "u8") (Code.ofTokens
    [.literal literal none, .punct '.' false none, .word "len" none,
      .group .parenthesis [] none none])

/-- An array of bytes of a length that two constants have with two ampersands between them. -/
def bytesBoth (joint : Bool) : Ty :=
  .array none (.ofName "u8")
    (.path (.ofIdent (.generated "A")) ::
      Code.ofTokens [.punct '&' joint none, .punct '&' false none] ++
        [.path (.ofIdent (.generated "B"))])

/-- Wrappers over types that differ in a blank. -/
def blankLengths : Module :=
  moduleOf
    [holdingEnum "W" [("X", bytesLike "\"a <\""), ("Y", bytesLike "\"a<\"")],
      holdingEnum "V" [("X", bytesBoth true), ("Y", bytesBoth false)]]

/-- The keys of an emitted wrapper's types are different and its titles are not: a blank is dropped
inside a literal, and one between the tokens of two operators. -/
theorem titles_repeated :
    ∃ e, blankLengths.expand defaultLibrary = .ok e ∧
      e.wrappers.map (fun g => (g.wrapper.types.map Ty.key, g.wrapper.storeCode.titles)) =
        [(["[u8 ; \"a <\" . len ()]", "[u8 ; \"a<\" . len ()]"],
            ["[u8 ; \"a<\" . len()]", "[u8 ; \"a<\" . len()]"]),
          (["[u8 ; A && B]", "[u8 ; A & & B]"], ["[u8 ; A&&B]", "[u8 ; A&&B]"])] ∧
      ∀ g ∈ e.wrappers, (g.wrapper.types.map Ty.key).Nodup ∧ ¬g.wrapper.storeCode.titles.Nodup := by
  obtain ⟨e, h, seen⟩ := exists_ok_of_toOption (x := blankLengths.expand defaultLibrary)
    (f := fun e : Expansion => e.wrappers.map fun g =>
      (g.wrapper.types.map Ty.key, g.wrapper.storeCode.titles))
    (b := [(["[u8 ; \"a <\" . len ()]", "[u8 ; \"a<\" . len ()]"],
        ["[u8 ; \"a<\" . len()]", "[u8 ; \"a<\" . len()]"]),
      (["[u8 ; A && B]", "[u8 ; A & & B]"], ["[u8 ; A&&B]", "[u8 ; A&&B]"])]) (by decide +kernel)
  refine ⟨e, h, seen, fun g hg => ?_⟩
  have listed := List.mem_map_of_mem (f := fun g : Registry.Forwarded =>
    (g.wrapper.types.map Ty.key, g.wrapper.storeCode.titles)) hg
  rw [seen, List.mem_pair] at listed
  obtain first | second := listed
  · obtain ⟨keys, titles⟩ := Prod.mk.inj first
    rw [keys, titles]
    decide
  · obtain ⟨keys, titles⟩ := Prod.mk.inj second
    rw [keys, titles]
    decide

end SharedMembers
