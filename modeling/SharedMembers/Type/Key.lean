import SharedMembers.Type.Tokens

/-!
# When two types are one

Types are told apart by how they are written, after parentheses around them and a `self::` in front
of them are dropped. The result in display form is the type's key.

The model of `local_type`, `type_key` and `display_type`.

* `Ty.normal_paren`, `Ty.normal_ofIdent`: what is dropped, and what is not.
* `Ty.key_ofIdent`: a plain name is its own key.
* `Ty.key`: the key of a type.
* `Ty.title`: the text by which a type is shown to people.
-/

namespace SharedMembers

namespace Ty

/-- The type as it is named inside its module: without parentheses around it, and without `self::`
in front of it (`local_type`). -/
def normal : Ty → Ty
  | paren _ inner => inner.normal
  | path (.plain none (first :: second :: rest)) =>
    if first.ident.name = "self" then path (.plain none (second :: rest))
    else path (.plain none (first :: second :: rest))
  | t => t

/-- The text by which types are compared (`type_key`). -/
def key (t : Ty) : String :=
  t.normal.display

theorem normal_paren (o : Origin) (inner : Ty) : (paren o inner).normal = inner.normal := by
  simp [normal]

theorem normal_ofIdent (i : Ident) : (ofIdent i).normal = ofIdent i := by
  simp [ofIdent, Path.ofIdent, normal]

theorem key_paren (o : Origin) (inner : Ty) : (paren o inner).key = inner.key := by
  simp [key, normal_paren]

theorem key_ofIdent (i : Ident) : (ofIdent i).key = i.name := by
  rw [key, normal_ofIdent]
  simp [display, ofIdent, Path.ofIdent, tokens, Path.tokens, leadingTokens, Segment.tokensEach,
    Segment.tokens, joined, Ident.token, Tree.displayAll, Tree.display]

end Ty

/-! ## Titles -/

/-- No blank stands in front of the character in a title. -/
def tightBefore (c : Char) : Bool :=
  ['<', '>', ':', '&', '(', '[', ')', ']', ','].contains c

/-- No blank stands behind the character in a title. -/
def tightAfter (c : Char) : Bool :=
  ['<', ':', '&', '(', '['].contains c

/-- The characters without the blanks next to brackets, colons, ampersands and commas; `last` is
the character written before. -/
def tightened : (last : Option Char) → List Char → List Char
  | _, [] => []
  | last, c :: cs =>
    if c = ' ' && (cs.head?.any tightBefore || last.any tightAfter) then tightened last cs
    else c :: tightened (some c) cs

/-- The text by which a type is shown to people (`display_type`). -/
def Ty.title (t : Ty) : String :=
  String.ofList (tightened none t.display.toList)

end SharedMembers
