import SharedMembers.Grammar.Parser
import SharedMembers.Proofs.Identifiers
import SharedMembers.Type.VariantName

/-!
# Made names and keywords

Keywords are words of small letters, but for the underscore and `Self`. A name that is put together
from words in camel case begins like none of them, and behind another name a word in camel case
cannot end one.

Results:
* `Text.capital_camel`: what a name in camel case begins with.
* `Ty.capital_variantName`: so do the names of variants.
* `eq_Self_of_capital`: only one keyword begins like that.
* `not_mem_keywords_append`: a longer name with such an end is no keyword.
* `accessorName_of_mem_keywords`: an accessor that is called by a keyword is called like its member.
-/

namespace SharedMembers

namespace Text

/-! ## What words in camel case begin with -/

/-- If there is a first character, it is neither a small letter of ASCII nor an underscore. -/
def Capital (cs : List Char) : Prop :=
  ∀ c ∈ cs.head?, c.toNat ≠ 95 ∧ (c.toNat < 97 ∨ 122 < c.toNat)

-- The instance for all characters would go through each of them.
instance : ∀ cs : List Char, Decidable (Capital cs)
  | [] => .isTrue fun _ hc => nomatch hc
  | c :: _ => decidable_of_iff (c.toNat ≠ 95 ∧ (c.toNat < 97 ∨ 122 < c.toNat)) (by simp [Capital])

theorem Capital.append_right {a : List Char} (ha : Capital a) (some : a ≠ []) (b : List Char) :
    Capital (a ++ b) := by
  cases a with
  | nil => exact absurd rfl some
  | cons c cs => exact ha

theorem Capital.append {a b : List Char} (ha : Capital a) (hb : Capital b) : Capital (a ++ b) := by
  cases a with
  | nil => exact hb
  | cons c cs => exact ha

theorem capital_toUpper {c : Char} (h : c.toNat ≠ 95) : Capital [c.toUpper] := by
  intro d hd
  cases hd
  by_cases lower : 'a'.val ≤ c.val ∧ c.val ≤ 'z'.val
  · have upper : c.toUpper = ⟨c.val + ('A'.val - 'a'.val), _⟩ := dif_pos lower
    obtain ⟨low, high⟩ : 97 ≤ c.toNat ∧ c.toNat ≤ 122 := lower
    have shifted : c.toUpper.toNat = c.toNat - 32 := by
      rw [upper, Char.toNat, UInt32.toNat_add]
      change (c.toNat + 4294967264) % 4294967296 = _
      omega
    omega
  · have same : c.toUpper = c := dif_neg lower
    have outside : ¬(97 ≤ c.toNat ∧ c.toNat ≤ 122) := lower
    rw [same]
    omega

theorem capital_uppercaseSequences :
    (uppercaseSequences.all fun (_, cs) => !cs.isEmpty && Capital (cs.map Char.ofNat)) = true := by
  decide

/-- All characters that have a run in common are mapped to large numbers, or to small ones. -/
theorem uppercaseRuns_apart : (uppercaseRuns.all fun (first, last, _, offset) =>
    (last + offset).toNat < 95 || 122 < (first + offset).toNat) = true := by
  decide

theorem capital_ofNat {n : Nat} (h : n < 95 ∨ 122 < n) : Capital [Char.ofNat n] := by
  intro c hc
  cases hc
  by_cases valid : n.isValidChar
  · rw [toNat_ofNat valid]
    omega
  · rw [Char.ofNat, dif_neg valid]
    decide

/-- The uppercase form of a character is there, and begins with no small letter. -/
theorem capital_uppercase {c : Char} (h : c ≠ '_') : uppercase c ≠ [] ∧ Capital (uppercase c) := by
  have number : c.toNat ≠ 95 := fun same => h (by rw [← Char.ofNat_toNat c, same])
  rw [uppercase]
  split
  · exact ⟨List.cons_ne_nil _ _, capital_toUpper number⟩
  next wide =>
  rw [uppercaseBeyondAscii]
  split
  · next cs found =>
    obtain ⟨before, after, entry, -⟩ := List.lookup_eq_some_iff.1 found
    have checked := List.all_eq_true.1 capital_uppercaseSequences (c.toNat, cs) (by simp [entry])
    simpa using checked
  split
  · next first last step offset found =>
    have checked := List.all_eq_true.1 uppercaseRuns_apart _ (List.mem_of_find?_eq_some found)
    have within := List.find?_some found
    simp only [Bool.and_eq_true, Bool.or_eq_true, decide_eq_true_eq, beq_iff_eq] at within checked
    exact ⟨List.cons_ne_nil _ _, capital_ofNat (by omega)⟩
  · refine ⟨List.cons_ne_nil _ _, fun d hd => ?_⟩
    cases hd
    omega

theorem capital_camelChars (cs : List Char) : Capital (camelChars true cs) := by
  induction cs with
  | nil => decide
  | cons c cs ih =>
    rw [camelChars]
    split
    · exact ih
    · next word =>
      obtain ⟨some, capital⟩ := capital_uppercase word
      exact capital.append_right some _

/-- A name in camel case begins with no small letter. -/
theorem capital_camel (name : String) : Capital (camel name).toList := by
  rw [camel, String.toList_ofList]
  exact capital_camelChars _

theorem capital_toString (n : Nat) : Capital (toString n).toList := by
  intro c hc
  rw [Nat.toString_eq_repr, Nat.toList_repr] at hc
  have digit := Nat.isDigit_of_mem_toDigits (by decide) (by decide) (List.mem_of_mem_head? hc)
  have := toNat_le_of_isDigit digit
  omega

end Text

open Text

/-! ## Names of variants -/

mutual

/-- The name of a variant begins with no small letter. -/
theorem Ty.capital_variantName : ∀ t : Ty, Capital t.variantName.toList
  | .path p => by
    rw [Ty.variantName]
    exact p.capital_variantName
  | .tuple _ elems _ => by
    rw [Ty.variantName]
    split
    · decide
    · exact Ty.capital_variantNames elems
  | .array _ elem _ => by
    rw [Ty.variantName, String.toList_append, String.toList_append, List.append_assoc]
    exact elem.capital_variantName.append (.append_right (by decide) (by decide) _)
  | .slice _ elem => by
    rw [Ty.variantName, String.toList_append]
    exact elem.capital_variantName.append (by decide)
  | .paren _ inner => by
    rw [Ty.variantName]
    exact inner.capital_variantName
  | .reference .. | .pointer .. | .never _ | .inferred _ | .function _ | .traitObject _
  | .implTrait _ | .invocation .. | .unparsed _ => by
    simp only [Ty.variantName]
    decide

theorem Ty.capital_variantNames : ∀ ts : List Ty, Capital (Ty.variantNames ts).toList
  | [] => by
    rw [Ty.variantNames]
    decide
  | t :: ts => by
    rw [Ty.variantNames, String.toList_append]
    exact t.capital_variantName.append (Ty.capital_variantNames ts)

theorem Path.capital_variantName : ∀ p : Path, Capital p.variantName.toList
  | .plain _ segments => by
    rw [Path.variantName]
    exact Segment.capital_lastVariantName segments
  | .qualified _ _ _ _ rest => by
    rw [Path.variantName]
    exact Segment.capital_lastVariantName rest

theorem Segment.capital_variantName : ∀ s : Segment, Capital s.variantName.toList
  | .plain i => by
    rw [Segment.variantName]
    exact capital_camel i.name
  | .generic i _ args _ => by
    rw [Segment.variantName, String.toList_append]
    exact (capital_camel i.name).append (Argument.capital_variantNames args)

theorem Segment.capital_lastVariantName :
    ∀ ss : List Segment, Capital (Segment.lastVariantName ss).toList
  | [] => by
    rw [Segment.lastVariantName]
    decide
  | [s] => by
    rw [Segment.lastVariantName]
    exact s.capital_variantName
  | _ :: s :: ss => by
    rw [Segment.lastVariantName.eq_3 _ _ (List.cons_ne_nil s ss)]
    exact Segment.capital_lastVariantName (s :: ss)

theorem Argument.capital_variantName : ∀ a : Argument, Capital a.variantName.toList
  | .type t => by
    rw [Argument.variantName]
    exact t.capital_variantName
  | .lifetime _ | .other _ => by
    simp only [Argument.variantName]
    decide

theorem Argument.capital_variantNames :
    ∀ as : List Argument, Capital (Argument.variantNames as).toList
  | [] => by
    rw [Argument.variantNames]
    decide
  | a :: as => by
    rw [Argument.variantNames, String.toList_append]
    exact a.capital_variantName.append (Argument.capital_variantNames as)

end

/-! ## Keywords -/

theorem capital_candidate {base : String} (h : Capital base.toList) (n : Nat) :
    Capital (candidate base n).toList := by
  rw [candidate]
  split
  · exact h
  · rw [String.toList_append]
    exact h.append (capital_toString _)

/-- Keywords but for `Self` begin with small letters or the underscore, and go on with small
letters. -/
theorem keywords_small : (keywords.all fun k => (!decide (Capital k.toList) || k == "Self") &&
    k.toList.tail.all fun c => decide (97 ≤ c.toNat ∧ c.toNat ≤ 122)) = true := by
  decide

theorem eq_Self_of_capital {name : String} (h : Capital name.toList) (keyword : name ∈ keywords) :
    name = "Self" := by
  have checked := List.all_eq_true.1 keywords_small name keyword
  simp only [h, decide_true, Bool.not_true, Bool.false_or, Bool.and_eq_true, beq_iff_eq] at checked
  exact checked.1

theorem isLower_of_mem_keywords {name : String} (keyword : name ∈ keywords) :
    ∀ c ∈ name.toList.tail, 97 ≤ c.toNat ∧ c.toNat ≤ 122 := by
  have checked := List.all_eq_true.1 keywords_small name keyword
  rw [Bool.and_eq_true] at checked
  simpa using checked.2

/-- Behind another name, what begins with no small letter makes no keyword. -/
theorem not_mem_keywords_append {front back : String} (longer : front ≠ "") (some : back ≠ "")
    (h : Capital back.toList) : front ++ back ∉ keywords := by
  intro keyword
  obtain ⟨c, cs, begun⟩ := List.exists_cons_of_ne_nil (mt String.toList_eq_nil_iff.1 longer)
  obtain ⟨d, ds, ends⟩ := List.exists_cons_of_ne_nil (mt String.toList_eq_nil_iff.1 some)
  rw [ends] at h
  have small := isLower_of_mem_keywords keyword d (by simp [String.toList_append, begun, ends])
  have := h d rfl
  omega

/-- An accessor that is called by a keyword is called like its member. -/
theorem accessorName_of_mem_keywords {k : Key} (keyword : k.accessorName ∈ keywords) :
    k.accessorName = k.name := by
  obtain ⟨name, shape⟩ := k
  cases shape with
  | write =>
    have small := isLower_of_mem_keywords keyword '_' (by simp [Key.accessorName])
    exact absurd small (by decide)
  | read | call => rfl

end SharedMembers
