import SharedMembers.Member.Basic
import SharedMembers.Text.CamelCase
import SharedMembers.Text.Identifier
import SharedMembers.Wrapper.Naming

/-!
# Names that stay identifiers

A name that is made from identifiers, by camel case, by a number or by a mark in front, is an
identifier in its turn if it begins with one.

Results:
* `isIdentifierPart_uppercase`: the uppercase form of a character of identifiers is of such
  characters again.
* `parts_camel`: so is the camel case of a name.
* `isIdentifier_append`: an identifier may be continued.
* `isIdentifier_candidate`, `isIdentifier_accessorName`: numbered names and names of accessors.
-/

namespace SharedMembers

namespace Text

/-! ## Ranges -/

/-- One of the ranges holds all numbers from `first` to `last`. -/
def Ranges.covers (ranges : Ranges) (first last : Nat) : Bool :=
  ranges.any fun (a, b) => Nat.ble a first && Nat.ble last b

/-- None of the ranges holds a number from `first` to `last`. -/
def Ranges.avoids (ranges : Ranges) (first last : Nat) : Bool :=
  ranges.all fun (a, b) => Nat.blt b first || Nat.blt last a

theorem Ranges.covers_iff {ranges : Ranges} {first last : Nat} :
    ranges.covers first last = true ↔ ∃ r ∈ ranges, r.1 ≤ first ∧ last ≤ r.2 := by
  simp [Ranges.covers]

theorem Ranges.avoids_iff {ranges : Ranges} {first last : Nat} :
    ranges.avoids first last = true ↔ ∀ r ∈ ranges, r.2 < first ∨ last < r.1 := by
  simp [Ranges.avoids, Nat.blt_eq]

/-- The characters of identifiers that are uppercase letters or stand outside ASCII. -/
def partRanges : Ranges :=
  (65, 90) :: (startRanges ++ continueRanges)

/-- The ranges hold no numbers of halves of pairs, which are no characters. -/
theorem partRanges_valid {r : Nat × Nat} (hr : r ∈ partRanges) :
    r.2 < 0xD800 ∨ 0xDFFF < r.1 ∧ r.2 < 0x110000 := by
  have all : (partRanges.all fun (a, b) =>
      Nat.blt b 0xD800 || Nat.blt 0xDFFF a && Nat.blt b 0x110000) = true := by
    decide +kernel
  simpa [Nat.blt_eq] using List.all_eq_true.1 all r hr

/-- Apart from the uppercase letters the ranges are outside ASCII. -/
theorem partRanges_wide {r : Nat × Nat} (hr : r ∈ startRanges ++ continueRanges) : 128 ≤ r.1 := by
  have all : ((startRanges ++ continueRanges).all fun (a, _) => Nat.ble 128 a) = true := by
    decide +kernel
  simpa using List.all_eq_true.1 all r hr

theorem toNat_ofNat {n : Nat} (valid : n.isValidChar) : (Char.ofNat n).toNat = n := by
  rw [Char.ofNat, dif_pos valid]
  rfl

theorem isUpper_iff {c : Char} : c.isUpper = true ↔ 65 ≤ c.toNat ∧ c.toNat ≤ 90 := by
  change decide ('A'.val ≤ c.val ∧ c.val ≤ 'Z'.val) = true ↔ _
  rw [decide_eq_true_iff, UInt32.le_iff_toNat_le, UInt32.le_iff_toNat_le]
  rfl

theorem toNat_le_of_isLower {c : Char} (h : c.isLower = true) : c.toNat ≤ 122 := by
  change (decide ('a'.val ≤ c.val) && decide (c.val ≤ 'z'.val)) = true at h
  rw [Bool.and_eq_true, decide_eq_true_iff, decide_eq_true_iff, UInt32.le_iff_toNat_le,
    UInt32.le_iff_toNat_le] at h
  exact h.2

theorem toNat_le_of_isDigit {c : Char} (h : c.isDigit = true) : c.toNat ≤ 57 := by
  change (decide ('0'.val ≤ c.val) && decide (c.val ≤ '9'.val)) = true at h
  rw [Bool.and_eq_true, decide_eq_true_iff, decide_eq_true_iff, UInt32.le_iff_toNat_le,
    UInt32.le_iff_toNat_le] at h
  exact h.2

/-- The number that a range holds is that of a character which may stand in an identifier. -/
theorem isIdentifierPart_ofNat {n : Nat} (h : partRanges.covers n n = true) :
    isIdentifierPart (Char.ofNat n) = true := by
  obtain ⟨r, hr, low, high⟩ := Ranges.covers_iff.1 h
  have valid : n.isValidChar := by
    rcases partRanges_valid hr with small | ⟨above, below⟩
    · exact .inl (by omega)
    · exact .inr ⟨by omega, by omega⟩
  have number := toNat_ofNat valid
  rw [isIdentifierPart, isIdentifierStart]
  rcases List.mem_cons.1 hr with rfl | hr
  · have upper : (Char.ofNat n).isUpper = true := isUpper_iff.2 (by omega)
    have letter : (Char.ofNat n).isAlpha = true := Bool.or_eq_true_iff.2 (.inl upper)
    simp [letter]
  · have wide : 128 ≤ n := Nat.le_trans (partRanges_wide hr) low
    rcases List.mem_append.1 hr with hr | hr
    · have held : startRanges.contains (Char.ofNat n) = true :=
        Ranges.contains_iff.2 ⟨r, hr, by omega⟩
      simp [held, number, wide]
    · have held : continueRanges.contains (Char.ofNat n) = true :=
        Ranges.contains_iff.2 ⟨r, hr, by omega⟩
      simp [held, number, wide]

/-- Letters, digits and the underscore of ASCII have small numbers. -/
theorem toNat_lt_of_plain {c : Char} (h : c = '_' ∨ c.isAlpha = true ∨ c.isDigit = true) :
    c.toNat < 128 := by
  rcases h with rfl | h | h
  · decide
  · rcases Bool.or_eq_true_iff.1 h with upper | lower
    · have := isUpper_iff.1 upper
      omega
    · have := toNat_le_of_isLower lower
      omega
  · have := toNat_le_of_isDigit h
    omega

/-- A character outside ASCII that may stand in an identifier is held by a range. -/
theorem exists_range_of_isIdentifierPart {c : Char} (wide : 128 ≤ c.toNat)
    (h : isIdentifierPart c = true) : ∃ r ∈ partRanges, r.1 ≤ c.toNat ∧ c.toNat ≤ r.2 := by
  have notPlain : ¬ (c = '_' ∨ c.isAlpha = true ∨ c.isDigit = true) := by
    intro plain
    have := toNat_lt_of_plain plain
    omega
  simp only [isIdentifierPart, isIdentifierStart, Bool.or_eq_true, Bool.and_eq_true,
    beq_iff_eq] at h
  rcases h with (((mark | letter) | ⟨-, held⟩) | digit) | ⟨-, held⟩
  · exact absurd (.inl mark) notPlain
  · exact absurd (.inr (.inl letter)) notPlain
  · obtain ⟨r, hr, bounds⟩ := Ranges.contains_iff.1 held
    exact ⟨r, List.mem_cons_of_mem _ (List.mem_append_left _ hr), bounds⟩
  · exact absurd (.inr (.inr digit)) notPlain
  · obtain ⟨r, hr, bounds⟩ := Ranges.contains_iff.1 held
    exact ⟨r, List.mem_cons_of_mem _ (List.mem_append_right _ hr), bounds⟩

/-! ## Uppercase -/

/-- All characters that have a run in common are mapped into identifiers, all at once or one after
the other, unless none of them stands in identifiers. -/
theorem uppercaseRuns_parts : (uppercaseRuns.all fun (first, last, step, offset) =>
    partRanges.covers (first + offset).toNat (last + offset).toNat || partRanges.avoids first last ||
      (List.range' first ((last - first) / step + 1) step).all fun n =>
        partRanges.covers (n + offset).toNat (n + offset).toNat) = true := by
  decide +kernel

theorem uppercaseSequences_parts :
    (uppercaseSequences.all fun (_, cs) => cs.all fun n => partRanges.covers n n) = true := by
  decide +kernel

theorem uppercase_ascii_parts : ∀ n < 128, isIdentifierPart (Char.ofNat n) = true →
    isIdentifierPart (Char.ofNat n).toUpper = true := by
  decide +kernel

theorem covers_of_run {first last step : Nat} {offset : Int}
    (run : (first, last, step, offset) ∈ uppercaseRuns) {c : Char} (wide : 128 ≤ c.toNat)
    (part : isIdentifierPart c = true) (low : first ≤ c.toNat) (high : c.toNat ≤ last)
    (aligned : (c.toNat - first) % step = 0) :
    partRanges.covers (c.toNat + offset).toNat (c.toNat + offset).toNat = true := by
  have checked := List.all_eq_true.1 uppercaseRuns_parts _ run
  simp only [Bool.or_eq_true] at checked
  rcases checked with (together | none) | each
  · obtain ⟨r, hr, below, above⟩ := Ranges.covers_iff.1 together
    exact Ranges.covers_iff.2 ⟨r, hr, by omega, by omega⟩
  · obtain ⟨r, hr, below, above⟩ := exists_range_of_isIdentifierPart wide part
    rcases Ranges.avoids_iff.1 none r hr with before | after <;> omega
  · refine List.all_eq_true.1 each _ (List.mem_range'.2 ⟨(c.toNat - first) / step, ?_, ?_⟩)
    · have := Nat.div_le_div_right (c := step) (Nat.sub_le_sub_right high first)
      omega
    · have := Nat.div_add_mod (c.toNat - first) step
      omega

/-- The uppercase form of a character that may stand in an identifier may stand there as well. -/
theorem isIdentifierPart_uppercase {c d : Char} (part : isIdentifierPart c = true)
    (hd : d ∈ uppercase c) : isIdentifierPart d = true := by
  rw [uppercase] at hd
  split at hd
  · next ascii =>
    rw [List.mem_singleton.1 hd]
    have upper := uppercase_ascii_parts c.toNat ascii
    rw [Char.ofNat_toNat] at upper
    exact upper part
  next wide =>
  rw [uppercaseBeyondAscii] at hd
  split at hd
  · next cs found =>
    obtain ⟨n, hn, rfl⟩ := List.mem_map.1 hd
    obtain ⟨before, after, entry, -⟩ := List.lookup_eq_some_iff.1 found
    have checked := List.all_eq_true.1 uppercaseSequences_parts (c.toNat, cs) (by simp [entry])
    exact isIdentifierPart_ofNat (List.all_eq_true.1 checked n hn)
  split at hd
  · next first last step offset found =>
    rw [List.mem_singleton.1 hd]
    have within := List.find?_some found
    simp only [Bool.and_eq_true, decide_eq_true_eq, beq_iff_eq] at within
    obtain ⟨⟨low, high⟩, aligned⟩ := within
    exact isIdentifierPart_ofNat
      (covers_of_run (List.mem_of_find?_eq_some found) (by omega) part low high aligned)
  · rwa [List.mem_singleton.1 hd]

/-! ## Camel case -/

theorem parts_camelChars {fresh : Bool} {cs : List Char}
    (h : ∀ c ∈ cs, isIdentifierPart c = true) :
    ∀ d ∈ camelChars fresh cs, isIdentifierPart d = true := by
  induction cs generalizing fresh with
  | nil => simp [camelChars]
  | cons c cs ih =>
    rw [List.forall_mem_cons] at h
    intro d hd
    rw [camelChars] at hd
    split at hd
    · exact ih h.2 d hd
    split at hd
    · rcases List.mem_append.1 hd with hd | hd
      · exact isIdentifierPart_uppercase h.1 hd
      · exact ih h.2 d hd
    · rcases List.mem_cons.1 hd with rfl | hd
      · exact h.1
      · exact ih h.2 d hd

/-- In camel case a name still has characters of identifiers only. -/
theorem parts_camel {name : String} (h : ∀ c ∈ name.toList, isIdentifierPart c = true) :
    ∀ d ∈ (camel name).toList, isIdentifierPart d = true := by
  rw [camel, String.toList_ofList]
  exact parts_camelChars h

/-! ## Continued identifiers -/

theorem isIdentifierPart_of_start {c : Char} (h : isIdentifierStart c = true) :
    isIdentifierPart c = true := by
  rw [isIdentifierPart, h]
  rfl

theorem parts_of_isIdentifier {s : String} (h : isIdentifier s = true) :
    ∀ c ∈ s.toList, isIdentifierPart c = true := by
  obtain ⟨c, cs, spelled, start, rest⟩ := isIdentifier_iff.1 h
  rw [spelled, List.forall_mem_cons]
  exact ⟨isIdentifierPart_of_start start, rest⟩

/-- An identifier with more characters of identifiers behind it is an identifier. -/
theorem isIdentifier_append {s t : String} (hs : isIdentifier s = true)
    (ht : ∀ c ∈ t.toList, isIdentifierPart c = true) : isIdentifier (s ++ t) = true := by
  obtain ⟨c, cs, spelled, start, rest⟩ := isIdentifier_iff.1 hs
  rw [isIdentifier_iff, String.toList_append, spelled]
  refine ⟨c, cs ++ t.toList, rfl, start, fun d hd => ?_⟩
  rcases List.mem_append.1 hd with hd | hd
  · exact rest d hd
  · exact ht d hd

theorem parts_toString (n : Nat) : ∀ c ∈ (toString n).toList, isIdentifierPart c = true := by
  intro c hc
  rw [Nat.toString_eq_repr, Nat.toList_repr] at hc
  have digit := Nat.isDigit_of_mem_toDigits (by decide) (by decide) hc
  rw [isIdentifierPart, digit, Bool.or_true]
  rfl

end Text

/-! ## Names that are made -/

/-- A numbered identifier is an identifier. -/
theorem isIdentifier_candidate {base : String} (h : Text.isIdentifier base = true) (n : Nat) :
    Text.isIdentifier (candidate base n) = true := by
  rw [candidate]
  split
  · exact h
  · exact Text.isIdentifier_append h (Text.parts_toString _)

/-- An accessor for a member whose name is an identifier is called by an identifier. -/
theorem isIdentifier_accessorName {k : Key} (h : Text.isIdentifier k.name = true) :
    Text.isIdentifier k.accessorName = true := by
  rw [Key.accessorName]
  split
  · exact Text.isIdentifier_append (by decide) (Text.parts_of_isIdentifier h)
  · exact h

end SharedMembers
