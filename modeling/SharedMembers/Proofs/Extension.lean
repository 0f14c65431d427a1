import SharedMembers.Proofs.Forwarding

/-!
# Wrappers with one more subtype

A wrapper with more subtypes shares fewer members. Whatever stands in the way of a member stands in
its way still when a subtype is added, so a name that is used then was used before.

Results:
* `argumentSlots_of_append`, `usesReference_of_append`, `unify_incompatible_append`: each obstacle
  persists.
* `Plan.For.of_append`: a plan for more signatures leaves one for fewer.
* `accessors_of_appended`: an appended subtype adds no accessor, and weakens no receiver.
-/

namespace SharedMembers

/-! ## Obstacles persist -/

theorem slotFor_of_append {n : Nat} {ts us : List Ty} {slot : Slot}
    (h : slotFor n (ts ++ us) = .ok slot) : ∃ slot', slotFor n ts = .ok slot' := by
  rcases slotFor_eq_ok_iff.1 h with ⟨unborrowed, -⟩ | ⟨t, one, borrowed, -⟩
  · rw [List.any_append, Bool.or_eq_false_iff] at unborrowed
    exact ⟨_, slotFor_eq_ok_iff.2 (.inl ⟨unborrowed.1, rfl⟩)⟩
  · -- Only one type is declared, so nothing was before or behind it.
    rcases List.append_eq_singleton_iff.1 one with ⟨rfl, -⟩ | ⟨rfl, -⟩
    · exact ⟨_, slotFor_eq_ok_iff.2 (.inl ⟨rfl, rfl⟩)⟩
    · exact ⟨_, slotFor_eq_ok_iff.2 (.inr ⟨t, rfl, borrowed, rfl⟩)⟩

theorem declaredTypes_append (ss ss' : List Signature) (n : Nat) :
    ∃ later, declaredTypes (ss ++ ss') n = declaredTypes ss n ++ later := by
  rw [declaredTypes, declaredTypes, List.filterMap_append]
  exact distinct_append _ _

theorem argumentSlots_of_append {ss ss' : List Signature} {slots : List Slot} (nonempty : ss ≠ [])
    (h : argumentSlots (ss ++ ss') = .ok slots) : ∃ slots', argumentSlots ss = .ok slots' := by
  obtain ⟨s, rest, rfl⟩ := List.exists_cons_of_ne_nil nonempty
  have all := mapM_eq_ok_iff.1 h
  have each : ∀ n ∈ List.range s.inputs.length,
      ∃ slot, slotFor n (declaredTypes (s :: rest) n) = .ok slot := by
    intro n hn
    obtain ⟨slot, -, hslot⟩ := exists_mem_zip all hn
    obtain ⟨later, split⟩ := declaredTypes_append (s :: rest) ss' n
    rw [split] at hslot
    exact slotFor_of_append hslot
  obtain ⟨slots', h'⟩ := exists_forall₂_of_forall each
  exact ⟨slots', mapM_eq_ok_iff.2 h'⟩

theorem readByReference_of_append {c : Catalogue} {ss ss' : List Signature} {b : Bool}
    (h : readByReference c (ss ++ ss') = .ok b) : ∃ b', readByReference c ss = .ok b' := by
  simp only [readByReference, fieldTypes_append] at *
  by_cases cloneable : (fieldTypes ss).all c.isClone = true
  · exact ⟨false, if_pos cloneable⟩
  · have not : ¬ (fieldTypes ss ++ fieldTypes ss').all c.isClone = true := by
      rw [List.all_append, Bool.and_eq_true]
      exact fun h => cloneable h.1
    rw [if_neg not] at h
    split at h
    · next same =>
      rw [Bool.and_eq_true, decide_eq_true_eq, decide_eq_true_eq, List.length_append,
        List.length_append] at same
      obtain ⟨later, split⟩ := distinct_append (fieldTypes ss) (fieldTypes ss')
      rw [split, List.length_append] at same
      have := length_fieldTypes_le ss
      have := length_fieldTypes_le ss'
      have several : (distinct (fieldTypes ss)).length ≠ 0 := by
        rw [Ne, List.length_eq_zero_iff, distinct_eq_nil_iff]
        intro nil
        simp [nil] at cloneable
      refine ⟨true, ?_⟩
      rw [if_neg cloneable, if_pos]
      rw [Bool.and_eq_true, decide_eq_true_eq, decide_eq_true_eq]
      omega
    · cases h

theorem usesReference_of_append {c : Catalogue} {shape : Shape} {ss ss' : List Signature} {b : Bool}
    (h : usesReference c shape (ss ++ ss') = .ok b) : ∃ b', usesReference c shape ss = .ok b' := by
  cases shape with
  | read => exact readByReference_of_append h
  | write => exact ⟨false, rfl⟩
  | call n => exact ⟨false, rfl⟩

/-- A plan for more signatures leaves one for fewer. -/
theorem Plan.For.of_append {c : Catalogue} {k : Key} {ss ss' : List Signature} {p : Plan}
    (nonempty : ss ≠ []) (h : p.For c k (ss ++ ss')) : ∃ p' : Plan, p'.For c k ss := by
  obtain ⟨slots, hslots⟩ := argumentSlots_of_append nonempty h.slots
  obtain ⟨byReference, hbyReference⟩ := usesReference_of_append h.byReference
  refine ⟨⟨receiverOf ss, argumentNames ss, slots, byReference, unify (ss.map (·.output))⟩,
    h.unreserved, hslots, hbyReference, rfl, ?_, rfl, rfl⟩
  intro m incompatible
  obtain ⟨m', persists⟩ := unify_incompatible_append incompatible (ss'.map (·.output))
  rw [← List.map_append, h.returns] at persists
  exact h.compatible m' persists

/-! ## Receivers -/

theorem rank_receiverOf_append (ss ss' : List Signature) :
    (receiverOf ss).rank ≤ (receiverOf (ss ++ ss')).rank := by
  induction ss with
  | nil => exact Nat.zero_le _
  | cons s ss ih =>
    show (s.receiver.max (receiverOf ss)).rank ≤ (s.receiver.max (receiverOf (ss ++ ss'))).rank
    rw [Receiver.rank_max, Receiver.rank_max]
    exact Nat.max_le.2 ⟨Nat.le_max_left _ _, Nat.le_trans ih (Nat.le_max_right _ _)⟩

/-! ## An appended subtype -/

/-- Every name under which the longer wrapper forwards a member is one under which the shorter
wrapper forwards a member, maybe of another shape. A member that both forward takes a receiver at
least as strong on the longer one. -/
theorem accessors_of_appended {c : Catalogue} {r r' : Registry} {w w' : Wrapper} {s : Ident × Ty}
    {f f' : Forwarding} (nonempty : w.variants ≠ []) (appended : w'.variants = w.variants ++ [s])
    (shorter : r.forward c w = .ok f) (longer : r'.forward c w' = .ok f') :
    (∀ a' ∈ f'.accessors, ∃ a ∈ f.accessors, a.key.accessorName = a'.key.accessorName) ∧
      ∀ a ∈ f.accessors, ∀ a' ∈ f'.accessors, a.key = a'.key →
        a.receiver.rank ≤ a'.receiver.rank := by
  have types : w'.types = w.types ++ [s.2] := by
    rw [Wrapper.types, appended, List.map_append]
    rfl
  have subtypes : w.types ≠ [] := fun nil => nonempty (List.map_eq_nil_iff.1 nil)
  constructor
  · intro a' ha'
    obtain ⟨provided', plan', -, -, -⟩ := (made_of_forward longer).2 a' ha'
    rw [types] at provided'
    obtain ⟨ss, ss', rfl, provided, -⟩ := forall₂_append_left provided'
    have nonempty : ss ≠ [] := by
      rintro rfl
      exact subtypes (List.forall₂_nil_right_iff.1 provided)
    obtain ⟨p, plan⟩ := plan'.of_append nonempty
    obtain ⟨t, ht⟩ := List.exists_mem_of_ne_nil _ subtypes
    obtain ⟨s, -, provides⟩ := exists_mem_zip provided ht
    -- The shorter wrapper has a plan for the same member, so the name is used, maybe by another.
    have used := mem_used_of_forward shorter (provides.mem_keysOf ht) provided plan
    exact List.mem_map.1 used
  · intro a ha a' ha' same
    obtain ⟨provided, plan, -, -, -⟩ := (made_of_forward shorter).2 a ha
    obtain ⟨provided', plan', -, -, -⟩ := (made_of_forward longer).2 a' ha'
    obtain rfl := same
    rw [types] at provided'
    obtain ⟨ss, ss', rfl, provided₁, -⟩ := forall₂_append_left provided'
    obtain rfl := provided_unique provided provided₁
    show Receiver.rank _ ≤ Receiver.rank _
    rw [Plan.accessor, Plan.accessor, plan.receiver, plan'.receiver]
    exact rank_receiverOf_append _ ss'

/-- The members of a type that both want a method named `set_x`. -/
def rivals (output : Option Ty) : Table :=
  [(⟨"set_x", .read⟩, ⟨.shared, .method (.generated "set_x"), [], [], output⟩),
   (⟨"x", .write⟩, ⟨.mutable, .field (.generated "x"), [.generated "value"],
      [.ofIdent (.generated "u8")], none⟩)]

/-- Two types on which both members can be forwarded, and one that spoils the first of them. -/
def rivalry : Catalogue :=
  let value := Ty.ofIdent (.generated "u8")
  ⟨[("A", ⟨.generated "A", rivals value⟩), ("B", ⟨.generated "B", rivals value⟩),
    ("C", ⟨.generated "C", rivals none⟩)], []⟩

/-- A wrapper over types with plain names. -/
def wrapperOver (types : List String) : Wrapper :=
  ⟨.generated "W", .inherited, [],
    types.map fun t => (.generated t, .ofIdent (.generated t)), [], none⟩

/-- The appended type drops the member that is read, and the member that is written takes over its
name. -/
theorem accessors_of_appended_rival :
    ∃ f f' : Forwarding,
      (wrapperOver ["A", "B"]).variants ≠ [] ∧
      (wrapperOver ["A", "B", "C"]).variants =
        (wrapperOver ["A", "B"]).variants ++ [(.generated "C", .ofIdent (.generated "C"))] ∧
      Registry.forward (.new []) rivalry (wrapperOver ["A", "B"]) = .ok f ∧
      Registry.forward (.new []) rivalry (wrapperOver ["A", "B", "C"]) = .ok f' ∧
      f.accessors.map (·.key) = [⟨"set_x", .read⟩] ∧
      f'.accessors.map (·.key) = [⟨"x", .write⟩] ∧
      (∀ a' ∈ f'.accessors, ∃ a ∈ f.accessors, a.key.accessorName = a'.key.accessorName) ∧
      ∀ a ∈ f.accessors, ∀ a' ∈ f'.accessors, a.key = a'.key →
        a.receiver.rank ≤ a'.receiver.rank := by
  obtain ⟨f, shorter, keys⟩ := exists_ok_of_toOption
    (x := Registry.forward (.new []) rivalry (wrapperOver ["A", "B"]))
    (f := fun f => f.accessors.map (·.key)) (b := [⟨"set_x", .read⟩]) (by decide +kernel)
  obtain ⟨f', longer, keys'⟩ := exists_ok_of_toOption
    (x := Registry.forward (.new []) rivalry (wrapperOver ["A", "B", "C"]))
    (f := fun f => f.accessors.map (·.key)) (b := [⟨"x", .write⟩]) (by decide +kernel)
  have nonempty : (wrapperOver ["A", "B"]).variants ≠ [] := by simp [wrapperOver]
  exact ⟨f, f', nonempty, rfl, shorter, longer, keys, keys',
    accessors_of_appended nonempty rfl shorter longer⟩

end SharedMembers
