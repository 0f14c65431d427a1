import Mathlib.Data.List.Perm.Basic
import SharedMembers.Unification.Basic
import SharedMembers.Wrapper.Basic

/-!
# Sets of types

Wrappers are told apart by the keys of their types in order, and the types of one place are
gathered with `distinct`. Both forget how often and in which order the types occur.

* `setKeyOf_eq_iff`: two lists of types have the same set key iff their keys are the same up to
  order.
* `mem_keys_distinct`: `distinct` keeps every key.
* `distinct_append`: what is seen first stays first when types are added.
* `distinct_concat_of_mem`, `distinct_concat_of_not_mem`: what becomes of one type more.
* `distinct_perm`, `map_distinct_perm`: the keys that are kept depend on the set of keys alone.
* `firstSpellings_distinct`, `FirstSpellings.unique`: `distinct` keeps the first spelling of each
  key in first-seen order, and that tells what it keeps.
-/

namespace SharedMembers

/-! ## Texts in order -/

theorem perm_insertText (text : String) (ts : List String) :
    (insertText text ts).Perm (text :: ts) := by
  induction ts with
  | nil => exact List.Perm.refl _
  | cons t ts ih =>
    rw [insertText]
    split
    · exact List.Perm.refl _
    · exact (ih.cons t).trans (List.Perm.swap text t ts)

theorem perm_sortedTexts (ts : List String) : (sortedTexts ts).Perm ts := by
  induction ts with
  | nil => exact List.Perm.refl _
  | cons t ts ih =>
    show (insertText t (sortedTexts ts)).Perm (t :: ts)
    exact (perm_insertText t _).trans (ih.cons t)

theorem pairwise_insertText {text : String} {ts : List String}
    (h : ts.Pairwise (· ≤ ·)) : (insertText text ts).Pairwise (· ≤ ·) := by
  induction ts with
  | nil => simp [insertText]
  | cons t ts ih =>
    have hd := List.pairwise_cons.1 h
    rw [insertText]
    split
    · next le =>
      refine List.pairwise_cons.2 ⟨fun x hx => ?_, h⟩
      rcases List.mem_cons.1 hx with rfl | hx
      · exact le
      · exact String.le_trans le (hd.1 x hx)
    · next notLe =>
      refine List.pairwise_cons.2 ⟨fun x hx => ?_, ih hd.2⟩
      rcases List.mem_cons.1 ((perm_insertText text ts).mem_iff.1 hx) with rfl | hx
      · exact (String.le_total t x).resolve_right notLe
      · exact hd.1 x hx

theorem pairwise_sortedTexts (ts : List String) : (sortedTexts ts).Pairwise (· ≤ ·) := by
  induction ts with
  | nil => exact List.Pairwise.nil
  | cons t ts ih => exact pairwise_insertText ih

/-- Texts in order tell the texts up to their order. -/
theorem sortedTexts_eq_iff {a b : List String} : sortedTexts a = sortedTexts b ↔ a.Perm b := by
  constructor
  · intro h
    exact (perm_sortedTexts a).symm.trans (h ▸ perm_sortedTexts b)
  · intro h
    have perm := (perm_sortedTexts a).trans (h.trans (perm_sortedTexts b).symm)
    exact perm.eq_of_pairwise (fun _ _ _ _ => String.le_antisymm) (pairwise_sortedTexts a)
      (pairwise_sortedTexts b)

/-- Two lists of types have the same set key iff their keys are the same up to order. -/
theorem setKeyOf_eq_iff {ts us : List Ty} :
    setKeyOf ts = setKeyOf us ↔ (ts.map Ty.key).Perm (us.map Ty.key) :=
  sortedTexts_eq_iff

theorem mem_setKeyOf {k : String} {ts : List Ty} : k ∈ setKeyOf ts ↔ k ∈ ts.map Ty.key :=
  (perm_sortedTexts _).mem_iff

/-! ## Types that are seen first -/

theorem mem_keys_distinctFrom {k : String} {seen : List String} {ts : List Ty} :
    k ∈ (distinctFrom seen ts).map Ty.key ↔ k ∈ ts.map Ty.key ∧ k ∉ seen := by
  induction ts generalizing seen with
  | nil => simp [distinctFrom]
  | cons t ts ih =>
    rw [distinctFrom]
    split
    · next old =>
      rw [List.contains_iff_mem] at old
      rw [ih, List.map_cons, List.mem_cons]
      constructor
      · rintro ⟨h, new⟩
        exact ⟨.inr h, new⟩
      · rintro ⟨rfl | h, new⟩
        · exact absurd old new
        · exact ⟨h, new⟩
    · next new =>
      rw [List.contains_iff_mem] at new
      rw [List.map_cons, List.mem_cons, ih, List.map_cons, List.mem_cons, List.mem_cons, not_or]
      constructor
      · rintro (rfl | ⟨h, -, notSeen⟩)
        · exact ⟨.inl rfl, new⟩
        · exact ⟨.inr h, notSeen⟩
      · rintro ⟨rfl | h, notSeen⟩
        · exact .inl rfl
        · by_cases same : k = t.key
          · exact .inl same
          · exact .inr ⟨h, same, notSeen⟩

/-- No key is lost. -/
theorem mem_keys_distinct {k : String} {ts : List Ty} :
    k ∈ (distinct ts).map Ty.key ↔ k ∈ ts.map Ty.key := by
  rw [distinct, mem_keys_distinctFrom]
  simp

/-- Each type has one of the same key among those that are kept. -/
theorem exists_mem_distinct {t : Ty} {ts : List Ty} (h : t ∈ ts) :
    ∃ u ∈ distinct ts, u.key = t.key :=
  List.mem_map.1 (mem_keys_distinct.2 (List.mem_map_of_mem h))

theorem distinctFrom_append (seen : List String) (ts us : List Ty) :
    ∃ later, distinctFrom seen (ts ++ us) = distinctFrom seen ts ++ later := by
  induction ts generalizing seen with
  | nil => exact ⟨distinctFrom seen us, rfl⟩
  | cons t ts ih =>
    rw [List.cons_append, distinctFrom, distinctFrom]
    split
    · exact ih seen
    · obtain ⟨later, h⟩ := ih (t.key :: seen)
      exact ⟨later, by rw [h, List.cons_append]⟩

/-- What is seen first stays first when types are added. -/
theorem distinct_append (ts us : List Ty) :
    ∃ later, distinct (ts ++ us) = distinct ts ++ later :=
  distinctFrom_append [] ts us

theorem distinctFrom_concat_of_mem {seen : List String} {ts : List Ty} {t : Ty}
    (known : t.key ∈ seen ∨ t.key ∈ ts.map Ty.key) :
    distinctFrom seen (ts ++ [t]) = distinctFrom seen ts := by
  induction ts generalizing seen with
  | nil => simpa [distinctFrom] using known
  | cons u us ih =>
    rw [List.map_cons, List.mem_cons] at known
    rw [List.cons_append, distinctFrom, distinctFrom]
    split
    · next old =>
      rw [List.contains_iff_mem] at old
      refine ih ?_
      rcases known with known | same | known
      · exact .inl known
      · exact .inl (same ▸ old)
      · exact .inr known
    · refine congrArg (u :: ·) (ih ?_)
      rw [List.mem_cons]
      tauto

theorem distinctFrom_concat_of_not_mem {seen : List String} {ts : List Ty} {t : Ty}
    (new : t.key ∉ seen) (other : t.key ∉ ts.map Ty.key) :
    distinctFrom seen (ts ++ [t]) = distinctFrom seen ts ++ [t] := by
  induction ts generalizing seen with
  | nil => simpa [distinctFrom] using new
  | cons u us ih =>
    rw [List.map_cons, List.mem_cons, not_or] at other
    rw [List.cons_append, distinctFrom, distinctFrom]
    split
    · exact ih new other.2
    · refine congrArg (u :: ·) (ih ?_ other.2)
      rw [List.mem_cons, not_or]
      exact ⟨other.1, new⟩

/-- A type whose key was seen before changes nothing. -/
theorem distinct_concat_of_mem {ts : List Ty} {t : Ty} (known : t.key ∈ ts.map Ty.key) :
    distinct (ts ++ [t]) = distinct ts :=
  distinctFrom_concat_of_mem (.inr known)

/-- A type of a new key comes last. -/
theorem distinct_concat_of_not_mem {ts : List Ty} {t : Ty} (new : t.key ∉ ts.map Ty.key) :
    distinct (ts ++ [t]) = distinct ts ++ [t] :=
  distinctFrom_concat_of_not_mem List.not_mem_nil new

/-- The keys that are kept depend on the set of keys alone. -/
theorem distinct_perm {ts us : List Ty} (h : (ts.map Ty.key).Perm (us.map Ty.key)) :
    ((distinct ts).map Ty.key).Perm ((distinct us).map Ty.key) := by
  rw [List.perm_ext_iff_of_nodup (distinct_keys_nodup ts) (distinct_keys_nodup us)]
  intro k
  rw [mem_keys_distinct, mem_keys_distinct]
  exact h.mem_iff

theorem length_distinct_of_perm {ts us : List Ty} (h : (ts.map Ty.key).Perm (us.map Ty.key)) :
    (distinct ts).length = (distinct us).length := by
  have := (distinct_perm h).length_eq
  simpa using this

/-- Lists with the same values up to order can be brought to stand side by side. -/
theorem exists_perm_forall₂ {α β : Type} {f : α → β} {as bs : List α}
    (h : (as.map f).Perm (bs.map f)) :
    ∃ cs : List α, cs.Perm bs ∧ List.Forall₂ (fun a c => f a = f c) as cs := by
  have self : List.Forall₂ (fun b c => b = f c) (bs.map f) bs := by
    rw [List.forall₂_map_left_iff, List.forall₂_same]
    exact fun _ _ => rfl
  obtain ⟨cs, sides, perm⟩ := List.perm_comp_forall₂ h self
  exact ⟨cs, perm, List.forall₂_map_left_iff.1 sides⟩

/-- What the keys tell about the types is the same for the types that are kept, up to order. -/
theorem map_distinct_perm {β : Type} {f : Ty → β} {ts us : List Ty}
    (keys : (ts.map Ty.key).Perm (us.map Ty.key))
    (told : ∀ t ∈ ts, ∀ u ∈ us, t.key = u.key → f t = f u) :
    ((distinct ts).map f).Perm ((distinct us).map f) := by
  obtain ⟨vs, perm, sides⟩ := exists_perm_forall₂ (distinct_perm keys)
  have same : (distinct ts).map f = vs.map f := by
    rw [← List.forall₂_eq_eq_eq, List.forall₂_map_left_iff, List.forall₂_map_right_iff,
      List.forall₂_iff_zip]
    refine ⟨sides.length_eq, fun {t v} paired => ?_⟩
    obtain ⟨ht, hv⟩ := List.of_mem_zip paired
    exact told t (mem_distinct ht) v (mem_distinct (perm.mem_iff.1 hv))
      (List.forall₂_zip sides paired)
  rw [same]
  exact perm.map f

/-- Types of which only one is kept all have its key. -/
theorem key_eq_of_distinct_singleton {ts : List Ty} {t u : Ty} (h : distinct ts = [t])
    (hu : u ∈ ts) : t.key = u.key := by
  obtain ⟨v, hv, same⟩ := exists_mem_distinct hu
  rw [h, List.mem_singleton] at hv
  rw [← hv, same]

theorem distinct_eq_nil_iff {ts : List Ty} : distinct ts = [] ↔ ts = [] := by
  constructor
  · intro h
    cases ts with
    | nil => rfl
    | cons t ts => simp [distinct, distinctFrom] at h
  · rintro rfl
    rfl

/-! ## First spellings -/

/-- Of each key the type that comes first, in the order in which the keys are first seen. -/
structure FirstSpellings (types ts : List Ty) : Prop where
  first : ∀ t ∈ ts, types.find? (·.key == t.key) = some t
  every : ∀ t ∈ types, ∃ u ∈ ts, u.key = t.key
  ordered : ts.Pairwise fun t u =>
    types.findIdx (·.key == t.key) < types.findIdx (·.key == u.key)

theorem find?_of_mem_distinctFrom {seen : List String} {types : List Ty} {t : Ty}
    (h : t ∈ distinctFrom seen types) : types.find? (·.key == t.key) = some t := by
  induction types generalizing seen with
  | nil => simp [distinctFrom] at h
  | cons u us ih =>
    rw [distinctFrom] at h
    split at h
    · next old =>
      rw [List.contains_iff_mem] at old
      have other : u.key ≠ t.key := fun same => (mem_distinctFrom h).2 (same ▸ old)
      rw [List.find?_cons_of_neg (by simpa using other)]
      exact ih h
    · rcases List.mem_cons.1 h with rfl | h
      · exact List.find?_cons_of_pos (beq_self_eq_true _)
      · have other : u.key ≠ t.key := fun same => (mem_distinctFrom h).2 (same ▸ List.mem_cons_self)
        rw [List.find?_cons_of_neg (by simpa using other)]
        exact ih h

theorem pairwise_distinctFrom (seen : List String) (types : List Ty) :
    (distinctFrom seen types).Pairwise fun t u =>
      types.findIdx (·.key == t.key) < types.findIdx (·.key == u.key) := by
  induction types generalizing seen with
  | nil => exact List.Pairwise.nil
  | cons v vs ih =>
    -- A type of another key than the head's is found one place later than in the tail.
    have later : ∀ t : Ty, v.key ≠ t.key →
        (v :: vs).findIdx (·.key == t.key) = vs.findIdx (·.key == t.key) + 1 := by
      intro t other
      rw [List.findIdx_cons, beq_false_of_ne other]
      rfl
    rw [distinctFrom]
    split
    · next old =>
      rw [List.contains_iff_mem] at old
      refine (ih seen).imp_of_mem fun {t u} ht hu before => ?_
      have apart : ∀ w ∈ distinctFrom seen vs, v.key ≠ w.key :=
        fun w hw same => (mem_distinctFrom hw).2 (same ▸ old)
      rw [later t (apart t ht), later u (apart u hu)]
      exact Nat.add_lt_add_right before 1
    · have apart : ∀ w ∈ distinctFrom (v.key :: seen) vs, v.key ≠ w.key :=
        fun w hw same => (mem_distinctFrom hw).2 (same ▸ List.mem_cons_self)
      refine List.pairwise_cons.2 ⟨fun u hu => ?_, ?_⟩
      · rw [later u (apart u hu), List.findIdx_cons, beq_self_eq_true]
        exact Nat.succ_pos _
      · refine (ih _).imp_of_mem fun {t u} ht hu before => ?_
        rw [later t (apart t ht), later u (apart u hu)]
        exact Nat.add_lt_add_right before 1

theorem firstSpellings_distinct (types : List Ty) : FirstSpellings types (distinct types) where
  first _ h := find?_of_mem_distinctFrom h
  every _ h := exists_mem_distinct h
  ordered := pairwise_distinctFrom [] types

namespace FirstSpellings

theorem mem {types ts : List Ty} (h : FirstSpellings types ts) {t : Ty} (ht : t ∈ ts) :
    t ∈ types :=
  List.mem_of_find?_eq_some (h.first t ht)

theorem nodup {types ts : List Ty} (h : FirstSpellings types ts) : ts.Nodup :=
  h.ordered.imp fun before same => by rw [same] at before; exact Nat.lt_irrefl _ before

theorem subset {types ts us : List Ty} (h : FirstSpellings types ts)
    (h' : FirstSpellings types us) : ts ⊆ us := by
  intro t ht
  obtain ⟨u, hu, same⟩ := h'.every t (h.mem ht)
  have found := h'.first u hu
  rw [same, h.first t ht] at found
  cases found
  exact hu

/-- There is only one list of first spellings. -/
theorem unique {types ts us : List Ty} (h : FirstSpellings types ts)
    (h' : FirstSpellings types us) : ts = us := by
  have perm : ts.Perm us := by
    rw [List.perm_ext_iff_of_nodup h.nodup h'.nodup]
    exact fun t => ⟨fun ht => h.subset h' ht, fun ht => h'.subset h ht⟩
  exact perm.eq_of_pairwise (fun _ _ _ _ before after => absurd before (Nat.lt_asymm after))
    h.ordered h'.ordered

end FirstSpellings

end SharedMembers
