import Mathlib.Data.List.Nodup
import Mathlib.Data.List.Perm.Basic

/-!
# Steps that can fail

How a computation that may fail came to its result, and how it can fail.

* `bind_eq_ok_iff`, `map_eq_ok_iff`: both of two steps succeeded.
* `mapM_eq_ok_iff`, `mapM_eq_some_iff`: every step of a list of steps succeeded.
* `FailsOnly`: how a computation can fail.
* `SameOutcome`: two computations fail alike or succeed alike.
* `nodup_map_append_singleton`, `exists_mem_zip`: one more element, and lists side by side.
-/

namespace SharedMembers

variable {α β ε : Type}

theorem bind_eq_ok_iff {x : Except ε α} {f : α → Except ε β} {b : β} :
    x >>= f = .ok b ↔ ∃ a, x = .ok a ∧ f a = .ok b := by
  cases x with
  | error e => simp [bind, Except.bind]
  | ok a => simp [bind, Except.bind]

theorem map_eq_ok_iff {x : Except ε α} {f : α → β} {b : β} :
    x.map f = .ok b ↔ ∃ a, x = .ok a ∧ f a = b := by
  cases x with
  | error e => simp [Except.map]
  | ok a => simp [Except.map]

theorem mapM_eq_ok_iff {f : α → Except ε β} {as : List α} {bs : List β} :
    as.mapM f = .ok bs ↔ List.Forall₂ (fun a b => f a = .ok b) as bs := by
  induction as generalizing bs with
  | nil => simp [pure, Except.pure, eq_comm]
  | cons a as ih =>
    rw [List.mapM_cons, bind_eq_ok_iff, List.forall₂_cons_left_iff]
    constructor
    · rintro ⟨b, hb, h⟩
      obtain ⟨bs', hbs, h⟩ := bind_eq_ok_iff.1 h
      cases h
      exact ⟨b, bs', hb, ih.1 hbs, rfl⟩
    · rintro ⟨b, bs', hb, hbs, rfl⟩
      exact ⟨b, hb, bind_eq_ok_iff.2 ⟨bs', ih.2 hbs, rfl⟩⟩

theorem mapM_eq_some_iff {f : α → Option β} {as : List α} {bs : List β} :
    as.mapM f = some bs ↔ List.Forall₂ (fun a b => f a = some b) as bs := by
  induction as generalizing bs with
  | nil => simp [eq_comm]
  | cons a as ih =>
    rw [List.mapM_cons, List.forall₂_cons_left_iff]
    constructor
    · intro h
      obtain ⟨b, hb, h⟩ := Option.bind_eq_some_iff.1 h
      obtain ⟨bs', hbs, h⟩ := Option.bind_eq_some_iff.1 h
      cases h
      exact ⟨b, bs', hb, ih.1 hbs, rfl⟩
    · rintro ⟨b, bs', hb, hbs, rfl⟩
      exact Option.bind_eq_some_iff.2 ⟨b, hb, Option.bind_eq_some_iff.2 ⟨bs', ih.2 hbs, rfl⟩⟩

/-- A result of which something is known is a result. -/
theorem exists_ok_of_toOption {x : Except ε α} {f : α → β} {b : β}
    (h : x.toOption.map f = some b) : ∃ a, x = .ok a ∧ f a = b := by
  cases x with
  | error e => cases h
  | ok a => exact ⟨a, rfl, Option.some.inj h⟩

/-- Where the input comes from that gave a result. -/
theorem exists_of_mem_mapM {f : α → Except ε β} {as : List α} {bs : List β} {b : β}
    (h : as.mapM f = .ok bs) (hb : b ∈ bs) : ∃ a ∈ as, f a = .ok b := by
  have all := mapM_eq_ok_iff.1 h
  clear h
  induction all with
  | nil => simp at hb
  | cons first _ ih =>
    rcases List.mem_cons.1 hb with rfl | hb
    · exact ⟨_, List.mem_cons_self, first⟩
    · obtain ⟨a, ha, h⟩ := ih hb
      exact ⟨a, List.mem_cons_of_mem _ ha, h⟩

/-- What each step tells of its result, all steps tell of theirs. -/
theorem map_eq_of_mapM {γ : Type} {f : α → Except ε β} {g : β → γ} {k : α → γ} {as : List α}
    {bs : List β} (tells : ∀ a b, f a = .ok b → g b = k a) (h : as.mapM f = .ok bs) :
    bs.map g = as.map k := by
  have all := mapM_eq_ok_iff.1 h
  clear h
  induction all with
  | nil => rfl
  | cons first _ ih => rw [List.map_cons, List.map_cons, tells _ _ first, ih]

/-! ## Failures -/

/-- The computation fails in no other way. -/
def FailsOnly (P : ε → Prop) (x : Except ε α) : Prop :=
  ∀ e, x = .error e → P e

theorem failsOnly_ok {P : ε → Prop} (a : α) : FailsOnly P (.ok a : Except ε α) := by
  rintro e ⟨⟩

theorem FailsOnly.mono {P Q : ε → Prop} {x : Except ε α} (hx : FailsOnly P x)
    (weaker : ∀ e, P e → Q e) : FailsOnly Q x :=
  fun e h => weaker e (hx e h)

theorem FailsOnly.bind {P : ε → Prop} {x : Except ε α} {f : α → Except ε β} (hx : FailsOnly P x)
    (hf : ∀ a, FailsOnly P (f a)) : FailsOnly P (x >>= f) := by
  cases x with
  | error e' =>
    intro e h
    cases h
    exact hx e' rfl
  | ok a => exact hf a

theorem FailsOnly.map {P : ε → Prop} {x : Except ε α} {f : α → β} (hx : FailsOnly P x) :
    FailsOnly P (x.map f) := by
  cases x with
  | error e' =>
    intro e h
    cases h
    exact hx e' rfl
  | ok a => exact failsOnly_ok _

theorem FailsOnly.mapM {P : ε → Prop} {f : α → Except ε β} {as : List α}
    (hf : ∀ a ∈ as, FailsOnly P (f a)) : FailsOnly P (as.mapM f) := by
  induction as with
  | nil => exact failsOnly_ok _
  | cons a as ih =>
    rw [List.forall_mem_cons] at hf
    rw [List.mapM_cons]
    exact hf.1.bind fun b => (ih hf.2).bind fun bs => failsOnly_ok _

/-! ## Two runs -/

/-- Both computations fail in the same way, or both succeed with results that are related. -/
inductive SameOutcome (R : α → β → Prop) : Except ε α → Except ε β → Prop where
  | error (e : ε) : SameOutcome R (.error e) (.error e)
  | ok {a : α} {b : β} (related : R a b) : SameOutcome R (.ok a) (.ok b)

/-- What each two steps keep is kept by all of them. -/
theorem forall₂_of_mapM {γ δ : Type} {R : α → γ → Prop} {S : β → δ → Prop} {f : α → Except ε β}
    {g : γ → Except ε δ} (keeps : ∀ a c b d, R a c → f a = .ok b → g c = .ok d → S b d)
    {as : List α} {cs : List γ} {bs : List β} {ds : List δ} (sides : List.Forall₂ R as cs)
    (h : as.mapM f = .ok bs) (h' : cs.mapM g = .ok ds) : List.Forall₂ S bs ds := by
  have all := mapM_eq_ok_iff.1 h
  have all' := mapM_eq_ok_iff.1 h'
  clear h h'
  induction sides generalizing bs ds with
  | nil =>
    cases all
    cases all'
    exact .nil
  | cons r _ ih =>
    obtain ⟨b, bs, hb, rest, rfl⟩ := List.forall₂_cons_left_iff.1 all
    obtain ⟨d, ds, hd, rest', rfl⟩ := List.forall₂_cons_left_iff.1 all'
    exact .cons (keeps _ _ b d r hb hd) (ih rest rest')

theorem mapM_perm {f : α → Except ε β} {as as' : List α} {bs bs' : List β}
    (perm : as.Perm as') (h : as.mapM f = .ok bs) (h' : as'.mapM f = .ok bs') : bs.Perm bs' := by
  obtain ⟨cs, all, perm'⟩ := List.perm_comp_forall₂ perm.symm (mapM_eq_ok_iff.1 h)
  obtain rfl : cs = bs' := Except.ok.inj ((mapM_eq_ok_iff.2 all).symm.trans h')
  exact perm'.symm

theorem SameOutcome.mapM {γ : Type} {R : β → γ → Prop} {f : α → Except ε β}
    {g : α → Except ε γ} {as : List α} (h : ∀ a ∈ as, SameOutcome R (f a) (g a)) :
    SameOutcome (List.Forall₂ R) (as.mapM f) (as.mapM g) := by
  induction as with
  | nil => exact .ok .nil
  | cons a as ih =>
    have first := h a List.mem_cons_self
    have rest := ih fun x hx => h x (List.mem_cons_of_mem _ hx)
    rw [List.mapM_cons, List.mapM_cons]
    revert first rest
    generalize f a = x
    generalize g a = y
    generalize as.mapM f = xs
    generalize as.mapM g = ys
    intro first rest
    cases first with
    | error e => exact .error e
    | ok head =>
      cases rest with
      | error e => exact .error e
      | ok tail => exact .ok (.cons head tail)

/-! ## One more element -/

theorem nodup_map_append_singleton {f : α → β} {as : List α} {a : α}
    (nodup : (as.map f).Nodup) (new : f a ∉ as.map f) : ((as ++ [a]).map f).Nodup := by
  rw [List.map_append, List.map_singleton, ← List.concat_eq_append]
  exact nodup.concat new

/-! ## Lists side by side -/

theorem exists_forall₂_of_forall {R : α → β → Prop} {as : List α}
    (h : ∀ a ∈ as, ∃ b, R a b) : ∃ bs, List.Forall₂ R as bs := by
  induction as with
  | nil => exact ⟨[], .nil⟩
  | cons a as ih =>
    obtain ⟨b, hb⟩ := h a List.mem_cons_self
    obtain ⟨bs, hbs⟩ := ih fun x hx => h x (List.mem_cons_of_mem _ hx)
    exact ⟨b :: bs, .cons hb hbs⟩

theorem exists_mem_zip {R : α → β → Prop} {as : List α} {bs : List β}
    (h : List.Forall₂ R as bs) {a : α} (ha : a ∈ as) : ∃ b, (a, b) ∈ as.zip bs ∧ R a b := by
  induction h with
  | nil => simp at ha
  | cons first _ ih =>
    rcases List.mem_cons.1 ha with rfl | ha
    · exact ⟨_, List.mem_cons_self, first⟩
    · obtain ⟨b, hb, r⟩ := ih ha
      exact ⟨b, List.mem_cons_of_mem _ hb, r⟩

theorem getElem?_rel {R : α → β → Prop} {as : List α} {bs : List β}
    (h : List.Forall₂ R as bs) (i : Nat) : Option.Rel R as[i]? bs[i]? := by
  induction h generalizing i with
  | nil => exact .none
  | cons first _ ih =>
    cases i with
    | zero => exact .some first
    | succ i => exact ih i

/-- Lists that match side by side still do after the second is built from both. -/
theorem forall₂_map_zip {γ δ : Type} {R : α → β → Prop} {S : α → δ → Prop} {f : α → γ}
    {g : γ × β → δ} {as : List α} {bs : List β} (h : List.Forall₂ R as bs)
    (imp : ∀ a, ∀ b ∈ bs, R a b → S a (g (f a, b))) :
    List.Forall₂ S as (((as.map f).zip bs).map g) := by
  induction h with
  | nil => exact .nil
  | cons first _ ih =>
    exact .cons (imp _ _ List.mem_cons_self first)
      (ih fun a b hb => imp a b (List.mem_cons_of_mem _ hb))

theorem forall₂_append_left {R : α → β → Prop} {as as' : List α} {cs : List β}
    (h : List.Forall₂ R (as ++ as') cs) :
    ∃ bs bs', cs = bs ++ bs' ∧ List.Forall₂ R as bs ∧ List.Forall₂ R as' bs' := by
  induction as generalizing cs with
  | nil => exact ⟨[], cs, rfl, .nil, h⟩
  | cons a as ih =>
    obtain ⟨b, cs, first, rest, rfl⟩ := List.forall₂_cons_left_iff.1 h
    obtain ⟨bs, bs', rfl, hbs, hbs'⟩ := ih rest
    exact ⟨b :: bs, bs', rfl, .cons first hbs, hbs'⟩

end SharedMembers
