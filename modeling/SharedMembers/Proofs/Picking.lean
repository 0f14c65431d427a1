import SharedMembers.Store.Pick

/-!
# Only the value that is asked for is made

Picking goes through all values with a counter, and tests each place by itself; that a value was
found does not end it. Still at most one value is made: in front of the place that is asked for the
counter is too small, and behind it too large. This holds whatever effects the values have, so it is
said in every monad. To count how often and in which order computations are done, each of them is
noted when it begins.

Results:
* `pickFrom_of_le`: from a place that is not behind the one that is asked for, only that one's value
  is made.
* `pick_eq`: picking is working out the place and then making the value there, if there is one.
* `pick_noted`: the notes are those of the place and of the value there.
* `pick_evaluates`: both of these together.
-/

namespace SharedMembers.Store

variable {m : Type → Type} [Monad m] {ω : Type}

/-! ## What is picked -/

/-- From a place that is not behind the one that is asked for, only the value at that one is made. -/
theorem pickFrom_of_le {index n : Nat} (h : n ≤ index) (found : Option ω)
    (choices : List (Choice m ω)) :
    pickFrom index n found choices =
      match choices[index - n]? with
      | some c => return some (← c.give)
      | none => return found := by
  induction choices generalizing n with
  | nil => rfl
  | cons c rest ih =>
    rw [pickFrom]
    rcases Nat.eq_or_lt_of_le h with rfl | before
    · -- The value is found, and the counter has passed the place for good.
      simp only [if_true, pickFrom_of_lt (Nat.lt_succ_self _), Nat.sub_self,
        List.getElem?_cons_zero]
    · have behind : index - n = index - (n + 1) + 1 := by omega
      rw [if_neg (by omega), ih before, behind, List.getElem?_cons_succ]

/-- The place is worked out, and then the value there is made, if there is one, and no other. -/
theorem pick_eq (index : m Nat) (choices : List (Choice m ω)) :
    pick index choices = do
      let i ← index
      if h : i < choices.length then return some (← choices[i].give) else return none := by
  rw [pick]
  congr 1
  funext i
  rw [pickFrom_of_le (Nat.zero_le i), Nat.sub_zero]
  split
  · next c found =>
    obtain ⟨bound, rfl⟩ := List.getElem?_eq_some_iff.1 found
    rw [dif_pos bound]
  · next missing => rw [dif_neg (Nat.not_lt.2 (List.getElem?_eq_none_iff.1 missing))]

/-! ## Notes -/

/-- What can be done while a value is picked. -/
inductive Evaluation where
  /-- The place is worked out. -/
  | index
  /-- The value at a place is made. -/
  | value (place : Nat)
  /-- The value at a place is turned into what is wanted. -/
  | conversion (place : Nat)
deriving Repr, DecidableEq

/-- A computation that is noted when it begins. -/
def noting {α : Type} (e : Evaluation) (x : m α) : StateT (List Evaluation) m α := do
  modify (· ++ [e])
  StateT.lift x

/-- The value at a place, with notes of its making and its turning. -/
def Choice.noted (place : Nat) (c : Choice m ω) : Choice (StateT (List Evaluation) m) ω :=
  ⟨noting (.value place) c.make, fun x => noting (.conversion place) (c.into x)⟩

variable [LawfulMonad m]

theorem run_noting {α : Type} (e : Evaluation) (x : m α) (notes : List Evaluation) :
    (noting e x).run notes = do return (← x, notes ++ [e]) := by
  simp [noting]

/-- A value is made and then turned, each of them once. -/
theorem run_give_noted (place : Nat) (c : Choice m ω) (notes : List Evaluation) :
    (c.noted place).give.run notes = do
      return (← c.give, notes ++ [.value place, .conversion place]) := by
  simp [Choice.give, Choice.noted, run_noting]

/-- The place is noted first, and after it the value there, if there is one, and no other. -/
theorem pick_noted (index : m Nat) (choices : List (Choice m ω)) :
    (pick (noting .index index) (choices.mapIdx Choice.noted)).run [] = do
      let i ← index
      if h : i < choices.length then
        return (some (← choices[i].give), [.index, .value i, .conversion i])
      else return (none, [.index]) := by
  rw [pick_eq, StateT.run_bind, run_noting, bind_assoc]
  congr 1
  funext i
  rw [pure_bind]
  by_cases h : i < choices.length
  · simp [h, run_give_noted]
  · simp [h]

/-- The place is worked out once, before anything else. If there is a value at it, this value and no
other is made, once, and turned into what is wanted, which is the result. If there is none, no value
is made and nothing is found. -/
theorem pick_evaluates (index : m Nat) (choices : List (Choice m ω)) :
    (pick index choices = do
      let i ← index
      if h : i < choices.length then return some (← choices[i].give) else return none) ∧
    (pick (noting .index index) (choices.mapIdx Choice.noted)).run [] = do
      let i ← index
      if h : i < choices.length then
        return (some (← choices[i].give), [.index, .value i, .conversion i])
      else return (none, [.index]) :=
  ⟨pick_eq index choices, pick_noted index choices⟩

/-- A computation that leaves a number behind and gives it. -/
def leaving (n : Nat) : StateM (List Nat) Nat := do
  modify (· ++ [n])
  return n

/-- Values of two types to pick from, each of which leaves a number behind. -/
def leavings : List (Choice (StateM (List Nat)) (Nat ⊕ Bool)) :=
  [⟨leaving 10, fun n => return .inl n⟩, ⟨leaving 20, fun n => return .inr (n < 9)⟩,
    ⟨leaving 30, fun n => return .inl n⟩]

/-- The second of three values is picked, and a fourth, which is not there. -/
theorem pick_evaluates_second :
    (pick (leaving 1) leavings).run [] = (some (.inr false), [1, 20]) ∧
      ((pick (noting .index (leaving 1)) (leavings.mapIdx Choice.noted)).run []).run [] =
        ((some (.inr false), [.index, .value 1, .conversion 1]), [1, 20]) ∧
      ((pick (noting .index (leaving 3)) (leavings.mapIdx Choice.noted)).run []).run [] =
        ((none, [.index]), [3]) := by
  obtain ⟨second, secondNoted⟩ := pick_evaluates (leaving 1) leavings
  obtain ⟨-, fourthNoted⟩ := pick_evaluates (leaving 3) leavings
  rw [second, secondNoted, fourthNoted]
  exact ⟨rfl, rfl, rfl⟩

end SharedMembers.Store
