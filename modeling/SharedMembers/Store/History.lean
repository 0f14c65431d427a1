/-!
# Histories

A state goes through a list of steps, each of which gives a result and the next state.

* `length_history`: there is one entry for each step.
* `history_keeps`: what every step keeps holds of every state.
-/

namespace SharedMembers

/-- What each step gives, with the state after it. -/
def history {σ α β : Type} (step : σ → α → β × σ) (s : σ) : List α → List (β × σ)
  | [] => []
  | a :: rest =>
    let (b, t) := step s a
    (b, t) :: history step t rest

theorem length_history {σ α β : Type} (step : σ → α → β × σ) (s : σ) (steps : List α) :
    (history step s steps).length = steps.length := by
  induction steps generalizing s with
  | nil => rfl
  | cons a rest ih => simp [history, ih]

/-- What each of the steps keeps holds of every state that they go through. -/
theorem history_keeps {σ α β : Type} {step : σ → α → β × σ} {P : σ → Prop} {steps : List α}
    (keeps : ∀ a ∈ steps, ∀ s, P s → P (step s a).2) {s : σ} (start : P s) :
    ∀ entry ∈ history step s steps, P entry.2 := by
  induction steps generalizing s with
  | nil => exact fun _ listed => nomatch listed
  | cons a rest ih =>
    have first : P (step s a).2 := keeps a List.mem_cons_self s start
    intro entry listed
    rcases List.mem_cons.1 listed with rfl | later
    · exact first
    · exact ih (fun b hb => keeps b (List.mem_cons_of_mem a hb)) first entry later

end SharedMembers
