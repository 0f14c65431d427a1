import SharedMembers.Grammar.Reading
import SharedMembers.Proofs.ArgumentPlaces
import SharedMembers.Proofs.Places
import SharedMembers.Proofs.ReorderedModules
import SharedMembers.Proofs.Titles

/-!
# Types that are read again

A type whose display form is read as that type is determined by the form, but for places. Places do
not matter to what is asked of types, so lists of such types have the properties that are supposed
where types are told apart by their display forms or keys. They are checked type by type here, and
not for pairs of types.

Results:
* `Ty.Reread.unplaced_eq`: types that are read again and displayed alike are one but for places.
* `legible_of_reread`, `displayKeyed_of_reread`: what is supposed of display forms.
* `borrowAlike_of_reread`: what is supposed of keys.
-/

namespace SharedMembers

/-- The display form of the type is read as the type, but for places. -/
def Ty.Reread (t : Ty) : Prop :=
  (Ty.ofText? t.display).map Ty.unplaced = some t.unplaced

theorem Ty.Reread.unplaced_eq {t u : Ty} (ht : t.Reread) (hu : u.Reread)
    (same : t.display = u.display) : t.unplaced = u.unplaced := by
  rw [Ty.Reread, same, hu] at ht
  exact (Option.some.inj ht).symm

section

variable {ts : List Ty}

theorem legible_of_reread (again : ∀ t ∈ ts, t.Reread) : Legible ts := by
  intro t ht u hu same
  have places := (again t ht).unplaced_eq (again u hu) same
  rw [← t.borrows_unplaced, ← Scalar.ofTy?_unplaced t, places, u.borrows_unplaced,
    Scalar.ofTy?_unplaced]
  exact ⟨rfl, rfl⟩

theorem displayKeyed_of_reread (again : ∀ t ∈ ts, t.Reread) : DisplayKeyed ts := by
  intro t ht u hu same
  have places := (again t ht).unplaced_eq (again u hu) same
  rw [← t.key_unplaced, places, u.key_unplaced]

/-- The parentheses and the `self::` that a key leaves out have to borrow nothing. -/
theorem borrowAlike_of_reread (again : ∀ t ∈ ts, t.normal.Reread)
    (kept : ∀ t ∈ ts, t.normal.borrows = t.borrows) : BorrowAlike ts := by
  intro t ht u hu same
  have places := (again t ht).unplaced_eq (again u hu) same
  rw [← kept t ht, ← kept u hu, ← t.normal.borrows_unplaced, places, u.normal.borrows_unplaced]

end

end SharedMembers
