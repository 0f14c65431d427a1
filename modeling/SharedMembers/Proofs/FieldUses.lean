import SharedMembers.Proofs.Descriptions
import SharedMembers.Proofs.Receivers

/-!
# Reading and writing fields

A field can be read and written, and it provides both members under one name. Either of them may be
taken over by a method, or lost to another field that came first. Nevertheless no field is read
under a name under which another one is written.

Results:
* `Field.Registers.pair`: what a field provides under a name is read and written alike.
* `Field.Registers.other`: a field provides both members or none.
* `Precedence.other_use`: if a field stands under one key of a name, it stands under the other one
  too, unless a method does.
* `collect_paired`: so it is in the tables of a module, whatever fields and methods compete.
-/

namespace SharedMembers

/-! ## What is promised -/

/-- How a name is used that a field provides. If it is read from a field and written to a field,
then the field is the same, and what is read is of the type that is written. What is read from a
field can be written, to it or by a method; and what is written to a field can be read, from it or
by a method. -/
structure Table.Paired (t : Table) (name : String) : Prop where
  same : ∀ r w f g, t.get? ⟨name, .read⟩ = some r → t.get? ⟨name, .write⟩ = some w →
    r.target = .field f → w.target = .field g →
      f = g ∧ ∃ type, r.output = some type ∧ w.inputs = [type]
  written : ∀ r f, t.get? ⟨name, .read⟩ = some r → r.target = .field f →
    ∃ w, t.get? ⟨name, .write⟩ = some w ∧ (w.target = .field f ∨ ∃ m, w.target = .method m)
  read : ∀ w g, t.get? ⟨name, .write⟩ = some w → w.target = .field g →
    ∃ r, t.get? ⟨name, .read⟩ = some r ∧ (r.target = .field g ∨ ∃ m, r.target = .method m)

/-! ## Fields -/

/-- The two uses of a field are of one field and one type. -/
theorem Field.Registers.pair {self : Ident} {f : Field} {name : String} {r w : Signature}
    (hr : f.Registers self ⟨name, .read⟩ r) (hw : f.Registers self ⟨name, .write⟩ w) :
    ∃ ident type, r.target = .field ident ∧ w.target = .field ident ∧
      r.output = some type ∧ w.inputs = [type] := by
  obtain @⟨_, _, ident, -, -, -, named, -, -, reads⟩ := hr
  obtain @⟨_, _, ident', -, -, -, named', -, -, writes⟩ := hw
  cases named.symm.trans named'
  cases reads
  cases writes
  exact ⟨ident, f.type.withSelf self, rfl, rfl, rfl, rfl⟩

/-- A field that provides one of its uses provides the other. -/
theorem Field.Registers.other {self : Ident} {f : Field} {name : String} {shape other : Shape}
    {s : Signature} (h : f.Registers self ⟨name, shape⟩ s) (use : other = .read ∨ other = .write) :
    ∃ s', f.Registers self ⟨name, other⟩ s' := by
  obtain ⟨said, kept, shared, named, key, shown, -⟩ := h
  rcases use with rfl | rfl
  · exact ⟨_, said, kept, shared, named, key, shown, rfl⟩
  · exact ⟨_, said, kept, shared, named, key, shown, rfl⟩

/-! ## Tables -/

/-- The first element of a list with a property is one. -/
theorem first_unique {α : Type} {P : α → Prop} {before before' after after' : List α} {a a' : α}
    (same : before ++ a :: after = before' ++ a' :: after') (ha : P a) (ha' : P a')
    (first : ∀ x ∈ before, ¬ P x) (first' : ∀ x ∈ before', ¬ P x) : a = a' := by
  induction before generalizing before' with
  | nil =>
    cases before' with
    | nil => exact (List.cons.inj same).1
    | cons x before' =>
      obtain ⟨rfl, -⟩ := List.cons.inj same
      exact absurd ha (first' a List.mem_cons_self)
  | cons x before ih =>
    cases before' with
    | nil =>
      obtain ⟨rfl, -⟩ := List.cons.inj same
      exact absurd ha' (first x List.mem_cons_self)
    | cons x' before' =>
      rw [List.forall_mem_cons] at first first'
      exact ih (List.cons.inj same).2 first.2 first'.2

/-- A method that stands under a key is no field. -/
theorem Method.Registers.target_eq {self : Ident} {m : Method} {k : Key} {s : Signature}
    (h : m.Registers self k s) : s.target = .method m.head.ident :=
  (FnHead.receiver_of_signature? h.signature_eq).2

/-- If a field stands under one key of a name, then it stands under the other one too, unless a
method does: the fields that provide the one member are those that provide the other, so the first
of them is one and the same. -/
theorem Precedence.other_use {self : Ident} {fields : List Field}
    {methods : List (Ident × Method)} {name : String} {shape other : Shape} {s : Signature}
    {s? : Option Signature} {g : Ident} (h : Precedence self fields methods ⟨name, shape⟩ (some s))
    (target : s.target = .field g) (use : other = .read ∨ other = .write)
    (h' : Precedence self fields methods ⟨name, other⟩ s?) :
    ∃ s', s? = some s' ∧ ((∃ m, s'.target = .method m) ∨
      ∃ f : Field, f.Registers self ⟨name, shape⟩ s ∧ f.Registers self ⟨name, other⟩ s') := by
  cases h with
  | method listed registers last =>
    rw [registers.target_eq] at target
    cases target
  | @field before after f _ unmethodical listed registers first =>
    cases h' with
    | @method _ _ _ m s' _ registers' _ => exact ⟨s', rfl, .inl ⟨_, registers'.target_eq⟩⟩
    | @field before' after' f' s' unmethodical' listed' registers' first' =>
      have use' : shape = .read ∨ shape = .write := by
        obtain ⟨-, ⟨h, -⟩ | ⟨h, -⟩⟩ := registers.signature_cases
        · exact .inl h
        · exact .inr h
      have same : f = f' := first_unique (P := fun x => ∃ s, x.Registers self ⟨name, shape⟩ s)
        (listed.symm.trans listed') ⟨s, registers⟩ (registers'.other use')
        (fun x hx ⟨s, hs⟩ => first x hx s hs)
        (fun x hx ⟨s, hs⟩ =>
          have ⟨t, ht⟩ := hs.other use
          first' x hx t ht)
      exact ⟨s', rfl, .inr ⟨f, registers, same ▸ registers'⟩⟩
    | absent _ unfielded =>
      obtain ⟨s', registers'⟩ := registers.other use
      have mem : f ∈ fields := by
        rw [listed]
        exact List.mem_append_right _ List.mem_cons_self
      exact absurd registers' (unfielded f mem s')

/-- A table that goes by precedence uses fields in pairs. -/
theorem Precedence.paired {self : Ident} {fields : List Field} {methods : List (Ident × Method)}
    {t : Table} (h : ∀ k, Precedence self fields methods k (t.get? k)) (name : String) :
    t.Paired name where
  same := by
    intro r w f g hr hw target target'
    obtain ⟨w', hw', method | ⟨field, reads, writes⟩⟩ :=
      (hr ▸ h ⟨name, .read⟩).other_use target (.inr rfl) (h ⟨name, .write⟩)
    all_goals obtain rfl : w = w' := Option.some.inj (hw.symm.trans hw')
    · obtain ⟨m, hm⟩ := method
      rw [hm] at target'
      cases target'
    · obtain ⟨ident, type, read, written, output, inputs⟩ := reads.pair writes
      cases target.symm.trans read
      cases target'.symm.trans written
      exact ⟨rfl, type, output, inputs⟩
  written := by
    intro r f hr target
    obtain ⟨w, hw, method | ⟨field, reads, writes⟩⟩ :=
      (hr ▸ h ⟨name, .read⟩).other_use target (.inr rfl) (h ⟨name, .write⟩)
    · exact ⟨w, hw, .inr method⟩
    · obtain ⟨ident, -, read, written, -⟩ := reads.pair writes
      cases target.symm.trans read
      exact ⟨w, hw, .inl written⟩
  read := by
    intro w g hw target
    obtain ⟨r, hr, method | ⟨field, writes, reads⟩⟩ :=
      (hw ▸ h ⟨name, .write⟩).other_use target (.inl rfl) (h ⟨name, .read⟩)
    · exact ⟨r, hr, .inr method⟩
    · obtain ⟨ident, -, read, written, -⟩ := reads.pair writes
      cases target.symm.trans written
      exact ⟨r, hr, .inl read⟩

/-! ## Modules -/

/-- In every table of a module each name is used in pairs, as far as fields provide it: what is read
from a field is the field that is written, if a field is, and it can be written. -/
theorem collect_paired {items kept : List Item} {c : Catalogue}
    (h : collect items = .ok (c, kept)) (t : Ty) (d : Descriptor) (found : c.get? t = some d)
    (name : String) : d.table.Paired name := by
  rw [Catalogue.get?, find?_collect h] at found
  obtain ⟨⟨self, fields⟩, -, rfl⟩ := Option.map_eq_some_iff.1 found
  exact Precedence.paired (Descriptor.get?_of self fields _) name

/-- A struct with three fields for one name, two of which are renamed to it, and with a field that a
method writes. -/
def parcel (name : String) : List Item :=
  let renamed := fun field => { openField field (.ofName "u8") with
    attributes := [renameDirective name] }
  [openStruct "Parcel"
    [renamed "width", openField name (.ofName "u16"), renamed "depth",
      openField "label" (.ofName "u32")],
   openMethod "Parcel" "set_label" [.ofName "u64"] none]

theorem collect_paired_parcel :
    ∃ c kept d, collect (parcel "size") = .ok (c, kept) ∧ c.get? (.ofName "Parcel") = some d ∧
      d.table.map (fun e => (e.1, e.2.target)) =
        [(⟨"label", .read⟩, .field (.generated "label")),
         (⟨"label", .write⟩, .method (.generated "set_label")),
         (⟨"size", .read⟩, .field (.generated "width")),
         (⟨"size", .write⟩, .field (.generated "width"))] ∧
      ∀ name, d.table.Paired name := by
  obtain ⟨⟨c, kept⟩, h, found⟩ := exists_ok_of_toOption (x := collect (parcel "size"))
    (f := fun r => (r.1.get? (.ofName "Parcel")).map fun d =>
      d.table.map fun e => (e.1, e.2.target))
    (b := some
      [(⟨"label", .read⟩, .field (.generated "label")),
       (⟨"label", .write⟩, .method (.generated "set_label")),
       (⟨"size", .read⟩, .field (.generated "width")),
       (⟨"size", .write⟩, .field (.generated "width"))]) (by decide +kernel)
  obtain ⟨d, found, table⟩ := Option.map_eq_some_iff.1 found
  exact ⟨c, kept, d, h, found, table, collect_paired h _ d found⟩

end SharedMembers
