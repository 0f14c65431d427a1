import SharedMembers.Member.Basic

/-!
# Member tables

The members of a type, each key once, in the order of keys.

* `get?_put`, `get?_putNew`: what is found after an entry is made.
* `sorted_put`: the order is kept.
* `mem_unionKeys`: the keys of several tables together.
-/

namespace SharedMembers

/-- The members of a type by their keys. -/
abbrev Table := List (Key × Signature)

namespace Table

/-- The signature under a key. -/
def get? : Table → Key → Option Signature
  | [], _ => none
  | (k', s) :: rest, k => if k = k' then some s else get? rest k

/-- Makes an entry; one under the same key is replaced. -/
def put (k : Key) (s : Signature) : Table → Table
  | [] => [(k, s)]
  | (k', s') :: rest =>
    if k = k' then (k, s) :: rest
    else if k.before k' then (k, s) :: (k', s') :: rest
    else (k', s') :: put k s rest

/-- Makes an entry unless there is one under the same key. -/
def putNew (k : Key) (s : Signature) (t : Table) : Table :=
  match t.get? k with
  | some _ => t
  | none => t.put k s

/-- The keys of a table. -/
def keys (t : Table) : List Key :=
  t.map (·.1)

theorem get?_put (k k' : Key) (s : Signature) (t : Table) :
    (t.put k s).get? k' = if k' = k then some s else t.get? k' := by
  induction t with
  | nil => simp [put, get?]
  | cons e rest ih =>
    obtain ⟨j, u⟩ := e
    unfold put
    split
    · next h => subst h; by_cases h' : k' = k <;> simp [get?, h']
    · split
      · by_cases h' : k' = k <;> simp [get?, h']
      · next h _ =>
        by_cases h' : k' = j
        · subst h'
          simp [get?, Ne.symm h]
        · simp [get?, h', ih]

theorem get?_putNew (k k' : Key) (s : Signature) (t : Table) :
    (t.putNew k s).get? k' = if k' = k then some ((t.get? k).getD s) else t.get? k' := by
  unfold putNew
  split
  · next old h => by_cases h' : k' = k <;> simp [h', h]
  · next h => simp [get?_put, h]

theorem mem_keys_put {k k' : Key} {s : Signature} {t : Table} :
    k' ∈ (t.put k s).keys ↔ k' = k ∨ k' ∈ t.keys := by
  induction t with
  | nil => simp [put, keys]
  | cons e rest ih =>
    obtain ⟨j, u⟩ := e
    simp only [keys] at ih ⊢
    unfold put
    split
    · next h => simp [h]
    · split
      · simp
      · simp only [List.map_cons, List.mem_cons, ih]
        constructor <;> rintro (h | h | h) <;> simp [h]

/-- The keys stand in their order, each once. -/
def Sorted (t : Table) : Prop :=
  t.keys.Pairwise fun a b => a.before b = true

theorem sorted_put {k : Key} {s : Signature} {t : Table} (h : t.Sorted) : (t.put k s).Sorted := by
  induction t with
  | nil => simp [put, Sorted, keys]
  | cons e rest ih =>
    obtain ⟨j, u⟩ := e
    have hd := List.pairwise_cons.1 h
    unfold put
    split
    · next same => subst same; exact h
    · next different =>
      split
      · next lt =>
        refine List.pairwise_cons.2 ⟨fun x hx => ?_, h⟩
        rcases List.mem_cons.1 hx with rfl | hx
        · exact lt
        · exact Key.before_trans lt (hd.1 x hx)
      · next notLt =>
        refine List.pairwise_cons.2 ⟨fun x hx => ?_, ih hd.2⟩
        rcases mem_keys_put.1 hx with rfl | hx
        · exact (Key.before_total different).resolve_left (by simpa using notLt)
        · exact hd.1 x hx

theorem sorted_putNew {k : Key} {s : Signature} {t : Table} (h : t.Sorted) :
    (t.putNew k s).Sorted := by
  unfold putNew
  split
  · exact h
  · exact sorted_put h

end Table

/-! ## Sets of keys -/

/-- Adds a key to sorted keys, unless it is there. -/
def insertKey (k : Key) : List Key → List Key
  | [] => [k]
  | k' :: ks =>
    if k = k' then k' :: ks
    else if k.before k' then k :: k' :: ks
    else k' :: insertKey k ks

/-- The keys in their order, each once. -/
def sortedKeys (ks : List Key) : List Key :=
  ks.foldr insertKey []

/-- The keys of the tables together, in their order. -/
def unionKeys (tables : List Table) : List Key :=
  sortedKeys (tables.flatMap Table.keys)

theorem mem_insertKey {k k' : Key} {ks : List Key} :
    k' ∈ insertKey k ks ↔ k' = k ∨ k' ∈ ks := by
  induction ks with
  | nil => simp [insertKey]
  | cons j ks ih =>
    unfold insertKey
    split
    · next h => simp [h]
    · split
      · simp
      · simp only [List.mem_cons, ih]
        constructor <;> rintro (h | h | h) <;> simp [h]

theorem mem_sortedKeys {k : Key} {ks : List Key} : k ∈ sortedKeys ks ↔ k ∈ ks := by
  induction ks with
  | nil => simp [sortedKeys]
  | cons j ks ih =>
    show k ∈ insertKey j (sortedKeys ks) ↔ _
    rw [mem_insertKey, ih, List.mem_cons]

theorem mem_unionKeys {k : Key} {tables : List Table} :
    k ∈ unionKeys tables ↔ ∃ t ∈ tables, k ∈ t.keys := by
  rw [unionKeys, mem_sortedKeys, List.mem_flatMap]

end SharedMembers
