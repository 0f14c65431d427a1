/-!
# Similarity of words

The Jaro–Winkler similarity of two words, a number from 0 to 1, by which a misspelt name is matched
with a known one.

* `jaro`: matches within a window, less half the matches that are out of order.
* `jaroWinkler`: the same with a premium on the first four characters.
* `closest?`: the most similar known word, if it is similar enough.
-/

namespace SharedMembers.Text

/-- Marks the first free position of `word` from `low` to below `high` that holds `c`. -/
def claimMatch (c : Char) (low high : Nat) : (position : Nat) → List (Char × Bool) →
    Option (List (Char × Bool))
  | _, [] => none
  | position, (d, used) :: rest =>
    if low ≤ position ∧ position < high ∧ c = d ∧ used = false then some ((d, true) :: rest)
    else (claimMatch c low high (position + 1) rest).map ((d, used) :: ·)

/-- The characters of `word` that find a match in `other`, in order, and `other` with the matched
positions marked. -/
def matchedChars (window : Nat) : (position : Nat) → (word : List Char) →
    (other : List (Char × Bool)) → List Char × List (Char × Bool)
  | _, [], other => ([], other)
  | position, c :: cs, other =>
    match claimMatch c (position - window) (position + window + 1) 0 other with
    | some other' =>
      let (matched, final) := matchedChars window (position + 1) cs other'
      (c :: matched, final)
    | none => matchedChars window (position + 1) cs other

/-- The Jaro similarity of two words. -/
def jaro (a b : List Char) : Float :=
  if a.isEmpty && b.isEmpty then 1
  else if a.isEmpty || b.isEmpty then 0
  else
    let window := max a.length b.length / 2 - 1
    let (matched, marked) := matchedChars window 0 a (b.map fun c => (c, false))
    let counterparts := (marked.filter (·.2)).map (·.1)
    let swapped := ((matched.zip counterparts).filter fun (c, d) => c ≠ d).length / 2
    let m := matched.length
    if m = 0 then 0
    else
      ((m.toFloat / a.length.toFloat) + (m.toFloat / b.length.toFloat)
        + ((m - swapped).toFloat / m.toFloat)) / 3

/-- The number of characters, up to four, that the words begin with in common. -/
def sharedStart (a b : List Char) : Nat :=
  (((a.take 4).zip b).takeWhile fun (c, d) => c == d).length

/-- The Jaro–Winkler similarity of two words. -/
def jaroWinkler (a b : String) : Float :=
  let base := jaro a.toList b.toList
  if base > 0.7 then base + 0.1 * (sharedStart a.toList b.toList).toFloat * (1 - base) else base

/-- The first of the most similar known words, if its similarity is above 0.8. -/
def closest? (word : String) (known : List String) : Option String :=
  let best := known.foldl
    (fun best candidate =>
      let score := jaroWinkler word candidate
      match best with
      | none => if score > 0.8 then some (score, candidate) else none
      | some (top, _) => if score > 0.8 && top < score then some (score, candidate) else best)
    (none : Option (Float × String))
  best.map (·.2)

end SharedMembers.Text
