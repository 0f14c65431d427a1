import SharedMembers.Text.Uppercase

/-!
# Camel case

The words of a name are what stands between its underscores; camel case joins them with the first
character of each in uppercase.

The model of `camel`.

* `camelChars_append_underscore`: an underscore ends a word, so the next one begins afresh.
* `camelChars_false_of_no_underscore`: inside a word nothing changes.
-/

namespace SharedMembers.Text

/-- Camel case of the characters that follow; `fresh` tells whether a word begins here. -/
def camelChars (fresh : Bool) : List Char → List Char
  | [] => []
  | c :: cs =>
    if c = '_' then camelChars true cs
    else if fresh then uppercase c ++ camelChars false cs
    else c :: camelChars false cs

/-- A name of words joined by underscores, in camel case. -/
def camel (name : String) : String :=
  String.ofList (camelChars true name.toList)

theorem camelChars_append_underscore (fresh : Bool) (a b : List Char) :
    camelChars fresh (a ++ '_' :: b) = camelChars fresh a ++ camelChars true b := by
  induction a generalizing fresh with
  | nil => simp [camelChars]
  | cons c a ih =>
    by_cases h : c = '_'
    · simp [camelChars, h, ih]
    · cases fresh <;> simp [camelChars, h, ih]

/-- Characters that are not the first of a word are kept. -/
theorem camelChars_false_of_no_underscore {cs : List Char} (h : '_' ∉ cs) :
    camelChars false cs = cs := by
  induction cs with
  | nil => rfl
  | cons c cs ih =>
    simp only [List.mem_cons, not_or] at h
    simp [camelChars, Ne.symm h.1, ih h.2]

end SharedMembers.Text
