import SharedMembers.Type.Basic

/-!
# Scalars

The types between which conversions without loss are known: numbers and strings.

The model of `widens`, `known_name` and `PROMOTIONS`.

* `Scalar.widens`: the conversions, each type to itself included.
* `Scalar.ofTy?`: the scalar that a type is.
* `Scalar.ofName?_name`: a scalar other than the borrowed string is found by its name.
-/

namespace SharedMembers

/-- The types with known conversions. -/
inductive Scalar where
  | u8 | u16 | u32 | u64 | u128 | usize
  | i8 | i16 | i32 | i64 | i128 | isize
  | f32 | f64
  | string
  | borrowedString
deriving Repr, DecidableEq

namespace Scalar

/-- The name of a scalar. -/
def name : Scalar → String
  | u8 => "u8"
  | u16 => "u16"
  | u32 => "u32"
  | u64 => "u64"
  | u128 => "u128"
  | usize => "usize"
  | i8 => "i8"
  | i16 => "i16"
  | i32 => "i32"
  | i64 => "i64"
  | i128 => "i128"
  | isize => "isize"
  | f32 => "f32"
  | f64 => "f64"
  | string => "String"
  | borrowedString => "&str"

/-- The scalars that are named by one word. -/
def named : List Scalar :=
  [u8, u16, u32, u64, u128, usize, i8, i16, i32, i64, i128, isize, f32, f64, string]

/-- The scalar with the name. -/
def ofName? (name : String) : Option Scalar :=
  named.find? (·.name == name)

theorem ofName?_name {s : Scalar} (h : s ≠ borrowedString) : ofName? s.name = some s := by
  cases s <;> first | rfl | exact absurd rfl h

/-- The scalars, other than itself, that a scalar converts to without loss (the table in
`widens`). -/
def targets : Scalar → List Scalar
  | u8 => [u16, u32, u64, u128, usize, i16, i32, i64, i128, isize, f32, f64]
  | u16 => [u32, u64, u128, usize, i32, i64, i128, f32, f64]
  | u32 => [u64, u128, i64, i128, f64]
  | u64 => [u128, i128]
  | i8 => [i16, i32, i64, i128, isize, f32, f64]
  | i16 => [i32, i64, i128, isize, f32, f64]
  | i32 => [i64, i128, f64]
  | i64 => [i128]
  | f32 => [f64]
  | borrowedString => [string]
  | u128 | usize | i128 | isize | f64 | string => []

/-- The first scalar converts to the second without loss. -/
def widens (a b : Scalar) : Bool :=
  a == b || a.targets.contains b

theorem widens_refl (s : Scalar) : s.widens s = true := by
  simp [widens]

/-- The scalars that may stand for types none of which stands for all, in the order in which they
are tried (`PROMOTIONS`). -/
def promotions : List Scalar :=
  [i16, i32, i64, i128, u16, u32, u64, u128, f32, f64, string]

/-- The scalar that a type is (`known_name`). Parentheses around it do not matter, nor does the
lifetime of a borrowed string. -/
def ofTy? : Ty → Option Scalar
  | .path p => p.ident?.bind fun i => ofName? i.name
  | .reference _ _ false (.path p) => if p.isIdent "str" then some borrowedString else none
  | .paren _ inner => ofTy? inner
  | _ => none

end Scalar

end SharedMembers
