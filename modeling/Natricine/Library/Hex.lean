import Natricine.Library.Text
import Mathlib.Tactic.Ring

namespace Hex

open Text

def digit (d : Fin 16) : CodePoint :=
  if d.val < 10 then ⟨48 + d.val, by omega⟩ else ⟨87 + d.val, by omega⟩

def value? (c : CodePoint) : Option (Fin 16) :=
  if h : 48 ≤ c.val ∧ c.val ≤ 57 then some ⟨c.val - 48, by omega⟩
  else if h : 97 ≤ c.val ∧ c.val ≤ 102 then some ⟨c.val - 87, by omega⟩
  else if h : 65 ≤ c.val ∧ c.val ≤ 70 then some ⟨c.val - 55, by omega⟩
  else none

@[simp] theorem value_digit : ∀ d : Fin 16, value? (digit d) = some d := by decide

theorem digit_ne_of_value {c : CodePoint} (other : value? c = none) (d : Fin 16) :
    digit d ≠ c := by
  intro same
  rw [← same, value_digit] at other
  cases other

def digits : Nat → Nat → List (Fin 16)
  | 0, _ => []
  | width + 1, n => digits width (n / 16) ++ [⟨n % 16, Nat.mod_lt n (by decide)⟩]

def ofDigits (value : Nat) (ds : List (Fin 16)) : Nat :=
  ds.foldl (fun value d => value * 16 + d.val) value

@[simp] theorem length_digits (width n : Nat) : (digits width n).length = width := by
  induction width generalizing n with
  | zero => rfl
  | succ width ih => rw [digits, List.length_append, ih, List.length_singleton]

theorem ofDigits_digits (width n value : Nat) :
    ofDigits value (digits width n) = value * 16 ^ width + n % 16 ^ width := by
  induction width generalizing n with
  | zero => simp [digits, ofDigits, Nat.mod_one]
  | succ width ih =>
      have front := ih (n / 16)
      have last : n % 16 ^ (width + 1) = n / 16 % 16 ^ width * 16 + n % 16 := by
        rw [pow_succ', Nat.mod_mul]
        ring
      rw [ofDigits] at front ⊢
      rw [digits, List.foldl_append, front, last, pow_succ]
      simp only [List.foldl_cons, List.foldl_nil]
      ring

/-- `'%0*x' % (width, n)`, for a number of no more digits. -/
def format (width n : Nat) : Str := (digits width n).map digit

end Hex
