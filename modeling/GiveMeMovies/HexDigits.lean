import Mathlib.Data.Bool.AllAny
import Mathlib.Tactic.IntervalCases

/-!
# Hexadecimal digits

Digits are written in upper case and read in either case.
-/

namespace HexDigits

/-- The upper-case digit of a number below sixteen. -/
def digit (n : ℕ) : Char := Char.ofNat (if n < 10 then 48 + n else 55 + n)

def value (c : Char) : Option ℕ :=
  if '0' ≤ c ∧ c ≤ '9' then some (c.toNat - 48)
  else if 'A' ≤ c ∧ c ≤ 'F' then some (c.toNat - 55)
  else if 'a' ≤ c ∧ c ≤ 'f' then some (c.toNat - 87)
  else none

def isDigit (c : Char) : Bool := (value c).isSome

theorem value_digit {n : ℕ} (h : n < 16) : value (digit n) = some n := by
  interval_cases n <;> decide

theorem isDigit_digit {n : ℕ} (h : n < 16) : isDigit (digit n) = true := by
  rw [isDigit, value_digit h]
  rfl

/-- A property of the digits holds of every digit if it holds of the 22 that there are. -/
theorem forall_isDigit {P : Char → Prop}
    (h : ∀ c ∈ "0123456789ABCDEFabcdef".toList, P c) {c : Char} (hc : isDigit c = true) : P c := by
  apply h
  have hrange : (48 ≤ c.toNat ∧ c.toNat ≤ 57) ∨ (65 ≤ c.toNat ∧ c.toNat ≤ 70) ∨
      (97 ≤ c.toNat ∧ c.toNat ≤ 102) := by
    unfold isDigit value at hc
    split at hc
    next hdigit => exact .inl hdigit
    next =>
      split at hc
      next hupper => exact .inr (.inl hupper)
      next =>
        split at hc
        next hlower => exact .inr (.inr hlower)
        next => cases hc
  rw [← Char.ofNat_toNat c]
  generalize c.toNat = n at hrange
  rcases hrange with ⟨hlo, hhi⟩ | ⟨hlo, hhi⟩ | ⟨hlo, hhi⟩
  · interval_cases n <;> decide
  · interval_cases n <;> decide
  · interval_cases n <;> decide

theorem exists_value {c : Char} (hc : isDigit c = true) :
    ∃ n, value c = some n ∧ n < 16 ∧ digit n = c.toUpper := by
  have h : ∀ c ∈ "0123456789ABCDEFabcdef".toList,
      ∃ n < 16, value c = some n ∧ digit n = c.toUpper := List.all_iff_forall_prop.mp (by decide)
  obtain ⟨n, hn, hvalue, hdigit⟩ := forall_isDigit h hc
  exact ⟨n, hvalue, hn, hdigit⟩

end HexDigits
