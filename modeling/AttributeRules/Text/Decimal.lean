/-!
# Decimal numbers

Numbers written with the digits `0` to `9`: the digits of a number
(`decimal`), without needless zeros, and the number that digits denote
(`decimalValue`), with as many leading zeros as one likes.

Main statement: the digits of a number denote it (`decimalValue_decimal`).
-/

namespace AttributeRules.Text

/-- Whether the character is one of the digits `0` to `9`. -/
def isDigit (c : Char) : Bool := '0' ≤ c && c ≤ '9'

/-- The digit that stands for a number below ten. -/
def digit (n : Nat) : Char := Char.ofNat ('0'.toNat + n)

/-- The number that a digit stands for. -/
def digitValue (c : Char) : Nat := c.toNat - '0'.toNat

/-- The digits of a number, the highest first. -/
def decimal (n : Nat) : List Char :=
  if n < 10 then [digit n] else decimal (n / 10) ++ [digit (n % 10)]

/-- The number that digits denote. -/
def decimalValue (ds : List Char) : Nat := ds.foldl (fun n c => 10 * n + digitValue c) 0

/-- An integer: its digits, after a minus sign if it is negative. -/
def integer (n : Int) : List Char :=
  if n < 0 then '-' :: decimal n.natAbs else decimal n.natAbs

theorem isDigit_iff {c : Char} : isDigit c = true ↔ 0x30 ≤ c.toNat ∧ c.toNat ≤ 0x39 := by
  rw [isDigit, Bool.and_eq_true, decide_eq_true_eq, decide_eq_true_eq]
  rfl

theorem digitValue_digit {n : Nat} (h : n < 10) : digitValue (digit n) = n := by
  have : ∀ m : Fin 10, digitValue (digit m) = m := by decide
  exact this ⟨n, h⟩

theorem isDigit_digit {n : Nat} (h : n < 10) : isDigit (digit n) = true := by
  have : ∀ m : Fin 10, isDigit (digit m) = true := by decide
  exact this ⟨n, h⟩

theorem isDigit_of_mem_decimal {n : Nat} {c : Char} (hc : c ∈ decimal n) : isDigit c = true := by
  induction n using Nat.strongRecOn with
  | ind n ih =>
    rw [decimal] at hc
    split at hc
    · next h =>
      rw [List.mem_singleton.1 hc]
      exact isDigit_digit h
    · next h =>
      rcases List.mem_append.1 hc with hc | hc
      · exact ih (n / 10) (by omega) hc
      · rw [List.mem_singleton.1 hc]
        exact isDigit_digit (by omega)

theorem decimal_ne_nil (n : Nat) : decimal n ≠ [] := by
  rw [decimal]
  split <;> simp

/-- The digits of a number denote it. -/
theorem decimalValue_decimal (n : Nat) : decimalValue (decimal n) = n := by
  induction n using Nat.strongRecOn with
  | ind n ih =>
    rw [decimal]
    split
    · next h => simp [decimalValue, digitValue_digit h]
    · next h =>
      have h10 : n / 10 < n := by omega
      rw [decimalValue, List.foldl_append]
      change 10 * decimalValue (decimal (n / 10)) + digitValue (digit (n % 10)) = n
      rw [ih _ h10, digitValue_digit (by omega)]
      omega

end AttributeRules.Text
