/-!
# Hexadecimal digits

Digits in base sixteen: read in small or capital letters, written in either. A written digit reads
back (`hexValue?_smallHex`, `hexValue?_capitalHex`).
-/

namespace RegistrySync.Text

/-- The value of a hexadecimal digit. -/
def hexValue? (c : Char) : Option Nat :=
  if c.isDigit then some (c.toNat - '0'.toNat)
  else if 'a' ≤ c ∧ c ≤ 'f' then some (c.toNat - 'a'.toNat + 10)
  else if 'A' ≤ c ∧ c ≤ 'F' then some (c.toNat - 'A'.toNat + 10)
  else none

/-- The digit of a value below sixteen, with small letters. -/
def smallHex (n : Nat) : Char := if n < 10 then Char.ofNat (48 + n) else Char.ofNat (87 + n)

/-- The digit of a value below sixteen, with capital letters. -/
def capitalHex (n : Nat) : Char := if n < 10 then Char.ofNat (48 + n) else Char.ofNat (55 + n)

/-- A number without leading zeros, with small letters. -/
def writeHex (n : Nat) : List Char := Nat.toDigits 16 n

theorem hexValue?_smallHex {n : Nat} (h : n < 16) : hexValue? (smallHex n) = some n := by
  have all : ∀ m : Fin 16, hexValue? (smallHex m) = some m.val := by decide
  exact all ⟨n, h⟩

theorem hexValue?_capitalHex {n : Nat} (h : n < 16) : hexValue? (capitalHex n) = some n := by
  have all : ∀ m : Fin 16, hexValue? (capitalHex m) = some m.val := by decide
  exact all ⟨n, h⟩

end RegistrySync.Text
