import RegistrySync.Json.Tree

/-!
# Numbers too large to hold

A JSON number that is no 64-bit integer is held in binary floating point with 53 significant bits
and exponents below 1024. `Numeral.overflows` tells which numerals name no finite number of that
format.

The value is computed from a leading part of the digits, as many as fit 64 bits, and a power of ten;
both are rounded to 53 bits, and so is their product. Zero never overflows, whatever its exponent.
-/

namespace RegistrySync.Json

/-- The nearest number with at most 53 significant bits; a tie goes to the even neighbour. -/
def roundSignificant (n : Nat) : Nat :=
  let extra := n.log2 + 1 - 53
  let step := 1 <<< extra
  let low := n / step
  let rest := n % step
  if 2 * rest > step ∨ (2 * rest = step ∧ low % 2 = 1) then (low + 1) * step else low * step

/-- A number as `digits * 10 ^ exponent`, where `digits` fits 64 bits. -/
structure Scaled where
  digits : Nat
  exponent : Int

namespace Scaled

/-- The digits with one more. -/
def push (s : Scaled) (c : Char) : Nat := 10 * s.digits + (c.toNat - '0'.toNat)

def fits (s : Scaled) (c : Char) : Bool := s.push c < UInt64.size

/-- Digits before the point: the first that does not fit and all after it only scale. -/
def addWhole (s : Scaled) : List Char → Scaled
  | [] => s
  | c :: cs =>
    if s.fits c then { s with digits := s.push c }.addWhole cs
    else { s with exponent := s.exponent + (c :: cs).length }

/-- Digits after the point: the first that does not fit and all after it are dropped. -/
def addFraction (s : Scaled) : List Char → Scaled
  | [] => s
  | c :: cs =>
    if s.fits c then
      { digits := s.push c, exponent := s.exponent - 1 : Scaled }.addFraction cs
    else s

end Scaled

namespace Numeral

/-- The numeral as digits and a power of ten. -/
def scaled (n : Numeral) : Scaled :=
  let s := ((⟨0, 0⟩ : Scaled).addWhole n.whole).addFraction (n.fraction.getD [])
  match n.exponent with
  | none => s
  | some (true, ds) => { s with exponent := s.exponent - Nat.ofDigitChars 10 ds 0 }
  | some (false, ds) => { s with exponent := s.exponent + Nat.ofDigitChars 10 ds 0 }

/-- The numeral names no finite floating-point number. -/
def overflows (n : Numeral) : Bool :=
  let s := n.scaled
  s.digits ≠ 0 && 0 ≤ s.exponent &&
    (308 < s.exponent ||
      1 <<< 1024 ≤
        roundSignificant
          (roundSignificant s.digits * roundSignificant (Nat.pow 10 s.exponent.toNat)))

end Numeral

end RegistrySync.Json
