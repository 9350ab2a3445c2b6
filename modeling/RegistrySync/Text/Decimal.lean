/-!
# Decimal numbers in text

Reading whole numbers of a limited range. A sign may stand in front (a minus only where the range
holds negative numbers); then come digits and nothing else. `Fault` tells why a text is no number.
Digits are read from the left, so a character that is no digit is reported before an overflow that
only a later digit would cause, and an overflow before a later character that is no digit.

A text is read exactly when it writes a number of the range (`readInt64_eq_ok_iff`).
-/

namespace RegistrySync.Text.Decimal

/-- Why a text is not a number of the range. -/
inductive Fault where
  | empty
  | invalidDigit
  | tooLarge
  | tooSmall
deriving DecidableEq

def Fault.message : Fault → String
  | .empty => "cannot parse integer from empty string"
  | .invalidDigit => "invalid digit found in string"
  | .tooLarge => "number too large to fit in target type"
  | .tooSmall => "number too small to fit in target type"

def digitValue (c : Char) : Nat := c.toNat - '0'.toNat

/-- Append digits to the number read so far, which may not exceed `limit`. -/
def readDigits (limit : Nat) (overflow : Fault) : Nat → List Char → Except Fault Nat
  | n, [] => .ok n
  | n, c :: cs =>
    if !c.isDigit then .error .invalidDigit
    else
      let m := 10 * n + digitValue c
      if m > limit then .error overflow else readDigits limit overflow m cs

/-- At least one digit; the value is at most `limit`. -/
def readNumber (limit : Nat) (overflow : Fault) (cs : List Char) : Except Fault Nat :=
  if cs.isEmpty then .error .invalidDigit else readDigits limit overflow 0 cs

/-- A number from 0 to `limit`, perhaps after a plus sign. -/
def readNat (limit : Nat) (text : String) : Except Fault Nat :=
  match text.toList with
  | [] => .error .empty
  | '+' :: cs => readNumber limit .tooLarge cs
  | cs => readNumber limit .tooLarge cs

/-- A number of 64 bits without sign. -/
def readUInt64 (text : String) : Except Fault UInt64 :=
  (readNat (UInt64.size - 1) text).map Nat.toUInt64

/-- A number of 64 bits in two's complement, perhaps after a sign. -/
def readInt64 (text : String) : Except Fault Int :=
  match text.toList with
  | [] => .error .empty
  | '+' :: cs => (readNumber (UInt64.size / 2 - 1) .tooLarge cs).map Int.ofNat
  | '-' :: cs => (readNumber (UInt64.size / 2) .tooSmall cs).map fun n => -Int.ofNat n
  | cs => (readNumber (UInt64.size / 2 - 1) .tooLarge cs).map Int.ofNat

/-- The digits of a number. -/
def write (n : Nat) : String := String.ofList (Nat.toDigits 10 n)

/-! ## What is read -/

theorem le_ofDigitChars (n : Nat) (cs : List Char) : n ≤ Nat.ofDigitChars 10 cs n := by
  induction cs generalizing n with
  | nil => simp
  | cons c cs ih =>
    rw [Nat.ofDigitChars_cons]
    exact Nat.le_trans (by omega) (ih _)

theorem readDigits_eq_ok_iff {limit n m : Nat} {overflow : Fault} {cs : List Char}
    (hn : n ≤ limit) : readDigits limit overflow n cs = .ok m ↔
      (∀ c ∈ cs, c.isDigit = true) ∧ Nat.ofDigitChars 10 cs n = m ∧ m ≤ limit := by
  induction cs generalizing n with
  | nil =>
    simp only [readDigits, Except.ok.injEq, Nat.ofDigitChars_nil]
    constructor
    · rintro rfl
      exact ⟨by simp, rfl, hn⟩
    · rintro ⟨-, rfl, -⟩
      rfl
  | cons c cs ih =>
    by_cases hc : c.isDigit = true
    · have hvalue : 10 * n + (c.toNat - '0'.toNat) = 10 * n + digitValue c := rfl
      simp only [readDigits, hc, Bool.not_true, Bool.false_eq_true, if_false, List.forall_mem_cons,
        true_and, Nat.ofDigitChars_cons, hvalue]
      by_cases hlarge : 10 * n + digitValue c > limit
      · -- What follows only makes the number larger.
        have hle := le_ofDigitChars (10 * n + digitValue c) cs
        rw [if_pos hlarge]
        constructor
        · intro h
          cases h
        · rintro ⟨-, rfl, hm⟩
          omega
      · rw [if_neg hlarge, ih (by omega)]
    · simp [readDigits, hc]

/-- Digits that write a number, at least one. -/
structure Digits (cs : List Char) (n : Nat) : Prop where
  ne_nil : cs ≠ []
  isDigit : ∀ c ∈ cs, c.isDigit = true
  value : Nat.ofDigitChars 10 cs 0 = n

theorem readNumber_eq_ok_iff {limit n : Nat} {overflow : Fault} {cs : List Char} :
    readNumber limit overflow cs = .ok n ↔ Digits cs n ∧ n ≤ limit := by
  by_cases hcs : cs = []
  · subst hcs
    refine iff_of_false (by simp [readNumber]) ?_
    rintro ⟨hdigits, -⟩
    exact hdigits.ne_nil rfl
  · rw [readNumber, if_neg (by simpa using hcs), readDigits_eq_ok_iff (Nat.zero_le _)]
    constructor
    · rintro ⟨hdigit, hvalue, hn⟩
      exact ⟨⟨hcs, hdigit, hvalue⟩, hn⟩
    · rintro ⟨hdigits, hn⟩
      exact ⟨hdigits.isDigit, hdigits.value, hn⟩

theorem map_readNumber_eq_ok_iff {limit : Nat} {overflow : Fault} {cs : List Char} {f : Nat → Int}
    {n : Int} : (readNumber limit overflow cs).map f = .ok n ↔
      ∃ m, Digits cs m ∧ m ≤ limit ∧ f m = n := by
  cases hread : readNumber limit overflow cs with
  | error fault =>
    refine iff_of_false (by simp [Except.map]) ?_
    rintro ⟨m, hdigits, hm, -⟩
    rw [readNumber_eq_ok_iff.2 ⟨hdigits, hm⟩] at hread
    cases hread
  | ok m =>
    obtain ⟨hdigits, hm⟩ := readNumber_eq_ok_iff.1 hread
    simp only [Except.map, Except.ok.injEq]
    constructor
    · intro h
      exact ⟨m, hdigits, hm, h⟩
    · rintro ⟨k, hk, -, rfl⟩
      rw [← hdigits.value, hk.value]

/-- Digits that write a number, perhaps after a sign. -/
inductive Writes : List Char → Int → Prop
  | unsigned {cs : List Char} {n : Nat} (digits : Digits cs n) : Writes cs n
  | plus {cs : List Char} {n : Nat} (digits : Digits cs n) : Writes ('+' :: cs) n
  | minus {cs : List Char} {n : Nat} (digits : Digits cs n) : Writes ('-' :: cs) (-n)

theorem Digits.ne_sign {c : Char} {cs : List Char} {n : Nat} (h : Digits (c :: cs) n) :
    c ≠ '+' ∧ c ≠ '-' := by
  have hc := h.isDigit c List.mem_cons_self
  constructor <;> rintro rfl <;> revert hc <;> decide

/-- A text is read as the number it writes, if 64 bits hold it. -/
theorem readInt64_eq_ok_iff {text : String} {n : Int} :
    readInt64 text = .ok n ↔
      Writes text.toList n ∧ Int64.minValue.toInt ≤ n ∧ n ≤ Int64.maxValue.toInt := by
  have hsize : UInt64.size / 2 = 9223372036854775808 := rfl
  have hmin : Int64.minValue.toInt = -9223372036854775808 := rfl
  have hmax : Int64.maxValue.toInt = 9223372036854775807 := rfl
  rw [readInt64, hsize, hmin, hmax]
  generalize text.toList = cs
  constructor
  · intro h
    split at h
    · cases h
    · obtain ⟨m, hdigits, hm, rfl⟩ := map_readNumber_eq_ok_iff.1 h
      exact ⟨.plus hdigits, by simp; omega⟩
    · obtain ⟨m, hdigits, hm, rfl⟩ := map_readNumber_eq_ok_iff.1 h
      exact ⟨.minus hdigits, by simp; omega⟩
    · obtain ⟨m, hdigits, hm, rfl⟩ := map_readNumber_eq_ok_iff.1 h
      exact ⟨.unsigned hdigits, by simp; omega⟩
  · rintro ⟨h, hlow, hhigh⟩
    cases h with
    | plus hdigits => exact map_readNumber_eq_ok_iff.2 ⟨_, hdigits, by omega, rfl⟩
    | minus hdigits => exact map_readNumber_eq_ok_iff.2 ⟨_, hdigits, by omega, rfl⟩
    | unsigned hdigits =>
      cases cs with
      | nil => exact absurd rfl hdigits.ne_nil
      | cons c cs =>
        split
        · next heq => cases heq
        · next heq =>
          cases heq
          exact absurd rfl hdigits.ne_sign.1
        · next heq =>
          cases heq
          exact absurd rfl hdigits.ne_sign.2
        · exact map_readNumber_eq_ok_iff.2 ⟨_, hdigits, by omega, rfl⟩

end RegistrySync.Text.Decimal
