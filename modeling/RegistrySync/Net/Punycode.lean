import RegistrySync.Text.Decimal

/-!
# Punycode

Any text written with the characters of ASCII: those that it holds, in their order, and after the
last hyphen a number for each of the others, which tells both the character and its place. The
others are inserted from the smallest code point to the largest, each from left to right; the number
is the count of places and code points that are passed over since the insertion before.

Numbers are written in base 36 with the lowest digit first. A digit below its threshold ends the
number, and thresholds follow the sizes of the numbers so far (`adapt`). A number has 32 bits.
-/

namespace RegistrySync.Net.Punycode

/-- A digit in base 36: letters, then figures. -/
def digit (n : Nat) : Char := if n < 26 then Char.ofNat (97 + n) else Char.ofNat (22 + n)

def digitValue? (c : Char) : Option Nat :=
  if 'a' ≤ c ∧ c ≤ 'z' then some (c.toNat - 97)
  else if '0' ≤ c ∧ c ≤ '9' then some (c.toNat - 22)
  else none

/-- A digit below this ends its number; `position` is 36 for the first digit, 72 for the second. -/
def threshold (bias position : Nat) : Nat :=
  if position ≤ bias then 1 else if bias + 26 ≤ position then 26 else position - bias

/-- The bias after a number, so that numbers of this size get few digits. -/
def adapt (delta points : Nat) (first : Bool) : Nat :=
  let delta := if first then delta / 700 else delta / 2
  let delta := delta + delta / points
  let rec shrink : Nat → Nat → Nat → Nat
    | 0, _, k => k
    | fuel + 1, delta, k =>
      if 455 < delta then shrink fuel (delta / 35) (k + 36) else k + 36 * delta / (delta + 38)
  shrink delta.log2.succ delta 0

/-! ## Writing -/

/-- The digits of a number. -/
def numberDigits (bias : Nat) : Nat → Nat → Nat → List Char
  | 0, _, _ => []
  | fuel + 1, q, position =>
    let t := threshold bias position
    if q < t then [digit q]
    else digit (t + (q - t) % (36 - t)) ::
      numberDigits bias fuel ((q - t) / (36 - t)) (position + 36)

/-- What the writer has come to: the next code point to insert, the count since the last insertion,
the bias, how many code points are handled, and the digits written, last first. -/
structure Writer where
  point : Nat := 128
  delta : Nat := 0
  bias : Nat := 72
  handled : Nat
  digits : List Char := []

/-- Walk the code points once for one code point to insert. -/
def Writer.walk (basic : Nat) (s : Writer) : List Nat → Writer
  | [] => s
  | n :: ns =>
    if n < s.point then { s with delta := s.delta + 1 }.walk basic ns
    else if n = s.point then
      let digits := numberDigits s.bias (s.delta.log2 + 2) s.delta 36
      { s with
        digits := digits.reverse ++ s.digits
        bias := adapt s.delta (s.handled + 1) (s.handled == basic)
        delta := 0
        handled := s.handled + 1 : Writer }.walk basic ns
    else s.walk basic ns

/-- Insert the code points from the smallest to the largest. -/
def Writer.insertAll (basic : Nat) (all : List Nat) (s : Writer) : List Nat → Writer
  | [] => s
  | n :: ns =>
    let s := { s with delta := s.delta + (n - s.point) * (s.handled + 1), point := n : Writer }
    let s := s.walk basic all
    { s with delta := s.delta + 1, point := s.point + 1 : Writer }.insertAll basic all ns

def encode (cs : List Char) : List Char :=
  let all := cs.map Char.toNat
  let basic := cs.filter (·.toNat < 128)
  let others := ((all.filter (128 ≤ ·)).eraseDups).mergeSort (· ≤ ·)
  let s := Writer.insertAll basic.length all { handled := basic.length : Writer } others
  basic ++ (if basic.isEmpty then [] else ['-']) ++ s.digits.reverse

/-! ## Reading -/

/-- What the reader has come to: the text, the code point and the place of the last insertion, the
bias, and of the number that is being read its value so far, the weight and the position of the next
digit. -/
structure Reader where
  text : List Char
  point : Nat := 128
  place : Nat := 0
  bias : Nat := 72
  sum : Nat := 0
  weight : Nat := 1
  position : Nat := 36

/-- Numbers are below this. -/
def limit : Nat := UInt32.size

/-- Insert the code point that a number tells. -/
def Reader.insert (r : Reader) (delta : Nat) : Option Reader :=
  let points := r.text.length + 1
  let place := r.place + delta
  let point := r.point + place / points
  if limit ≤ place ∨ ¬ point.isValidChar then none
  else some {
    text := r.text.insertIdx (place % points) (Char.ofNat point)
    point
    place := place % points + 1
    bias := adapt delta points (r.place == 0) }

/-- Read one digit. -/
def Reader.read (r : Reader) (c : Char) : Option Reader := do
  let d ← digitValue? c
  let sum := r.sum + d * r.weight
  let t := threshold r.bias r.position
  if d < t then r.insert sum
  else
    let weight := r.weight * (36 - t)
    if limit ≤ sum ∨ limit ≤ weight then none
    else some { r with sum, weight, position := r.position + 36 }

/-- What stands before the last hyphen, unless nothing does, and what follows it. -/
def splitBasic (cs : List Char) : List Char × List Char :=
  match cs.reverse.span (· != '-') with
  | (digits, _ :: c :: basic) => ((c :: basic).reverse, digits.reverse)
  | _ => ([], cs)

/-- The text that `cs` writes, if all its numbers are whole. -/
def decode? (cs : List Char) : Option (List Char) := do
  let (basic, digits) := splitBasic cs
  let r ← digits.foldlM Reader.read { text := basic : Reader }
  if r.position = 36 then some r.text else none

example : encode "bücher".toList = "bcher-kva".toList := by decide +kernel

example : decode? "bcher-kva".toList = some "bücher".toList := by cbv

end RegistrySync.Net.Punycode
