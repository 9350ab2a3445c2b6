/-!
# Syntax trees of JSON texts

A `Tree` keeps what a JSON text says before it is read as anything in particular: numerals as they
are written, repeated members in their order, and `none` for a string whose escapes name no text
(half of a surrogate pair without the other half). Such a string is well-formed JSON all the same.
-/

namespace RegistrySync.Json

/-- A number as it is written: digits of the whole part, of the fraction, and of the exponent with
its sign (true for negative). -/
structure Numeral where
  negative : Bool
  whole : List Char
  fraction : Option (List Char) := none
  exponent : Option (Bool × List Char) := none
deriving DecidableEq

/-- What a JSON text says. -/
inductive Tree where
  | null
  | bool (b : Bool)
  | number (n : Numeral)
  | string (text : Option String)
  | array (items : List Tree)
  | object (members : List (Option String × Tree))

namespace Numeral

/-- The whole number a numeral writes. One with a fraction or an exponent writes none, and neither
does minus zero, whatever its value. -/
def int? (n : Numeral) : Option Int :=
  match n.fraction, n.exponent with
  | none, none =>
    let v := Nat.ofDigitChars 10 n.whole 0
    if n.negative then (if v = 0 then none else some (-Int.ofNat v)) else some (Int.ofNat v)
  | _, _ => none

/-- The characters of a numeral. -/
def chars (n : Numeral) : List Char :=
  (if n.negative then ['-'] else []) ++ n.whole ++
    (match n.fraction with
      | some ds => '.' :: ds
      | none => []) ++
    (match n.exponent with
      | some (negative, ds) => 'e' :: (if negative then '-' else '+') :: ds
      | none => [])

end Numeral

end RegistrySync.Json
