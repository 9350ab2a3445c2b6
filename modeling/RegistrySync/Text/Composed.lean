import RegistrySync.Text.Combining
import RegistrySync.Text.Composition

/-!
# Composed text

Texts that read the same may be written with one character or with several, and with their marks in
one order or another. `composed` is the form in which every pair that composes is one character: all
characters are taken apart, marks are put in the order of their classes, and what composes is put
together again.
-/

namespace RegistrySync.Text

/-! ## Taking apart -/

/-- What a code point stands for in the end. Only the first part of a pair has parts of its own, and
`depth` bounds how often. -/
def takeApart : (depth : Nat) → Nat → List Nat
  | 0, n => [n]
  | depth + 1, n =>
    match parts? n with
    | some (first, second) => takeApart depth first ++ second.toList
    | none => [n]

/-- How often a code point can be taken apart. -/
def compositionDepth : Nat := 3

/-! ## The order of marks -/

/-- Put a code point behind those of a text, last first, that may not stand after it. -/
def insertMark (n : Nat) : List Nat → List Nat
  | [] => [n]
  | m :: before =>
    if 0 < combiningClass n ∧ combiningClass n < combiningClass m then m :: insertMark n before
    else n :: m :: before

/-- The text with the marks on each character in the order of their classes. -/
def sortMarks (ns : List Nat) : List Nat :=
  (ns.foldl (fun before n => insertMark n before) []).reverse

/-! ## Putting together -/

/-- Compose what follows a character of class zero. `held` are the marks after it, last first, that
did not compose; a character of no higher class than theirs is out of its reach. -/
def composeOnto (start : Nat) (held : List Nat) : List Nat → List Nat
  | [] => start :: held.reverse
  | n :: ns =>
    let reached := held.head?.all fun m => combiningClass m < combiningClass n
    match if reached then composite? start n else none with
    | some whole => composeOnto whole held ns
    | none =>
      if combiningClass n = 0 then start :: held.reverse ++ composeOnto n [] ns
      else composeOnto start (n :: held) ns

/-- Compose a text whose marks are in order. -/
def putTogether : List Nat → List Nat
  | [] => []
  | n :: ns => if combiningClass n = 0 then composeOnto n [] ns else n :: putTogether ns

/-- The composed form of a text. -/
def composed (cs : List Char) : List Char :=
  let parts := cs.flatMap fun c => takeApart compositionDepth c.toNat
  (putTogether (sortMarks parts)).map Char.ofNat

end RegistrySync.Text
