import RegistrySync.Json.Tree
import RegistrySync.Text.Hex

/-!
# Reading JSON texts

`Tree.parse` reads a JSON text: one value with nothing but white space around it. The grammar is
strict: no leading zeros, no control characters inside strings, no comments, no trailing commas.
Nesting has no limit here.

Each reader takes the characters that are left and returns what it read with the characters after
it. The readers of values recurse on a bound for the characters they may still read, which the
text's length supplies.
-/

namespace RegistrySync.Json

def isSpace (c : Char) : Bool := c == ' ' || c == '\n' || c == '\t' || c == '\r'

def skipSpace (cs : List Char) : List Char := cs.dropWhile isSpace

/-! ## Strings -/

/-- The 16-bit unit that four hexadecimal digits write. -/
def hexUnit? (a b c d : Char) : Option Nat := do
  let a ← Text.hexValue? a
  let b ← Text.hexValue? b
  let c ← Text.hexValue? c
  let d ← Text.hexValue? d
  some (((a * 16 + b) * 16 + c) * 16 + d)

/-- The character that a backslash and a letter write. -/
def escaped? (c : Char) : Option Char :=
  match c with
  | '"' => some '"'
  | '\\' => some '\\'
  | '/' => some '/'
  | 'b' => some '\x08'
  | 'f' => some '\x0c'
  | 'n' => some '\n'
  | 'r' => some '\r'
  | 't' => some '\t'
  | _ => none

/-- A piece of a string: a character, or a 16-bit unit given by number. -/
inductive Piece where
  | char (c : Char)
  | unit (n : Nat)

/-- The pieces up to the closing quote, and what follows the quote. -/
def readPieces : List Char → Option (List Piece × List Char)
  | [] => none
  | '"' :: rest => some ([], rest)
  | '\\' :: 'u' :: a :: b :: c :: d :: rest => do
    let n ← hexUnit? a b c d
    let (ps, rest) ← readPieces rest
    some (.unit n :: ps, rest)
  | '\\' :: c :: rest => do
    let c ← escaped? c
    let (ps, rest) ← readPieces rest
    some (.char c :: ps, rest)
  | c :: rest => do
    if c < ' ' then none
    else
      let (ps, rest) ← readPieces rest
      some (.char c :: ps, rest)

def isHighUnit (n : Nat) : Bool := 0xD800 ≤ n && n ≤ 0xDBFF

def isLowUnit (n : Nat) : Bool := 0xDC00 ≤ n && n ≤ 0xDFFF

/-- The character that two halves of a surrogate pair name. -/
def pairChar (high low : Nat) : Char :=
  Char.ofNat (0x10000 + (high - 0xD800) * 0x400 + (low - 0xDC00))

/-- The characters the pieces name, if every half of a surrogate pair meets the other half. -/
def piecesText : List Piece → Option (List Char)
  | [] => some []
  | .char c :: ps => (piecesText ps).map (c :: ·)
  | .unit n :: ps =>
    if isHighUnit n then
      match ps with
      | .unit m :: ps => if isLowUnit m then (piecesText ps).map (pairChar n m :: ·) else none
      | _ => none
    else if isLowUnit n then none
    else (piecesText ps).map (Char.ofNat n :: ·)

/-- A string after its opening quote. -/
def readString (cs : List Char) : Option (Option String × List Char) :=
  (readPieces cs).map fun r => ((piecesText r.1).map String.ofList, r.2)

/-! ## Numbers -/

/-- One digit or more. -/
def readDigitRun (cs : List Char) : Option (List Char × List Char) :=
  match cs.takeWhile Char.isDigit with
  | [] => none
  | ds => some (ds, cs.dropWhile Char.isDigit)

/-- The digits of the whole part: a zero, or a run that starts with another digit. -/
def readWhole (cs : List Char) : Option (List Char × List Char) :=
  match cs with
  | '0' :: rest => some (['0'], rest)
  | _ => readDigitRun cs

/-- A point and digits, if a point comes next. -/
def readFraction (cs : List Char) : Option (Option (List Char) × List Char) :=
  match cs with
  | '.' :: rest => (readDigitRun rest).map fun r => (some r.1, r.2)
  | _ => some (none, cs)

/-- An exponent after its letter. -/
def readExponentDigits (cs : List Char) : Option (Option (Bool × List Char) × List Char) :=
  match cs with
  | '+' :: rest => (readDigitRun rest).map fun r => (some (false, r.1), r.2)
  | '-' :: rest => (readDigitRun rest).map fun r => (some (true, r.1), r.2)
  | _ => (readDigitRun cs).map fun r => (some (false, r.1), r.2)

/-- An exponent, if its letter comes next. -/
def readExponent (cs : List Char) : Option (Option (Bool × List Char) × List Char) :=
  match cs with
  | 'e' :: rest => readExponentDigits rest
  | 'E' :: rest => readExponentDigits rest
  | _ => some (none, cs)

/-- A number after its sign. -/
def readUnsigned (negative : Bool) (cs : List Char) : Option (Numeral × List Char) := do
  let (whole, cs) ← readWhole cs
  let (fraction, cs) ← readFraction cs
  let (exponent, cs) ← readExponent cs
  some (⟨negative, whole, fraction, exponent⟩, cs)

def readNumber (cs : List Char) : Option (Numeral × List Char) :=
  match cs with
  | '-' :: rest => readUnsigned true rest
  | _ => readUnsigned false cs

/-! ## Values -/

/-- What follows the word, if the word comes next. -/
def readWord (word : List Char) (tree : Tree) (cs : List Char) : Option (Tree × List Char) :=
  if word.isPrefixOf cs then some (tree, cs.drop word.length) else none

mutual

/-- A value; white space before it is skipped. -/
def readValue : Nat → List Char → Option (Tree × List Char)
  | 0, _ => none
  | fuel + 1, cs =>
    match skipSpace cs with
    | [] => none
    | '"' :: rest => (readString rest).map fun r => (.string r.1, r.2)
    | '[' :: rest =>
      match skipSpace rest with
      | ']' :: rest => some (.array [], rest)
      | rest => (readItems fuel rest).map fun r => (.array r.1, r.2)
    | '\x7b' :: rest =>
      match skipSpace rest with
      | '\x7d' :: rest => some (.object [], rest)
      | rest => (readMembers fuel rest).map fun r => (.object r.1, r.2)
    | c :: rest =>
      if c = 't' then readWord ['r', 'u', 'e'] (.bool true) rest
      else if c = 'f' then readWord ['a', 'l', 's', 'e'] (.bool false) rest
      else if c = 'n' then readWord ['u', 'l', 'l'] .null rest
      else (readNumber (c :: rest)).map fun r => (.number r.1, r.2)

/-- The items of an array that is not empty, and its closing bracket. -/
def readItems : Nat → List Char → Option (List Tree × List Char)
  | 0, _ => none
  | fuel + 1, cs =>
    match readValue fuel cs with
    | none => none
    | some (item, cs) =>
      match skipSpace cs with
      | ']' :: rest => some ([item], rest)
      | ',' :: rest => (readItems fuel rest).map fun r => (item :: r.1, r.2)
      | _ => none

/-- The members of an object that is not empty, and its closing brace. -/
def readMembers : Nat → List Char → Option (List (Option String × Tree) × List Char)
  | 0, _ => none
  | fuel + 1, cs =>
    match skipSpace cs with
    | '"' :: rest =>
      match readString rest with
      | none => none
      | some (key, cs) =>
        match skipSpace cs with
        | ':' :: rest =>
          match readValue fuel rest with
          | none => none
          | some (tree, cs) =>
            match skipSpace cs with
            | '\x7d' :: rest => some ([(key, tree)], rest)
            | ',' :: rest => (readMembers fuel rest).map fun r => ((key, tree) :: r.1, r.2)
            | _ => none
        | _ => none
    | _ => none

end

/-- Read a text as one JSON value. -/
def Tree.parse (text : String) : Option Tree :=
  let cs := text.toList
  match readValue (cs.length + 1) cs with
  | some (tree, rest) => if (skipSpace rest).isEmpty then some tree else none
  | none => none

end RegistrySync.Json
