import RegistrySync.Net.Domain.Direction
import RegistrySync.Net.Domain.Joining
import RegistrySync.Net.Percent
import RegistrySync.Net.Punycode
import RegistrySync.Text.Pieces

/-!
# Domain names

The ASCII form of a domain name. A name of ASCII characters is written in small letters. In any
other name every character is replaced by what it becomes (`image?`) and the name is composed; a
label that still holds other characters is then written in Punycode after `xn--`. A label may also
come in that form, if that is how its text is written.

**What is refused.** Characters that names do not have, in labels written either way; labels that
begin with a mark; joiners that change nothing; labels of mixed direction in a name that has one
written from right to left; labels too long to write or to read; and, in any name, control
characters, the blank and the signs that have a meaning around hosts (`ascii?_allowed`).
-/

namespace RegistrySync.Net.Domain

open Text

def isAscii (cs : List Char) : Bool := cs.all (·.toNat < 128)

/-- What begins a label in Punycode. -/
def punycodeMark : List Char := "xn--".toList

/-- A label as it is written and the text that it stands for. -/
structure Label where
  written : List Char
  text : List Char

/-- The most characters of a text that is written in Punycode. -/
def longestText : Nat := 1000

/-- The most characters that are read after the mark of Punycode. -/
def longestDigits : Nat := 2000

/-- A label of a composed name. -/
def Label.ofComposed? (cs : List Char) : Option Label :=
  if punycodeMark.isPrefixOf cs then do
    let digits := cs.drop punycodeMark.length
    if longestDigits < digits.length ∨ cs.getLast? = some '-' then none
    let text ← Punycode.decode? digits
    if longestText < text.length ∨ punycodeMark.isPrefixOf text then none
    if isSettled text then some { written := cs, text } else none
  else if isAscii cs then some { written := cs, text := cs }
  else if longestText < cs.length then none
  else some { written := punycodeMark ++ Punycode.encode cs, text := cs }

/-- The text of the label begins with no mark and has its joiners in their places. -/
def Label.isSound (l : Label) : Bool := !l.text.head?.any isMark && joinersFit [] l.text

/-- All labels keep to one direction, unless nothing in the name turns right. -/
def directionsAgree (labels : List Label) : Bool :=
  !labels.any (turnsRight ·.text) || labels.all (keepsDirection ·.text)

/-- The ASCII form of a name with characters of other scripts. -/
def international? (cs : List Char) : Option (List Char) := do
  let labels ← (pieces '.' (← mapped? cs)).mapM Label.ofComposed?
  if labels.all Label.isSound && directionsAgree labels then
    some (List.intercalate ['.'] (labels.map (·.written)))
  else none

/-- The name in small letters, if no label of it stands for another text. -/
def plain? (cs : List Char) : Option (List Char) :=
  let small := cs.map Char.toLower
  if isAscii cs && !(pieces '.' small).any (punycodeMark.isPrefixOf ·) then some small else none

def isForbidden (c : Char) : Bool :=
  Percent.isControl c || " #%/:<>?@[\\]^|".toList.contains c

/-- The ASCII form of a name, unless it is refused. -/
def ascii? (cs : List Char) : Option (List Char) :=
  let name? := match plain? cs with
    | some name => some name
    | none => international? cs
  name?.filter fun name => !name.any isForbidden

/-- The ASCII form holds no forbidden character. -/
theorem ascii?_allowed {cs name : List Char} (h : ascii? cs = some name) :
    ∀ c ∈ name, isForbidden c = false := by
  simp only [ascii?, Option.filter_eq_some_iff] at h
  simpa using h.2

end RegistrySync.Net.Domain
