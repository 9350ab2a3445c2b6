import RegistrySync.Text.Decimal
import RegistrySync.Text.Hex
import RegistrySync.Text.Pieces

/-!
# IP address literals

Which texts are written IP addresses, and the addresses they write. An IPv4 literal is four decimal
octets without leading zeros. An IPv6 literal is eight groups of one to four hexadecimal digits,
where the last two may be written as an IPv4 literal, and where one `::` may stand for one or more
groups of zeros. Brackets, zones, ports and blanks belong to no literal.

`isIpLiteral` decides what counts as an address that needs no look-up.
-/

namespace RegistrySync.Net

namespace IpLiteral

open Text

/-- One to three digits, at most 255, no leading zero unless it is the only digit. -/
def octet? (cs : List Char) : Option Nat :=
  match cs with
  | [] => none
  | ['0'] => some 0
  | '0' :: _ => none
  | cs => if cs.length ≤ 3 then (Decimal.readDigits 255 .tooLarge 0 cs).toOption else none

/-- Four octets with dots between them. -/
def ipv4? (cs : List Char) : Option (List Nat) :=
  let parts := pieces '.' cs
  if parts.length = 4 then parts.mapM octet? else none

/-- One to four hexadecimal digits. -/
def group? (cs : List Char) : Option Nat :=
  if 1 ≤ cs.length ∧ cs.length ≤ 4 then
    (cs.mapM hexValue?).map fun ds => ds.foldl (fun n d => 16 * n + d) 0
  else none

/-- The groups that pieces write; the last piece may be an IPv4 literal, which stands for two. -/
def groups? : List (List Char) → Option (List Nat)
  | [] => some []
  | [p] =>
    match group? p with
    | some g => some [g]
    | none =>
      match ipv4? p with
      | some [a, b, c, d] => some [256 * a + b, 256 * c + d]
      | _ => none
  | p :: ps => do
    let g ← group? p
    let gs ← groups? ps
    some (g :: gs)

/-- The pieces between colons, where an empty text has none. -/
def colonPieces (cs : List Char) : List (List Char) :=
  if cs.isEmpty then [] else pieces ':' cs

/-- The eight groups of an IPv6 literal; of those around a `::` only the later may end in an IPv4
literal, and they are at most seven. -/
def ipv6? (cs : List Char) : Option (List Nat) :=
  match cutAt [':', ':'] cs with
  | none => (groups? (colonPieces cs)).filter (·.length == 8)
  | some (head, tail) => do
    let head ← (colonPieces head).mapM group?
    let tail ← groups? (colonPieces tail)
    if head.length + tail.length ≤ 7 then
      some (head ++ List.replicate (8 - (head.length + tail.length)) 0 ++ tail)
    else none

end IpLiteral

/-- The text is an IPv4 or IPv6 literal. -/
def isIpLiteral (text : String) : Bool :=
  (IpLiteral.ipv4? text.toList).isSome || (IpLiteral.ipv6? text.toList).isSome

end RegistrySync.Net
