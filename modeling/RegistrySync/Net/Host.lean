import RegistrySync.Net.Domain
import RegistrySync.Net.IpLiteral

/-!
# Hosts of URLs

Reading and writing the host of a URL. In a URL with a special scheme a host is an address or a
domain name, where a name that ends in a number has to be an IPv4 address; numbers may then be
written in octal or hexadecimal, and the last may stand for several octets. In other URLs a host is
an IPv6 address in brackets or any text without forbidden characters.
-/

namespace RegistrySync.Net

open Text

/-- Why a text is no URL. -/
inductive UrlFault where
  /-- The text has no scheme, and nothing to complete it from. -/
  | relative
  | emptyHost
  | invalidPort
  | invalidIpv4
  | invalidIpv6
  | invalidDomain
  /-- A host without the rules of domain names holds a forbidden character. -/
  | invalidHostCharacter
deriving DecidableEq

def UrlFault.message : UrlFault → String
  | relative => "relative URL without a base"
  | emptyHost => "empty host"
  | invalidPort => "invalid port number"
  | invalidIpv4 => "invalid IPv4 address"
  | invalidIpv6 => "invalid IPv6 address"
  | invalidDomain => "invalid international domain name"
  | invalidHostCharacter => "invalid domain character"

namespace Host

/-! ## IPv4 in URLs -/

/-- The digits of a number and their base, after the marks for octal and hexadecimal. -/
def radixDigits (cs : List Char) : Nat × List Char :=
  match cs with
  | '0' :: 'x' :: ds => (16, ds)
  | '0' :: 'X' :: ds => (16, ds)
  | '0' :: d :: ds => (8, d :: ds)
  | _ => (10, cs)

/-- The number that a part of an IPv4 address writes; a mark without digits writes zero. -/
def ipv4Number? (cs : List Char) : Option Nat :=
  if cs.isEmpty then none
  else
    let (radix, ds) := radixDigits cs
    (ds.mapM fun c => (hexValue? c).filter (· < radix)).map fun ds =>
      ds.foldl (fun n d => radix * n + d) 0

/-- The parts of a name, less an empty one after a last dot. -/
def nameParts (cs : List Char) : List (List Char) :=
  match (pieces '.' cs).reverse with
  | [] :: p :: ps => (p :: ps).reverse
  | ps => ps.reverse

/-- The last part of a name is a number, so the name has to be an IPv4 address. -/
def endsInNumber (cs : List Char) : Bool :=
  match (nameParts cs).getLast? with
  | some p => (!p.isEmpty && p.all Char.isDigit) || (ipv4Number? p).isSome
  | none => false

/-- Octets before a last number that fills the rest of the 32 bits. -/
def joinIpv4? (ns : List Nat) : Option Nat :=
  match ns.reverse with
  | [] => none
  | last :: before =>
    let octets := before.reverse
    if octets.length ≤ 3 ∧ octets.all (· ≤ 255) ∧ last < 1 <<< (8 * (4 - octets.length)) then
      some (last + (octets.foldl (fun n o => 256 * n + o) 0) <<< (8 * (4 - octets.length)))
    else none

def ipv4? (cs : List Char) : Option Nat := ((nameParts cs).mapM ipv4Number?).bind joinIpv4?

def renderIpv4 (n : Nat) : List Char :=
  List.intercalate ['.'] ([n >>> 24, n >>> 16 % 256, n >>> 8 % 256, n % 256].map
    (Nat.toDigits 10))

/-! ## IPv6 in URLs -/

/-- How many zeros a list begins with. -/
def zeroRun (gs : List Nat) : Nat := (gs.takeWhile (· == 0)).length

/-- Where the first of the longest runs of two zeros or more starts, and its length. -/
def longestZeros (gs : List Nat) : Nat × Nat :=
  (List.range gs.length).foldl (fun best i =>
    let n := zeroRun (gs.drop i)
    if best.2 < n && 1 < n then (i, n) else best) (0, 0)

def renderGroups (gs : List Nat) : List Char :=
  List.intercalate [':'] (gs.map (Nat.toDigits 16))

/-- The groups of an IPv6 address, with `::` for the longest run of zeros. -/
def renderIpv6 (gs : List Nat) : List Char :=
  match longestZeros gs with
  | (_, 0) => renderGroups gs
  | (i, n) => renderGroups (gs.take i) ++ ':' :: ':' :: renderGroups (gs.drop (i + n))

/-- An IPv6 address after its opening bracket. -/
def readBracketed (cs : List Char) : Except UrlFault (List Char) :=
  match cs.reverse with
  | ']' :: inner =>
    match IpLiteral.ipv6? inner.reverse with
    | some gs => .ok ('[' :: renderIpv6 gs ++ [']'])
    | none => .error .invalidIpv6
  | _ => .error .invalidIpv6

/-! ## Reading hosts -/

/-- The text that encoded characters stand for. -/
def decodedText? (cs : List Char) : Option (List Char) :=
  (String.fromUTF8? ⟨(Percent.decode cs).toArray⟩).map String.toList

/-- Characters whose bytes are those of a text stand for that text. -/
theorem decodedText?_of_decode {cs text : List Char}
    (h : Percent.decode cs = text.flatMap String.utf8EncodeChar) : decodedText? cs = some text := by
  have hbytes : (⟨(Percent.decode cs).toArray⟩ : ByteArray) = (String.ofList text).toByteArray := by
    rw [h, String.toByteArray_ofList]
    exact ByteArray.ext List.data_toByteArray.symm
  have hread : String.fromUTF8 _ (String.ofList text).isValidUTF8 = String.ofList text :=
    String.toByteArray_inj.1 rfl
  rw [decodedText?, hbytes, String.fromUTF8?, dif_pos (String.ofList text).isValidUTF8, hread,
    Option.map_some, String.toList_ofList]

/-- An encoded text stands for the text. -/
theorem decodedText?_encode {set : Percent.Set} (hpercent : set '%' = true) (text : List Char) :
    decodedText? (Percent.encode set text) = some text :=
  decodedText?_of_decode (Percent.decode_encode hpercent text)

/-- The host of a URL with a special scheme, as it is written in the URL. -/
def readSpecial (cs : List Char) : Except UrlFault (List Char) :=
  match cs with
  | '[' :: rest => readBracketed rest
  | _ =>
    match (decodedText? cs).bind Domain.ascii? with
    | none => .error .invalidDomain
    | some [] => .error .emptyHost
    | some name =>
      if endsInNumber name then
        match ipv4? name with
        | some n => .ok (renderIpv4 n)
        | none => .error .invalidIpv4
      else .ok name

def isForbidden (c : Char) : Bool :=
  "\x00\t\n\r #/:<>?@[\\]^|".toList.contains c

/-- The host of any other URL. -/
def readOther (cs : List Char) : Except UrlFault (List Char) :=
  match cs with
  | '[' :: rest => readBracketed rest
  | _ =>
    if cs.any isForbidden then .error .invalidHostCharacter
    else .ok (Percent.encode Percent.controls cs)

end Host

end RegistrySync.Net
