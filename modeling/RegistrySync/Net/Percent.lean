import RegistrySync.Text.Hex

/-!
# Percent-encoding

Characters that a part of a URL cannot hold are written as their UTF-8 bytes, each as a percent sign
and two hexadecimal digits. Which ASCII characters a part cannot hold differs from part to part
(`Percent.Set`); characters beyond ASCII are always encoded.

Where percent signs are encoded too, the bytes of the text are read back (`decode_encode`). What is
written is text that the set lets through, or writes a byte (`of_mem_encode`).
-/

namespace RegistrySync.Net.Percent

/-- The ASCII characters that are to be encoded. -/
abbrev Set := Char → Bool

def isControl (c : Char) : Bool := c < ' ' || c == '\x7f'

def controls : Set := isControl

def inFragment : Set := fun c => isControl c || " \"<>\x60".toList.contains c

def inQuery : Set := fun c => isControl c || " \"#<>".toList.contains c

/-- In the query of a URL with a special scheme. -/
def inSpecialQuery : Set := fun c => inQuery c || c == '\''

def inPath : Set := fun c => inFragment c || "#?\x7b\x7d".toList.contains c

def inUserinfo : Set := fun c => inPath c || "/:;=@[\\]^|".toList.contains c

/-- In a segment that is added to a path. -/
def inSegment : Set := fun c => inPath c || c == '/' || c == '%'

/-- In a segment that is added to the path of a URL with a special scheme. -/
def inSpecialSegment : Set := fun c => inSegment c || c == '\\'

/-- A byte as a percent sign and two digits. -/
def encodeByte (b : UInt8) : List Char :=
  ['%', Text.capitalHex (b.toNat / 16), Text.capitalHex (b.toNat % 16)]

def encodeChar (set : Set) (c : Char) : List Char :=
  if c.toNat < 128 && !set c then [c] else (String.utf8EncodeChar c).flatMap encodeByte

/-- The characters with those of the set, and all beyond ASCII, encoded. -/
def encode (set : Set) (cs : List Char) : List Char := cs.flatMap (encodeChar set)

/-- The bytes that characters stand for; a percent sign that begins no encoded byte stands for
itself. -/
def decode : List Char → List UInt8
  | [] => []
  | '%' :: a :: b :: rest =>
    match Text.hexValue? a, Text.hexValue? b with
    | some x, some y => (16 * x + y).toUInt8 :: decode rest
    | _, _ => String.utf8EncodeChar '%' ++ decode (a :: b :: rest)
  | c :: rest => String.utf8EncodeChar c ++ decode rest

/-! ## Reading back -/

section

variable {set : Set} {cs : List Char}

theorem decode_encodeByte_append (b : UInt8) (rest : List Char) :
    decode (encodeByte b ++ rest) = b :: decode rest := by
  have hb : b.toNat < 256 := b.toNat_lt
  have hhigh : Text.hexValue? (Text.capitalHex (b.toNat / 16)) = some (b.toNat / 16) :=
    Text.hexValue?_capitalHex (by omega)
  have hlow : Text.hexValue? (Text.capitalHex (b.toNat % 16)) = some (b.toNat % 16) :=
    Text.hexValue?_capitalHex (by omega)
  have hvalue : (16 * (b.toNat / 16) + b.toNat % 16).toUInt8 = b := by
    rw [Nat.div_add_mod]
    simp
  simp only [encodeByte, List.cons_append, List.nil_append, decode, hhigh, hlow, hvalue]

theorem decode_cons_of_ne {c : Char} (hc : c ≠ '%') (rest : List Char) :
    decode (c :: rest) = String.utf8EncodeChar c ++ decode rest := by
  rw [decode]
  rintro a b rest' rfl
  exact absurd rfl hc

theorem decode_bytes_append (bs : List UInt8) (rest : List Char) :
    decode (bs.flatMap encodeByte ++ rest) = bs ++ decode rest := by
  induction bs with
  | nil => rfl
  | cons b bs ih =>
    rw [List.flatMap_cons, List.append_assoc, decode_encodeByte_append, ih, List.cons_append]

/-- What is encoded reads back, if percent signs are encoded too. -/
theorem decode_encode (hpercent : set '%' = true) (cs : List Char) :
    decode (encode set cs) = cs.flatMap String.utf8EncodeChar := by
  induction cs with
  | nil => rfl
  | cons c cs ih =>
    have hcons : encode set (c :: cs) = encodeChar set c ++ encode set cs := rfl
    rw [hcons, encodeChar, List.flatMap_cons]
    split
    · next hplain =>
      have hc : c ≠ '%' := by
        rintro rfl
        simp [hpercent] at hplain
      rw [List.cons_append, List.nil_append, decode_cons_of_ne hc, ih]
    · rw [decode_bytes_append, ih]

/-- What is written is a character that is not of the set, a percent sign or a digit. -/
theorem of_mem_encode {d : Char} (h : d ∈ encode set cs) :
    d ∈ cs ∧ set d = false ∨ d = '%' ∨ (Text.hexValue? d).isSome := by
  obtain ⟨c, hc, hd⟩ := List.mem_flatMap.1 h
  rw [encodeChar] at hd
  split at hd
  · next hplain =>
    rw [List.mem_singleton.1 hd]
    simp only [Bool.and_eq_true, Bool.not_eq_true'] at hplain
    exact .inl ⟨hc, hplain.2⟩
  · obtain ⟨b, -, hb⟩ := List.mem_flatMap.1 hd
    have hlt : b.toNat < 256 := b.toNat_lt
    simp only [encodeByte, List.mem_cons, List.not_mem_nil, or_false] at hb
    rcases hb with rfl | rfl | rfl
    · exact .inr (.inl rfl)
    · rw [Text.hexValue?_capitalHex (by omega)]
      exact .inr (.inr rfl)
    · rw [Text.hexValue?_capitalHex (by omega)]
      exact .inr (.inr rfl)

end

/-! ## Forms -/

def isFormPlain (c : Char) : Bool := c.isAlphanum || "*-._".toList.contains c

/-- How a query writes the characters of a name or a value. -/
def encodeForm (cs : List Char) : List Char :=
  cs.flatMap fun c => if c == ' ' then ['+'] else encodeChar (fun c => !isFormPlain c) c

end RegistrySync.Net.Percent
