import RegistrySync.Json.Parser
import RegistrySync.Json.Value

/-!
# Texts of values read back

**Theorem (`parse_render`).** The text of a value without floating-point numbers parses, and what it
says is the value (`Value.tree`): every string is the same characters, whatever they are, every
number the same digits, and items and members come in their order.

A reader takes what was written for it and leaves what comes after, so the statements carry
arbitrary further characters. A string is written character by character, and every character comes
back as one piece that names it (`exists_piece`). The end of a number is not marked, so what
comes after has to be no part of one (`EndsNumber`); in a text a comma, a bracket or nothing
comes after a value. The theorem follows by induction on the value (`readsBack`), where the readers
of items and of members are followed along their lists (`readItems_renderItems`,
`readMembers_renderMembers`).
-/

namespace RegistrySync.Json

/-! ## Values without floating-point numbers -/

/-- The numbers in the value are whole. -/
inductive Value.Whole : Value → Prop where
  | null : Whole .null
  | bool (b : Bool) : Whole (.bool b)
  | int (n : Int) : Whole (.int n)
  | string (s : String) : Whole (.string s)
  | array {vs : List Value} : (∀ v ∈ vs, Whole v) → Whole (.array vs)
  | object {ms : List (String × Value)} : (∀ m ∈ ms, Whole m.2) → Whole (.object ms)

/-- A whole number as it is written. -/
def Numeral.ofInt (n : Int) : Numeral := ⟨n < 0, Nat.toDigits 10 n.natAbs, none, none⟩

theorem Numeral.int?_ofInt (n : Int) : (Numeral.ofInt n).int? = some n := by
  simp only [ofInt, int?, Nat.ofDigitChars_ten_toDigits]
  by_cases hn : n < 0
  · have habs : n.natAbs ≠ 0 := by omega
    rw [if_pos (by simpa using hn), if_neg habs]
    exact congrArg some (by simp only [Int.ofNat_eq_natCast]; omega)
  · rw [if_neg (by simpa using hn)]
    exact congrArg some (by simp only [Int.ofNat_eq_natCast]; omega)

mutual

/-- What the text of a value says. -/
def Value.tree : Value → Tree
  | .null => .null
  | .bool b => .bool b
  | .int n => .number (.ofInt n)
  | .float n => .number n
  | .string s => .string (some s)
  | .array vs => .array (itemTrees vs)
  | .object ms => .object (memberTrees ms)

def itemTrees : List Value → List Tree
  | [] => []
  | v :: vs => v.tree :: itemTrees vs

def memberTrees : List (String × Value) → List (Option String × Tree)
  | [] => []
  | (k, v) :: ms => (some k, v.tree) :: memberTrees ms

end

theorem itemTrees_eq_map (vs : List Value) : itemTrees vs = vs.map Value.tree := by
  induction vs with
  | nil => rfl
  | cons v vs ih => rw [itemTrees, ih, List.map_cons]

theorem memberTrees_eq_map (ms : List (String × Value)) :
    memberTrees ms = ms.map fun m => (some m.1, m.2.tree) := by
  induction ms with
  | nil => rfl
  | cons m ms ih => rw [memberTrees, ih, List.map_cons]

@[simp] theorem tree_array (vs : List Value) : (Value.array vs).tree = .array (vs.map Value.tree) :=
  congrArg Tree.array (itemTrees_eq_map vs)

@[simp] theorem tree_object (ms : List (String × Value)) :
    (Value.object ms).tree = .object (ms.map fun m => (some m.1, m.2.tree)) :=
  congrArg Tree.object (memberTrees_eq_map ms)

/-! ## Strings -/

/-- The piece stands for the character, whatever comes after it. -/
def Piece.Names (p : Piece) (c : Char) : Prop :=
  ∀ ps, piecesText (p :: ps) = (piecesText ps).map (c :: ·)

theorem Piece.char_names (c : Char) : (Piece.char c).Names c := fun _ => by rw [piecesText]

/-- A unit below the surrogates stands alone. -/
theorem Piece.unit_names {c : Char} (h : c.toNat < 0xD800) : (Piece.unit c.toNat).Names c := by
  intro ps
  have hhigh : isHighUnit c.toNat = false := by simp [isHighUnit]; omega
  have hlow : isLowUnit c.toNat = false := by simp [isLowUnit]; omega
  rw [piecesText.eq_def]
  simp [hhigh, hlow, Char.ofNat_toNat]

theorem hexUnit?_smallHex {n : Nat} (h : n < 256) :
    hexUnit? '0' '0' (Text.smallHex (n / 16)) (Text.smallHex (n % 16)) = some n := by
  have hzero : Text.hexValue? '0' = some 0 := by decide
  have hn : n / 16 * 16 + n % 16 = n := by omega
  simp [hexUnit?, hzero, Text.hexValue?_smallHex (show n / 16 < 16 by omega),
    Text.hexValue?_smallHex (show n % 16 < 16 by omega), hn]

/-- The reader takes a piece and goes on with what comes after it. -/
def Piece.Starts (p : Piece) (cs rest : List Char) : Prop :=
  readPieces cs = (readPieces rest).map fun r => (p :: r.1, r.2)

theorem starts_escape {c d : Char} (h : escaped? d = some c) (rest : List Char) :
    (Piece.char c).Starts ('\\' :: d :: rest) rest := by
  have hu : d ≠ 'u' := by
    intro hd
    simp [hd, escaped?] at h
  rw [Piece.Starts, readPieces.eq_def]
  cases hrest : readPieces rest <;> simp_all

theorem starts_unit {n : Nat} (h : n < 256) (rest : List Char) :
    (Piece.unit n).Starts ('\\' :: 'u' :: '0' :: '0' :: Text.smallHex (n / 16) ::
      Text.smallHex (n % 16) :: rest) rest := by
  rw [Piece.Starts, readPieces, hexUnit?_smallHex h]
  cases hrest : readPieces rest <;> simp_all

theorem starts_plain {c : Char} (hquote : c ≠ '"') (hslash : c ≠ '\\') (hcontrol : ¬ c < ' ')
    (rest : List Char) : (Piece.char c).Starts (c :: rest) rest := by
  rw [Piece.Starts, readPieces.eq_def]
  cases hrest : readPieces rest <;> simp_all

/-- A character is written as one piece that names it. -/
theorem exists_piece (c : Char) :
    ∃ p : Piece, p.Names c ∧ ∀ rest, p.Starts (renderChar c ++ rest) rest := by
  by_cases hletter : c ∈ ['"', '\\', '\n', '\r', '\t', '\x08', '\x0c']
  · refine ⟨.char c, Piece.char_names c, fun rest => ?_⟩
    simp only [List.mem_cons, List.not_mem_nil, or_false] at hletter
    obtain rfl | rfl | rfl | rfl | rfl | rfl | rfl := hletter <;> exact starts_escape rfl rest
  · simp only [List.mem_cons, List.not_mem_nil, or_false, not_or] at hletter
    obtain ⟨hquote, hslash, hn, hr, ht, hb, hf⟩ := hletter
    by_cases hcontrol : c < ' '
    · have hsmall : c.toNat < 32 := hcontrol
      refine ⟨.unit c.toNat, Piece.unit_names (by omega), fun rest => ?_⟩
      have hwritten : renderChar c = ['\\', 'u', '0', '0', Text.smallHex (c.toNat / 16),
          Text.smallHex (c.toNat % 16)] := by
        simp [renderChar, hquote, hslash, hn, hr, ht, hb, hf, hcontrol]
      rw [hwritten]
      exact starts_unit (by omega) rest
    · refine ⟨.char c, Piece.char_names c, fun rest => ?_⟩
      have hwritten : renderChar c = [c] := by
        simp [renderChar, hquote, hslash, hn, hr, ht, hb, hf, hcontrol]
      rw [hwritten]
      exact starts_plain hquote hslash hcontrol rest

/-- The characters of a string come back up to its closing quote. -/
theorem readPieces_written (cs rest : List Char) :
    ∃ ps, readPieces (cs.flatMap renderChar ++ '"' :: rest) = some (ps, rest) ∧
      piecesText ps = some cs := by
  induction cs with
  | nil => exact ⟨[], by simp [readPieces], by rw [piecesText]⟩
  | cons c cs ih =>
    obtain ⟨ps, hread, htext⟩ := ih
    obtain ⟨p, hnames, hstarts⟩ := exists_piece c
    refine ⟨p :: ps, ?_, ?_⟩
    · rw [List.flatMap_cons, List.append_assoc, hstarts, hread]
      rfl
    · rw [hnames, htext]
      rfl

theorem readString_written (s : String) (rest : List Char) :
    readString (s.toList.flatMap renderChar ++ '"' :: rest) = some (some s, rest) := by
  obtain ⟨ps, hread, htext⟩ := readPieces_written s.toList rest
  rw [readString, hread, Option.map_some, htext, Option.map_some, String.ofList_toList]

/-! ## Numbers -/

/-- No number goes on with these characters. -/
def EndsNumber (rest : List Char) : Prop :=
  ∀ c ∈ rest.head?, !c.isDigit ∧ c ∉ ['.', 'e', 'E']

theorem isDigit_of_mem_decimal {n : Nat} {c : Char} (h : c ∈ Nat.toDigits 10 n) : c.isDigit :=
  Nat.isDigit_of_mem_toDigits (by omega) (by omega) h

/-- A number has a first digit, which is no zero unless the number is zero. -/
theorem exists_first_digit (n : Nat) :
    ∃ d ds, Nat.toDigits 10 n = d :: ds ∧ d.isDigit ∧ (n ≠ 0 → d ≠ '0') := by
  induction n using Nat.strongRecOn with
  | ind n ih =>
    by_cases hlt : n < 10
    · have hall : ∀ d : Fin 10, d.val.digitChar.isDigit ∧ (d.val ≠ 0 → d.val.digitChar ≠ '0') := by
        decide
      exact ⟨n.digitChar, [], Nat.toDigits_of_lt_base hlt, hall ⟨n, hlt⟩⟩
    · obtain ⟨d, ds, hds, hdigit, hzero⟩ := ih (n / 10) (by omega)
      refine ⟨d, ds ++ [(n % 10).digitChar], ?_, hdigit, fun _ => hzero (by omega)⟩
      rw [Nat.toDigits_of_base_le (by omega) (by omega), hds, List.cons_append]

theorem readDigitRun_toDigits (n : Nat) {rest : List Char} (h : EndsNumber rest) :
    readDigitRun (Nat.toDigits 10 n ++ rest) = some (Nat.toDigits 10 n, rest) := by
  have hrun : rest.takeWhile Char.isDigit = [] ∧ rest.dropWhile Char.isDigit = rest := by
    cases rest with
    | nil => exact ⟨rfl, rfl⟩
    | cons c cs =>
      have hc : c.isDigit = false := by simpa using (h c rfl).1
      simp [hc]
  obtain ⟨d, ds, hds, -⟩ := exists_first_digit n
  rw [readDigitRun, List.takeWhile_append_of_pos fun _ => isDigit_of_mem_decimal,
    List.dropWhile_append_of_pos fun _ => isDigit_of_mem_decimal, hrun.1, hrun.2, hds]
  simp

theorem readWhole_toDigits (n : Nat) {rest : List Char} (h : EndsNumber rest) :
    readWhole (Nat.toDigits 10 n ++ rest) = some (Nat.toDigits 10 n, rest) := by
  by_cases hn : n = 0
  · subst hn
    rfl
  · rw [← readDigitRun_toDigits n h]
    obtain ⟨d, ds, hds, -, hzero⟩ := exists_first_digit n
    rw [hds, List.cons_append, readWhole.eq_def]
    simp [hzero hn]

theorem readUnsigned_toDigits (negative : Bool) (n : Nat) {rest : List Char}
    (h : EndsNumber rest) : readUnsigned negative (Nat.toDigits 10 n ++ rest) =
      some (⟨negative, Nat.toDigits 10 n, none, none⟩, rest) := by
  have hfraction : readFraction rest = some (none, rest) := by
    cases rest with
    | nil => rfl
    | cons c cs =>
      have hc := (h c rfl).2
      rw [readFraction.eq_def]
      simp_all
  have hexponent : readExponent rest = some (none, rest) := by
    cases rest with
    | nil => rfl
    | cons c cs =>
      have hc := (h c rfl).2
      rw [readExponent.eq_def]
      simp_all
  simp [readUnsigned, readWhole_toDigits n h, hfraction, hexponent]

theorem readNumber_renderInt (n : Int) {rest : List Char} (h : EndsNumber rest) :
    readNumber (renderInt n ++ rest) = some (.ofInt n, rest) := by
  by_cases hn : n < 0
  · rw [renderInt, if_pos hn, List.cons_append, readNumber, readUnsigned_toDigits true _ h]
    simp [Numeral.ofInt, hn]
  · obtain ⟨d, ds, hds, hdigit, -⟩ := exists_first_digit n.natAbs
    have hminus : d ≠ '-' := by
      intro hd
      rw [hd] at hdigit
      exact absurd hdigit (by decide)
    have hread : readNumber (d :: (ds ++ rest)) = readUnsigned false (d :: (ds ++ rest)) := by
      rw [readNumber.eq_def]
      simp [hminus]
    rw [renderInt, if_neg hn, hds, List.cons_append, hread, ← List.cons_append, ← hds,
      readUnsigned_toDigits false _ h]
    simp [Numeral.ofInt, hn]

/-! ## Values -/

/-- The reader of values takes what was written for the value. -/
def Value.ReadsBack (v : Value) : Prop :=
  ∀ fuel rest, (renderValue v).length < fuel → EndsNumber rest →
    readValue fuel (renderValue v ++ rest) = some (v.tree, rest)

theorem skipSpace_cons {c : Char} (h : isSpace c = false) (cs : List Char) :
    skipSpace (c :: cs) = c :: cs := by
  rw [skipSpace, List.dropWhile_cons_of_neg (by simp [h])]

theorem endsNumber_cons {c : Char} (h : c ∈ [',', ']', '\x7d']) (cs : List Char) :
    EndsNumber (c :: cs) := by
  intro d hd
  obtain rfl : c = d := by simpa using hd
  simp only [List.mem_cons, List.not_mem_nil, or_false] at h
  obtain rfl | rfl | rfl := h <;> decide

/-- A minus or a digit. -/
def beginsNumber (c : Char) : Bool := c == '-' || c.isDigit

theorem exists_renderInt_cons (n : Int) :
    ∃ c cs, renderInt n = c :: cs ∧ beginsNumber c := by
  obtain ⟨d, ds, hds, hdigit, -⟩ := exists_first_digit n.natAbs
  by_cases hn : n < 0
  · exact ⟨'-', _, by rw [renderInt, if_pos hn], rfl⟩
  · exact ⟨d, ds, by rw [renderInt, if_neg hn, hds], by simp [beginsNumber, hdigit]⟩

/-- What a number begins with begins nothing else. -/
theorem ne_of_beginsNumber {c d : Char} (h : beginsNumber c)
    (hd : d ∈ [' ', '\n', '\t', '\r', '"', '[', ']', '\x7b', 't', 'f', 'n']) : c ≠ d := by
  intro hcd
  have hnone : [' ', '\n', '\t', '\r', '"', '[', ']', '\x7b', 't', 'f', 'n'].all
      fun d => !beginsNumber d := by decide
  simpa [hcd ▸ h] using List.all_eq_true.1 hnone d hd

theorem isSpace_of_beginsNumber {c : Char} (h : beginsNumber c) : isSpace c = false := by
  simp [isSpace, ne_of_beginsNumber h]

theorem readsBack_int (n : Int) : (Value.int n).ReadsBack := by
  intro fuel rest hfuel hrest
  obtain ⟨fuel, rfl⟩ : ∃ m, fuel = m + 1 := ⟨fuel - 1, by omega⟩
  obtain ⟨c, cs, hcs, hbegins⟩ := exists_renderInt_cons n
  have hread := readNumber_renderInt n hrest
  rw [hcs, List.cons_append] at hread
  rw [renderValue, hcs, List.cons_append, readValue,
    skipSpace_cons (isSpace_of_beginsNumber hbegins)]
  simp [ne_of_beginsNumber hbegins, hread, Value.tree]

theorem readsBack_string (s : String) : (Value.string s).ReadsBack := by
  intro fuel rest hfuel _
  obtain ⟨fuel, rfl⟩ : ∃ m, fuel = m + 1 := ⟨fuel - 1, by omega⟩
  rw [renderValue, renderString, List.append_assoc, List.cons_append, readValue,
    skipSpace_cons (by decide)]
  simp [readString_written, Value.tree]

/-- The first character of a value is neither white space nor a closing bracket. -/
theorem exists_first_char {v : Value} (h : v.Whole) :
    ∃ c cs, renderValue v = c :: cs ∧ isSpace c = false ∧ c ≠ ']' := by
  cases h with
  | null => exact ⟨_, _, by rw [renderValue], by decide, by decide⟩
  | bool b => cases b <;> exact ⟨_, _, by rw [renderValue], by decide, by decide⟩
  | int n =>
    obtain ⟨c, cs, hcs, hbegins⟩ := exists_renderInt_cons n
    exact ⟨c, cs, by rw [renderValue, hcs], isSpace_of_beginsNumber hbegins,
      ne_of_beginsNumber hbegins (by decide)⟩
  | string s =>
    exact ⟨_, _, by rw [renderValue, renderString, List.cons_append], by decide, by decide⟩
  | array h => exact ⟨_, _, by rw [renderValue, List.cons_append], by decide, by decide⟩
  | object h => exact ⟨_, _, by rw [renderValue, List.cons_append], by decide, by decide⟩

theorem readsBack_null : Value.null.ReadsBack := by
  intro fuel rest hfuel _
  obtain ⟨fuel, rfl⟩ : ∃ m, fuel = m + 1 := ⟨fuel - 1, by omega⟩
  simp [renderValue, readValue, skipSpace_cons, isSpace, readWord, Value.tree]

theorem readsBack_bool (b : Bool) : (Value.bool b).ReadsBack := by
  intro fuel rest hfuel _
  obtain ⟨fuel, rfl⟩ : ∃ m, fuel = m + 1 := ⟨fuel - 1, by omega⟩
  cases b <;> simp [renderValue, readValue, skipSpace_cons, isSpace, readWord, Value.tree]

theorem renderItems_cons_cons (v w : Value) (vs : List Value) :
    renderItems (v :: w :: vs) = renderValue v ++ ',' :: renderItems (w :: vs) := rfl

theorem renderMembers_cons_cons (k : String) (v : Value) (m : String × Value)
    (ms : List (String × Value)) : renderMembers ((k, v) :: m :: ms) =
      renderString k ++ ':' :: renderValue v ++ ',' :: renderMembers (m :: ms) := rfl

theorem readItems_renderItems {vs : List Value} (hne : vs ≠ []) (hvs : ∀ v ∈ vs, v.ReadsBack)
    {fuel : Nat} (hfuel : (renderItems vs).length + 1 < fuel) (rest : List Char) :
    readItems fuel (renderItems vs ++ ']' :: rest) = some (vs.map Value.tree, rest) := by
  induction vs generalizing fuel with
  | nil => exact absurd rfl hne
  | cons v vs ih =>
    obtain ⟨fuel, rfl⟩ : ∃ m, fuel = m + 1 := ⟨fuel - 1, by omega⟩
    have hv : v.ReadsBack := hvs v List.mem_cons_self
    cases vs with
    | nil =>
      rw [renderItems] at hfuel ⊢
      rw [readItems, hv fuel _ (by omega) (endsNumber_cons (by decide) rest)]
      simp [skipSpace_cons, isSpace]
    | cons w ws =>
      rw [renderItems_cons_cons, List.length_append, List.length_cons] at hfuel
      -- The comma pays for this step, so the characters that are left still bound the rest.
      have hfewer : (renderItems (w :: ws)).length + 1 < fuel := by omega
      have hws := ih (by simp) (fun x hx => hvs x (List.mem_cons_of_mem v hx)) hfewer
      rw [renderItems_cons_cons, List.append_assoc, List.cons_append, readItems,
        hv fuel _ (by omega) (endsNumber_cons (by decide) _)]
      simp [skipSpace_cons, isSpace, hws]

theorem readMembers_renderMembers {ms : List (String × Value)} (hne : ms ≠ [])
    (hms : ∀ m ∈ ms, m.2.ReadsBack) {fuel : Nat} (hfuel : (renderMembers ms).length + 1 < fuel)
    (rest : List Char) : readMembers fuel (renderMembers ms ++ '\x7d' :: rest) =
      some (ms.map fun m => (some m.1, m.2.tree), rest) := by
  induction ms generalizing fuel with
  | nil => exact absurd rfl hne
  | cons m ms ih =>
    obtain ⟨fuel, rfl⟩ : ∃ n, fuel = n + 1 := ⟨fuel - 1, by omega⟩
    obtain ⟨k, v⟩ := m
    have hv : v.ReadsBack := hms (k, v) List.mem_cons_self
    cases ms with
    | nil =>
      rw [renderMembers, List.length_append, List.length_cons] at hfuel
      have hvalue := hv fuel _ (by omega) (endsNumber_cons (c := '\x7d') (by decide) rest)
      simp [renderMembers, renderString, readMembers, skipSpace_cons, isSpace,
        readString_written, hvalue]
    | cons w ws =>
      simp only [renderMembers_cons_cons, List.length_append, List.length_cons] at hfuel
      have hfewer : (renderMembers (w :: ws)).length + 1 < fuel := by omega
      have hws := ih (by simp) (fun x hx => hms x (List.mem_cons_of_mem (k, v) hx)) hfewer
      have hvalue := hv fuel _ (by omega) (endsNumber_cons (c := ',') (by decide)
        (renderMembers (w :: ws) ++ '\x7d' :: rest))
      simp [renderMembers_cons_cons, renderString, readMembers, skipSpace_cons, isSpace,
        readString_written, hvalue, hws]

theorem exists_first_char_items {v : Value} (h : v.Whole) (vs : List Value) :
    ∃ c cs, renderItems (v :: vs) = c :: cs ∧ isSpace c = false ∧ c ≠ ']' := by
  obtain ⟨c, cs, hcs, hspace, hclose⟩ := exists_first_char h
  cases vs with
  | nil => exact ⟨c, cs, by rw [renderItems, hcs], hspace, hclose⟩
  | cons w ws =>
    exact ⟨c, _, by rw [renderItems_cons_cons, hcs, List.cons_append], hspace, hclose⟩

theorem exists_first_char_members (m : String × Value) (ms : List (String × Value)) :
    ∃ cs, renderMembers (m :: ms) = '"' :: cs := by
  obtain ⟨k, v⟩ := m
  cases ms with
  | nil => exact ⟨_, by rw [renderMembers, renderString]; rfl⟩
  | cons w ws => exact ⟨_, by rw [renderMembers_cons_cons, renderString]; rfl⟩

theorem readsBack_array {vs : List Value} (hwhole : ∀ v ∈ vs, v.Whole)
    (hvs : ∀ v ∈ vs, v.ReadsBack) : (Value.array vs).ReadsBack := by
  intro fuel rest hfuel _
  obtain ⟨fuel, rfl⟩ : ∃ m, fuel = m + 1 := ⟨fuel - 1, by omega⟩
  cases vs with
  | nil => simp [renderValue, renderItems, readValue, skipSpace_cons, isSpace]
  | cons v vs =>
    simp only [renderValue, List.length_append, List.length_cons] at hfuel
    have hfewer : (renderItems (v :: vs)).length + 1 < fuel := by omega
    have hitems := readItems_renderItems (by simp) hvs hfewer rest
    -- The first item begins with no closing bracket, so the array is not taken for an empty one.
    obtain ⟨c, cs, hcs, hspace, hclose⟩ :=
      exists_first_char_items (hwhole v List.mem_cons_self) vs
    rw [hcs, List.cons_append] at hitems
    rw [renderValue, hcs, List.cons_append, List.cons_append, List.append_assoc, readValue,
      skipSpace_cons (by decide)]
    simp [skipSpace_cons hspace, hclose, hitems]

theorem readsBack_object {ms : List (String × Value)} (hms : ∀ m ∈ ms, m.2.ReadsBack) :
    (Value.object ms).ReadsBack := by
  intro fuel rest hfuel _
  obtain ⟨fuel, rfl⟩ : ∃ m, fuel = m + 1 := ⟨fuel - 1, by omega⟩
  cases ms with
  | nil => simp [renderValue, renderMembers, readValue, skipSpace_cons, isSpace]
  | cons m ms =>
    simp only [renderValue, List.length_append, List.length_cons] at hfuel
    have hfewer : (renderMembers (m :: ms)).length + 1 < fuel := by omega
    have hmembers := readMembers_renderMembers (by simp) hms hfewer rest
    obtain ⟨cs, hcs⟩ := exists_first_char_members m ms
    rw [hcs, List.cons_append] at hmembers
    rw [renderValue, hcs, List.cons_append, List.cons_append, List.append_assoc, readValue]
    simp [skipSpace_cons, isSpace, hmembers]

theorem readsBack {v : Value} (h : v.Whole) : v.ReadsBack := by
  induction h with
  | null => exact readsBack_null
  | bool b => exact readsBack_bool b
  | int n => exact readsBack_int n
  | string s => exact readsBack_string s
  | array h ih => exact readsBack_array h ih
  | object _ ih => exact readsBack_object ih

/-- **The text of a value says the value.** -/
theorem parse_render {v : Value} (h : v.Whole) : Tree.parse v.render = some v.tree := by
  have hread := readsBack h ((renderValue v).length + 1) [] (by omega) (by simp [EndsNumber])
  rw [List.append_nil] at hread
  simp [Tree.parse, Value.render, hread, skipSpace]

end RegistrySync.Json
