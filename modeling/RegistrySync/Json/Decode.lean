import RegistrySync.Json.Magnitude
import RegistrySync.Json.Value
import RegistrySync.Table

/-!
# Decoding JSON

A decoder reads a tree as a value of some type or refuses it. Records are read by field names:

- an object gives a record its fields by name; members with other names are skipped unread, but
  every name has to be text, and no field may be given twice;
- an array gives the fields in order, perhaps only the first of them, and nothing more.

Maps are objects whose last member of a name counts. `Tree.value?` reads any tree as it is; it
refuses what a `Value` cannot hold, and containers nested more deeply than a given room.
-/

namespace RegistrySync.Json

abbrev Decoder (α : Type) := Tree → Option α

namespace Decode

variable {α : Type}

def text : Decoder String
  | .string s => s
  | _ => none

def bool : Decoder Bool
  | .bool b => some b
  | _ => none

/-- A whole number from `low` to `high`. -/
def int (low high : Int) : Decoder Int
  | .number n => n.int?.filter fun i => low ≤ i && i ≤ high
  | _ => none

def int64 : Decoder Int := int Int64.minValue.toInt Int64.maxValue.toInt

def uint32 : Decoder UInt32 := fun t => (int 0 (UInt32.size - 1) t).map fun i => i.toNat.toUInt32

def uint64 : Decoder UInt64 := fun t => (int 0 (UInt64.size - 1) t).map fun i => i.toNat.toUInt64

/-- `null` for an absent value. -/
def option (d : Decoder α) : Decoder (Option α)
  | .null => some none
  | t => (d t).map some

def list (d : Decoder α) : Decoder (List α)
  | .array ts => ts.mapM d
  | _ => none

/-- The members of an object as entries in their order. -/
def entries (d : Decoder α) : Decoder (List (String × α))
  | .object ms => ms.mapM fun m => do
    let k ← m.1
    let v ← d m.2
    some (k, v)
  | _ => none

/-- A map; the last member of a name counts. -/
def table (d : Decoder α) : Decoder (Table α) := fun t => (entries d t).map Table.ofList

/-- One of several words, or an object with the word as its only name and `null` as its value. -/
def word (words : List (String × α)) : Decoder α
  | .string s => s >>= fun k => words.lookup k
  | .object [(k, .null)] => k >>= fun k => words.lookup k
  | _ => none

/-! ## Records -/

/-- The fields that a tree gives, by name. -/
abbrev Fields := List (String × Tree)

/-- The fields of a record with these names. -/
def fields (names : List String) : Decoder Fields
  | .object ms => do
    let named ← ms.mapM fun m => m.1.map (·, m.2)
    let known := named.filter (names.contains ·.1)
    if (known.map (·.1)).Nodup then some known else none
  | .array ts => if ts.length ≤ names.length then some (names.zip ts) else none
  | _ => none

namespace Fields

/-- A field that has to be given. -/
def required (fs : Fields) (name : String) (d : Decoder α) : Option α := fs.lookup name >>= d

/-- A field with a value of its own when it is not given. -/
def withDefault (fs : Fields) (name : String) (d : Decoder α) (a : α) : Option α :=
  match fs.lookup name with
  | none => some a
  | some t => d t

end Fields

end Decode

/-! ## Any value -/

/-- Give a member a value among members in order of their names. -/
def putMember (k : String) (v : Value) : List (String × Value) → List (String × Value)
  | [] => [(k, v)]
  | m :: ms =>
    if k < m.1 then (k, v) :: m :: ms
    else if k = m.1 then (k, v) :: ms
    else m :: putMember k v ms

def floatValue? (n : Numeral) : Option Value := if n.overflows then none else some (.float n)

mutual

/-- The value of a tree whose containers nest at most `room` deep; members come in the order of
their names, the last of a name counting. -/
def Tree.value? (room : Nat) : Tree → Option Value
  | .null => some .null
  | .bool b => some (.bool b)
  | .number n =>
    match n.int? with
    | some i => if Int64.minValue.toInt ≤ i ∧ i < UInt64.size then some (.int i) else floatValue? n
    | none => floatValue? n
  | .string s => s.map .string
  | .array ts => if room = 0 then none else (itemValues? (room - 1) ts).map .array
  | .object ms => if room = 0 then none else (memberValues? (room - 1) ms).map .object

def itemValues? (room : Nat) : List Tree → Option (List Value)
  | [] => some []
  | t :: ts => do
    let v ← t.value? room
    let vs ← itemValues? room ts
    some (v :: vs)

/-- Members from the last to the first, so that an earlier one yields to a later one. -/
def memberValues? (room : Nat) : List (Option String × Tree) → Option (List (String × Value))
  | [] => some []
  | (k, t) :: ms => do
    let k ← k
    let v ← t.value? room
    let vs ← memberValues? room ms
    some (if vs.any (·.1 == k) then vs else putMember k v vs)

end

/-- A tree that can be held as a value within the room. -/
def Tree.isHeld (room : Nat) (t : Tree) : Bool := (t.value? room).isSome

end RegistrySync.Json
