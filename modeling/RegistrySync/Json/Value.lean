import RegistrySync.Json.Tree
import RegistrySync.Text.Hex

/-!
# JSON values and their texts

A `Value` is what a JSON text means: numbers that are whole and fit 64 bits are integers, and an
object has each key once. `render` writes a value on one line without white space; in strings the
quote, the backslash and the control characters are escaped and all other characters stand for
themselves.
-/

namespace RegistrySync.Json

/-- What a JSON text means. -/
inductive Value where
  | null
  | bool (b : Bool)
  | int (n : Int)
  /-- A number that is no 64-bit integer, as written. -/
  | float (n : Numeral)
  | string (text : String)
  | array (items : List Value)
  | object (members : List (String × Value))

instance : Inhabited Value := ⟨.null⟩

namespace Value

def ofNat (n : Nat) : Value := .int (Int.ofNat n)

def ofOption {α : Type} (f : α → Value) : Option α → Value
  | none => .null
  | some a => f a

def ofList {α : Type} (f : α → Value) (xs : List α) : Value := .array (xs.map f)

/-- The value is `null`. -/
def isNull : Value → Bool
  | .null => true
  | _ => false

end Value

/-! ## Writing -/

/-- How one character is written inside a string. -/
def renderChar (c : Char) : List Char :=
  if c = '"' then ['\\', '"']
  else if c = '\\' then ['\\', '\\']
  else if c = '\n' then ['\\', 'n']
  else if c = '\r' then ['\\', 'r']
  else if c = '\t' then ['\\', 't']
  else if c = '\x08' then ['\\', 'b']
  else if c = '\x0c' then ['\\', 'f']
  else if c < ' ' then
    ['\\', 'u', '0', '0', Text.smallHex (c.toNat / 16), Text.smallHex (c.toNat % 16)]
  else [c]

/-- A string between its quotes. -/
def renderString (text : String) : List Char :=
  '"' :: text.toList.flatMap renderChar ++ ['"']

def renderInt (n : Int) : List Char :=
  if n < 0 then '-' :: Nat.toDigits 10 n.natAbs else Nat.toDigits 10 n.natAbs

mutual

/-- The characters that write a value. -/
def renderValue : Value → List Char
  | .null => ['n', 'u', 'l', 'l']
  | .bool true => ['t', 'r', 'u', 'e']
  | .bool false => ['f', 'a', 'l', 's', 'e']
  | .int n => renderInt n
  | .float n => n.chars
  | .string text => renderString text
  | .array items => '[' :: renderItems items ++ [']']
  | .object members => '\x7b' :: renderMembers members ++ ['\x7d']

/-- Items with commas between them. -/
def renderItems : List Value → List Char
  | [] => []
  | [v] => renderValue v
  | v :: vs => renderValue v ++ ',' :: renderItems vs

/-- Members with commas between them. -/
def renderMembers : List (String × Value) → List Char
  | [] => []
  | [(k, v)] => renderString k ++ ':' :: renderValue v
  | (k, v) :: ms => renderString k ++ ':' :: renderValue v ++ ',' :: renderMembers ms

end

/-- The text of a value. -/
def Value.render (v : Value) : String := String.ofList (renderValue v)

end RegistrySync.Json
