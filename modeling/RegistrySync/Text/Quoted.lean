import RegistrySync.Text.Hex
import RegistrySync.Text.Shown

/-!
# Quoted text

`quoted` writes a text between double quotes for a person to read: quotes and backslashes are
escaped, line breaks, tabs and the null character get their letter, and every other character that
would not show is given by its code point in braces. Apostrophes stand for themselves.
-/

namespace RegistrySync.Text

/-- How one character is written between the quotes. -/
def quotedChar (c : Char) : List Char :=
  match c with
  | '"' => ['\\', '"']
  | '\\' => ['\\', '\\']
  | '\n' => ['\\', 'n']
  | '\t' => ['\\', 't']
  | '\r' => ['\\', 'r']
  | '\x00' => ['\\', '0']
  | c => if isShown c then [c] else "\\u\x7b".toList ++ writeHex c.toNat ++ ['\x7d']

/-- The text between double quotes, with escapes. -/
def quoted (text : String) : String :=
  String.ofList ('"' :: text.toList.flatMap quotedChar ++ ['"'])

/-- An optional text, with the word that says whether it is there. -/
def quotedOption : Option String → String
  | none => "None"
  | some text => "Some(" ++ quoted text ++ ")"

end RegistrySync.Text
