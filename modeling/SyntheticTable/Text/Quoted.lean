import SyntheticTable.Text.Hidden

/-!
# Quoted text

A text between double quotes, as it is shown in a message or written into a
JSON document.  The two differ only in which characters are escaped and in how
a character without a short escape is spelled.
-/

namespace SyntheticTable.Text

/-- The lower-case hexadecimal digits of a number, at least so many. -/
def hexadecimal (width number : Nat) : List Char :=
  let digits := Nat.toDigits 16 number
  List.replicate (width - digits.length) '0' ++ digits

/-- The one-letter escapes that messages and JSON share. -/
def shortEscape? : Char → Option Char
  | '"' => some '"'
  | '\\' => some '\\'
  | '\n' => some 'n'
  | '\r' => some 'r'
  | '\t' => some 't'
  | _ => none

/-- One character of a text shown in a message. -/
def shownCharacter (character : Char) : List Char :=
  match shortEscape? character with
  | some letter => ['\\', letter]
  | none =>
      if character = '\x00' then ['\\', '0']
      else if isHidden character then
        "\\u\x7b".toList ++ Nat.toDigits 16 character.toNat ++ ['}']
      else [character]

/-- A text as it is shown in a message. -/
def shown (text : String) : String :=
  String.ofList (['"'] ++ text.toList.flatMap shownCharacter ++ ['"'])

/-- One character of a JSON string. -/
def jsonCharacter (character : Char) : List Char :=
  match shortEscape? character with
  | some letter => ['\\', letter]
  | none =>
      if character.toNat = 0x08 then ['\\', 'b']
      else if character.toNat = 0x0C then ['\\', 'f']
      else if character.toNat < 0x20 then
        ['\\', 'u'] ++ hexadecimal 4 character.toNat
      else [character]

/-- A text as a JSON string. -/
def jsonQuoted (text : String) : String :=
  String.ofList (['"'] ++ text.toList.flatMap jsonCharacter ++ ['"'])

end SyntheticTable.Text
