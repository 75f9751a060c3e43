import ChatRelay.Text.Invisible

/-!
# Quoted texts

A text in a message stands between quotes, so that its ends can be seen. A quote or a backslash in
it gets a backslash before it, the common controls have letters of their own, and any other
character that does not show is written as its code point.
-/

namespace ChatRelay.Text

/-- A number in hexadecimal with small letters. -/
def hexadecimal (n : Nat) : List Char := Nat.toDigits 16 n

/-- A character as it stands between quotes. -/
def quotedChar (c : Char) : List Char :=
  match c with
  | '\x00' => ['\\', '0']
  | '\t' => ['\\', 't']
  | '\r' => ['\\', 'r']
  | '\n' => ['\\', 'n']
  | '"' => ['\\', '"']
  | '\\' => ['\\', '\\']
  | c =>
    if isInvisible c then '\\' :: 'u' :: '\x7b' :: hexadecimal c.toNat ++ ['\x7d'] else [c]

/-- A text between quotes. -/
def quoted (text : String) : String :=
  String.ofList ('"' :: text.toList.flatMap quotedChar ++ ['"'])

end ChatRelay.Text
