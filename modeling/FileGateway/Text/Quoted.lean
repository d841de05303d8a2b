import FileGateway.Text.Utf8
import FileGateway.Text.Visible

/-! # Quoted texts

A quoted text stands between double quotes, with quotes, backslashes and invisible characters
written as escapes. Bytes that are no text appear as hexadecimal escapes.
-/

namespace FileGateway.Quoted

/-- The hexadecimal digit of a number below sixteen. -/
def hexDigit (value : Nat) : Char :=
  if value < 10 then Char.ofNat (48 + value) else Char.ofNat (87 + value)

/-- A number in hexadecimal, without leading zeros. -/
def hexadecimal (value : Nat) : List Char := Nat.toDigits 16 value

/-- One character inside the quotes. -/
def escape (character : Char) : List Char :=
  match character with
  | '\x22' => ['\\', '\x22']
  | '\\' => ['\\', '\\']
  | '\n' => ['\\', 'n']
  | '\r' => ['\\', 'r']
  | '\t' => ['\\', 't']
  | '\x00' => ['\\', '0']
  | _ =>
    if isVisible character then [character]
    else '\\' :: 'u' :: '\x7b' :: (hexadecimal character.toNat ++ ['\x7d'])

/-- One byte that belongs to no character: two upper-case hexadecimal digits. -/
def escapeByte (byte : UInt8) : List Char :=
  ['\\', 'x', (hexDigit (byte.toNat / 16)).toUpper, (hexDigit (byte.toNat % 16)).toUpper]

def escapeChunk : Utf8.Chunk → List Char
  | .char character => escape character
  | .broken bytes => bytes.flatMap escapeByte

/-- A text in quotes. -/
def text (content : String) : String :=
  String.ofList ('\x22' :: content.toList.flatMap escape ++ ['\x22'])

/-- Any bytes in quotes. -/
def bytes (content : Bytes) : String :=
  String.ofList ('\x22' :: (Utf8.chunks content).flatMap escapeChunk ++ ['\x22'])

end FileGateway.Quoted
