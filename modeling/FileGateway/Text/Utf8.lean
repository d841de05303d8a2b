/-! # Bytes read as UTF-8

Paths and file contents are arbitrary bytes. Reading them as text yields chunks: characters, and
maximal runs of bytes that begin a character without finishing it. Showing replaces every broken
run by one replacement character; strict reading refuses the first of them.
-/

namespace FileGateway

abbrev Bytes := List UInt8

namespace Utf8

/-- A piece of a byte text: a character, or bytes that form none. -/
inductive Chunk
  | char (character : Char)
  | broken (bytes : Bytes)
deriving DecidableEq, Repr

/-- A character that still owes `owed + 1` continuation bytes, the next one within `low … high`. -/
structure Pending where
  bytes : Bytes
  value : Nat
  owed : Nat
  low : UInt8
  high : UInt8
deriving DecidableEq, Repr

/-- What the first byte of a character says. -/
inductive Opening
  | done (character : Char)
  | more (pending : Pending)
  | invalid
deriving DecidableEq, Repr

/-- The bounds on the second byte exclude overlong forms, surrogates and values past U+10FFFF. -/
def opening (byte : UInt8) : Opening :=
  let value := byte.toNat
  if byte ≤ 0x7f then .done (Char.ofNat value)
  else if byte < 0xc2 then .invalid
  else if byte ≤ 0xdf then .more ⟨[byte], value - 0xc0, 0, 0x80, 0xbf⟩
  else if byte = 0xe0 then .more ⟨[byte], 0, 1, 0xa0, 0xbf⟩
  else if byte = 0xed then .more ⟨[byte], 0xd, 1, 0x80, 0x9f⟩
  else if byte ≤ 0xef then .more ⟨[byte], value - 0xe0, 1, 0x80, 0xbf⟩
  else if byte = 0xf0 then .more ⟨[byte], 0, 2, 0x90, 0xbf⟩
  else if byte ≤ 0xf3 then .more ⟨[byte], value - 0xf0, 2, 0x80, 0xbf⟩
  else if byte = 0xf4 then .more ⟨[byte], 4, 2, 0x80, 0x8f⟩
  else .invalid

/-- Chunks of the rest of a text, from between characters or inside an unfinished one. -/
def chunksFrom : Option Pending → Bytes → List Chunk
  | none, [] => []
  | some pending, [] => [.broken pending.bytes]
  | none, byte :: rest =>
    match opening byte with
    | .done character => .char character :: chunksFrom none rest
    | .more pending => chunksFrom (some pending) rest
    | .invalid => .broken [byte] :: chunksFrom none rest
  | some pending, byte :: rest =>
    if pending.low ≤ byte ∧ byte ≤ pending.high then
      let value := pending.value * 64 + (byte.toNat - 0x80)
      match pending.owed with
      | 0 => .char (Char.ofNat value) :: chunksFrom none rest
      | owed + 1 =>
        chunksFrom (some ⟨pending.bytes ++ [byte], value, owed, 0x80, 0xbf⟩) rest
    else
      .broken pending.bytes ::
        match opening byte with
        | .done character => .char character :: chunksFrom none rest
        | .more next => chunksFrom (some next) rest
        | .invalid => .broken [byte] :: chunksFrom none rest

def chunks (bytes : Bytes) : List Chunk := chunksFrom none bytes

/-- How a chunk is shown: a broken run becomes one replacement character. -/
def Chunk.shown : Chunk → Char
  | .char character => character
  | .broken _ => '\ufffd'

def Chunk.char? : Chunk → Option Char
  | .char character => some character
  | .broken _ => none

/-- The text of any bytes, with broken runs replaced. -/
def lossy (bytes : Bytes) : String := String.ofList ((chunks bytes).map Chunk.shown)

/-- The text of well-formed bytes only. -/
def decode? (bytes : Bytes) : Option String :=
  ((chunks bytes).mapM Chunk.char?).map String.ofList

def isValid (bytes : Bytes) : Bool := (decode? bytes).isSome

/-- The bytes of a text. -/
def encode (text : String) : Bytes := text.toUTF8.toList

end Utf8

end FileGateway
