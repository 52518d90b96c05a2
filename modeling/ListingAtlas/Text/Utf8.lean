/-!
Text as bytes. Any bytes can be read: each longest ill-formed part, a sequence broken off before
its end or a byte that begins none, is read as one replacement character.
-/

namespace ListingAtlas.Text

abbrev Bytes := List UInt8

def encodeUtf8 (text : String) : Bytes :=
  text.toList.flatMap String.utf8EncodeChar

def replacement : Char := '\uFFFD'

/-- A sequence whose last bytes are still to come: how many, the bounds of the next one, and the
bits read so far. -/
structure Unfinished where
  owed : Nat
  low : UInt8
  high : UInt8
  bits : Nat

/-- What a byte at the start of a sequence gives: a character at once, or a sequence to finish. -/
def beginSequence (byte : UInt8) : List Char × Option Unfinished :=
  if byte < 0x80 then ([Char.ofNat byte.toNat], none)
  else if byte < 0xC2 then ([replacement], none)
  else if byte < 0xE0 then ([], some ⟨1, 0x80, 0xBF, byte.toNat - 0xC0⟩)
  else if byte == 0xE0 then ([], some ⟨2, 0xA0, 0xBF, 0⟩)
  else if byte == 0xED then ([], some ⟨2, 0x80, 0x9F, 0xD⟩)
  else if byte < 0xF0 then ([], some ⟨2, 0x80, 0xBF, byte.toNat - 0xE0⟩)
  else if byte == 0xF0 then ([], some ⟨3, 0x90, 0xBF, 0⟩)
  else if byte < 0xF4 then ([], some ⟨3, 0x80, 0xBF, byte.toNat - 0xF0⟩)
  else if byte == 0xF4 then ([], some ⟨3, 0x80, 0x8F, 4⟩)
  else ([replacement], none)

def decodeFrom : Option Unfinished → Bytes → List Char
  | none, [] => []
  | some _, [] => [replacement]
  | none, byte :: rest =>
      let (characters, next) := beginSequence byte
      characters ++ decodeFrom next rest
  | some sequence, byte :: rest =>
      if sequence.low ≤ byte && byte ≤ sequence.high then
        let bits := 64 * sequence.bits + (byte.toNat - 0x80)
        if sequence.owed ≤ 1 then Char.ofNat bits :: decodeFrom none rest
        else decodeFrom (some ⟨sequence.owed - 1, 0x80, 0xBF, bits⟩) rest
      else
        let (characters, next) := beginSequence byte
        replacement :: (characters ++ decodeFrom next rest)

def decodeUtf8 (bytes : Bytes) : String :=
  String.ofList (decodeFrom none bytes)

end ListingAtlas.Text
