/-!
# Bytes as text

Texts are stored as bytes in UTF-8.  Bytes that are not text can still be shown:
every sequence that breaks off is shown by one replacement character.
-/

namespace Telemetry

namespace Text

/-- What the first byte of a character tells: the bits it contributes, the number
of bytes behind it, and the range of the second byte. -/
structure LeadByte where
  bits : Nat
  /-- The number of bytes that follow. -/
  following : Nat
  /-- The smallest second byte. -/
  low : UInt8
  high : UInt8

def leadByte? (byte : UInt8) : Option LeadByte :=
  if byte < 0x80 then some ⟨byte.toNat, 0, 0x80, 0xbf⟩
  else if byte < 0xc2 then none
  else if byte < 0xe0 then some ⟨byte.toNat % 0x20, 1, 0x80, 0xbf⟩
  else if byte = 0xe0 then some ⟨0, 2, 0xa0, 0xbf⟩
  else if byte = 0xed then some ⟨0xd, 2, 0x80, 0x9f⟩
  else if byte < 0xf0 then some ⟨byte.toNat % 0x10, 2, 0x80, 0xbf⟩
  else if byte = 0xf0 then some ⟨0, 3, 0x90, 0xbf⟩
  else if byte < 0xf4 then some ⟨byte.toNat % 0x8, 3, 0x80, 0xbf⟩
  else if byte = 0xf4 then some ⟨4, 3, 0x80, 0x8f⟩
  else none

/-- The bytes that can follow a first byte, as far as they go. -/
def continuation (lead : LeadByte) (bytes : List UInt8) : List UInt8 :=
  match bytes.take lead.following with
  | [] => []
  | second :: others =>
      if lead.low ≤ second ∧ second ≤ lead.high then
        second :: others.takeWhile fun byte => 0x80 ≤ byte ∧ byte ≤ 0xbf
      else []

def decodeLossy (bytes : List UInt8) : List Char :=
  match bytes with
  | [] => []
  | first :: rest =>
      match leadByte? first with
      | none => '\ufffd' :: decodeLossy rest
      | some lead =>
          let behind := continuation lead rest
          let character :=
            if behind.length = lead.following then
              Char.ofNat (behind.foldl (fun code byte => 64 * code + byte.toNat % 64) lead.bits)
            else '\ufffd'
          character :: decodeLossy (rest.drop behind.length)
termination_by bytes.length
decreasing_by
  · simp
  · simp only [List.length_drop, List.length_cons]
    omega

end Text

end Telemetry
