import CompilerDriver.Text.Utf8

/-!
# Octet texts

What a process reads, writes and is given as arguments is a sequence of octets.  An octet text
holds it with one character below U+0100 for each octet, so that the functions on texts apply to
it; a text is encoded on the way in and decoded on the way out.
-/

namespace CompilerDriver.Text

def octetOf (b : UInt8) : Char := Char.ofNat b.toNat

def byteOf (c : Char) : UInt8 := UInt8.ofNat c.toNat

def octetsOfBytes (bytes : List UInt8) : String :=
  String.ofList (bytes.map octetOf)

def bytesOfOctets (s : String) : List UInt8 :=
  s.toList.map byteOf

/-- The octets of an array of bytes. -/
def octetsOfArray (bytes : ByteArray) : String :=
  bytes.foldl (fun s b => s.push (octetOf b)) ""

/-- Octets as an array of bytes. -/
def arrayOfOctets (s : String) : ByteArray :=
  if s.utf8ByteSize = s.length then s.toUTF8
  else s.foldl (fun bytes c => bytes.push (byteOf c)) ByteArray.empty

/-- The octets of a text. -/
def toOctets (s : String) : String := octetsOfBytes (encodeUtf8 s)

/-- The text that octets stand for. -/
def ofOctets (s : String) : String := decodeUtf8 (bytesOfOctets s)

private theorem toNat_octetOf (b : UInt8) : (octetOf b).toNat = b.toNat := by
  have h : b.toNat.isValidChar := Or.inl (Nat.lt_trans b.toNat_lt (by decide))
  rw [octetOf, Char.ofNat, dif_pos h]
  rfl

@[simp] theorem byteOf_octetOf (b : UInt8) : byteOf (octetOf b) = b := by
  simp [byteOf, toNat_octetOf]

theorem bytesOfOctets_octetsOfBytes (bytes : List UInt8) :
    bytesOfOctets (octetsOfBytes bytes) = bytes := by
  simp only [bytesOfOctets, octetsOfBytes, String.toList_ofList, List.map_map]
  exact (List.map_congr_left fun b _ => byteOf_octetOf b).trans (List.map_id bytes)

/-- Octets that encode a text are not lost by reading it. -/
theorem ofOctets_toOctets (s : String) : ofOctets (toOctets s) = decodeUtf8 (encodeUtf8 s) := by
  rw [ofOctets, toOctets, bytesOfOctets_octetsOfBytes]

end CompilerDriver.Text
