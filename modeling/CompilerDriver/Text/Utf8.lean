/-!
# Reading bytes as UTF-8

Every byte sequence has a text: each longest prefix of a character's encoding that does not
become a whole character, and each byte that starts none, is read as U+FFFD.
-/

namespace CompilerDriver.Text

def replacement : Char := Char.ofNat 0xFFFD

/-- A character under way: its bits so far, the number of bytes to come, and the range that the
next byte has to lie in. -/
structure Partial where
  value : Nat
  remaining : Nat
  low : Nat
  high : Nat
  deriving DecidableEq, Repr

/-- The first byte of a character of two or more bytes.  The range of the byte after it leaves
out overlong forms, surrogates and values above U+10FFFF. -/
def Partial.ofLead (b : Nat) : Option Partial :=
  if 0xC2 ≤ b ∧ b ≤ 0xDF then some ⟨b - 0xC0, 1, 0x80, 0xBF⟩
  else if b = 0xE0 then some ⟨0, 2, 0xA0, 0xBF⟩
  else if b = 0xED then some ⟨0xD, 2, 0x80, 0x9F⟩
  else if 0xE1 ≤ b ∧ b ≤ 0xEF then some ⟨b - 0xE0, 2, 0x80, 0xBF⟩
  else if b = 0xF0 then some ⟨0, 3, 0x90, 0xBF⟩
  else if b = 0xF4 then some ⟨4, 3, 0x80, 0x8F⟩
  else if 0xF1 ≤ b ∧ b ≤ 0xF3 then some ⟨b - 0xF0, 3, 0x80, 0xBF⟩
  else none

/-- The text read so far, last character first, and the character under way. -/
structure Decoder where
  text : List Char
  pending : Option Partial
  deriving DecidableEq, Repr

def Decoder.start : Decoder := ⟨[], none⟩

/-- Reads a byte where a character begins. -/
def Decoder.open (text : List Char) (b : Nat) : Decoder :=
  if b < 0x80 then ⟨Char.ofNat b :: text, none⟩
  else
    match Partial.ofLead b with
    | some p => ⟨text, some p⟩
    | none => ⟨replacement :: text, none⟩

def Decoder.feed (d : Decoder) (byte : UInt8) : Decoder :=
  let b := byte.toNat
  match d.pending with
  | none => Decoder.open d.text b
  | some p =>
      if p.low ≤ b ∧ b ≤ p.high then
        let value := p.value * 64 + (b - 0x80)
        if p.remaining ≤ 1 then ⟨Char.ofNat value :: d.text, none⟩
        else ⟨d.text, some ⟨value, p.remaining - 1, 0x80, 0xBF⟩⟩
      else Decoder.open (replacement :: d.text) b

def Decoder.finish (d : Decoder) : List Char :=
  match d.pending with
  | none => d.text.reverse
  | some _ => (replacement :: d.text).reverse

def decodeUtf8 (bytes : List UInt8) : String :=
  String.ofList (bytes.foldl Decoder.feed Decoder.start).finish

def encodeUtf8 (s : String) : List UInt8 :=
  s.toUTF8.data.toList

end CompilerDriver.Text
