import CompilerDriver.Posix.Text.Octets

/-!
# Characters in octets

Octets that encode a character are taken together.  An octet that is no part of a character stands
for itself, as a stray, which differs from every character that a text holds.
-/

namespace CompilerDriver.Text

/-- The first of the code points at which strays are put, the last ones of all for private use. -/
def strayBase : Nat := 0x10FE00

def stray (o : Char) : Char := Char.ofNat (strayBase + o.toNat)

def isStray (c : Char) : Bool := strayBase ≤ c.toNat && c.toNat < strayBase + 256

/-- The octets of a character. -/
def octetsOfCharacter (c : Char) : List Char :=
  let n := c.toNat
  if n < 0x80 then [c]
  else if isStray c then [Char.ofNat (n - strayBase)]
  else (encodeUtf8 (String.singleton c)).map octetOf

def octetsOfCharacters (cs : List Char) : String := String.ofList (cs.flatMap octetsOfCharacter)

/-- The octets that follow the first one of a character and belong to it: how many there are, and
the character. -/
def continued (p : Partial) : Nat → List Char → Option (Char × Nat)
  | n, o :: rest =>
      let b := o.toNat
      if p.low ≤ b ∧ b ≤ p.high then
        let value := p.value * 64 + (b - 0x80)
        if p.remaining ≤ 1 then some (Char.ofNat value, n + 1)
        else continued ⟨value, p.remaining - 1, 0x80, 0xBF⟩ (n + 1) rest
      else none
  | _, [] => none

/-- The characters in some octets, of which the first ones are passed over. -/
def charactersFrom : Nat → List Char → List Char
  | _, [] => []
  | skip + 1, _ :: rest => charactersFrom skip rest
  | 0, o :: rest =>
      if o.toNat < 0x80 then o :: charactersFrom 0 rest
      else
        match (Partial.ofLead o.toNat).bind fun p => continued p 0 rest with
        | some (c, n) => c :: charactersFrom n rest
        | none => stray o :: charactersFrom 0 rest

def characters (octets : List Char) : List Char := charactersFrom 0 octets

end CompilerDriver.Text
