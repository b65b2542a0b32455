/-!
# Variable-length numbers

Seven bits in a byte, the least significant group first; the high bit of a byte says that another
follows. Readers take the bytes at hand and give back the rest.
-/
namespace Typewire.Wire

abbrev Bytes := List UInt8

/-- Reads a number of at most `limit` bytes. -/
def readVarint : Nat → Bytes → Option (Nat × Bytes)
  | 0, _ => none
  | _ + 1, [] => none
  | limit + 1, byte :: rest =>
    if byte.toNat < 128 then some (byte.toNat, rest)
    else (readVarint limit rest).map fun (high, rest) => (byte.toNat - 128 + 128 * high, rest)

def writeVarint (value : Nat) : Bytes :=
  if value < 128 then [value.toUInt8]
  else (128 + value % 128).toUInt8 :: writeVarint (value / 128)
termination_by value
decreasing_by omega

/-- The first number beyond 32 bits. -/
def halfWordLimit : Nat := 0x100000000

/-- The first number beyond 64 bits. -/
def wordLimit : Nat := 0x10000000000000000

/-- Reads a number of 64 bits; it takes ten bytes at most, and bits beyond the 64th are dropped. -/
def readWord (bytes : Bytes) : Option (Nat × Bytes) :=
  (readVarint 10 bytes).map fun (value, rest) => (value % wordLimit, rest)

/-- The integer of 32 bits, with a sign, that a word holds in its low half. -/
def toInt32 (word : Nat) : Int :=
  Int.bmod word halfWordLimit

end Typewire.Wire
