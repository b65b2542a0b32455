import Typewire.Wire.Field

/-!
# Records: messages asked by field number

A reader of a message knows the number and the type of each field and asks for it. A field of another
wire type than asked for is passed over. The last of several single values counts; several
occurrences of a single message are merged, which is the same as reading their fields in a row.
-/
namespace Typewire.Wire

/-- The fields of a message in order. -/
abbrev Record := List Field

namespace Record

def words (record : Record) (number : Nat) : List Nat :=
  record.filterMap fun
    | ⟨n, .varint word⟩ => if n = number then some word else none
    | _ => none

def chunks (record : Record) (number : Nat) : List Bytes :=
  record.filterMap fun
    | ⟨n, .delimited bytes⟩ => if n = number then some bytes else none
    | _ => none

def bool? (record : Record) (number : Nat) : Option Bool :=
  (record.words number).getLast?.map (· != 0)

def int32? (record : Record) (number : Nat) : Option Int :=
  (record.words number).getLast?.map toInt32

/-- A member of an enumeration. Numbers without a member are passed over. -/
def enum? {α : Type} (ofNumber? : Int → Option α) (record : Record) (number : Nat) : Option α :=
  ((record.words number).filterMap fun word => ofNumber? (toInt32 word)).getLast?

def decodeText (bytes : Bytes) : Option String :=
  String.fromUTF8? ⟨bytes.toArray⟩

/-- A byte string, if it is there. -/
def bytes? (record : Record) (number : Nat) : Option Bytes :=
  (record.chunks number).getLast?

/-- A byte string, empty if it is not there. -/
def bytes (record : Record) (number : Nat) : Bytes :=
  (record.bytes? number).getD []

def messages (record : Record) (number : Nat) : Option (List Record) :=
  (record.chunks number).mapM fields

/-- A single message, merged from all its occurrences; empty if it is not there. -/
def message (record : Record) (number : Nat) : Option Record :=
  (record.messages number).map List.flatten

/-- The integers of a packed run. -/
def packedWords : Nat → Bytes → Option (List Nat)
  | _, [] => some []
  | 0, _ :: _ => none
  | fuel + 1, bytes@(_ :: _) => do
    let (word, rest) ← readWord bytes
    let words ← packedWords fuel rest
    return word :: words

/-- Repeated integers of 32 bits, each on its own or in packed runs. -/
def int32s (record : Record) (number : Nat) : Option (List Int) := do
  let runs ← record.mapM fun
    | ⟨n, .varint word⟩ => some (if n = number then [word] else [])
    | ⟨n, .delimited bytes⟩ => if n = number then packedWords bytes.length bytes else some []
    | _ => some []
  return runs.flatten.map toInt32

end Record

end Typewire.Wire
