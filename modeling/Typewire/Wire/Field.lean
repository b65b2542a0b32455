import Typewire.Wire.Varint

/-!
# Fields of an encoded message

Bytes are cut into tokens first: single values, and the two ends of groups. Groups must nest, with
equal numbers at both ends and not too deeply; what lies inside a group is dropped together with it.
The fields that remain are the message. Their numbers start at one; inside a group nobody looks.
-/
namespace Typewire.Wire

inductive Payload where
  | varint (word : Nat)
  | fixed64 (bytes : Bytes)
  | delimited (bytes : Bytes)
  | fixed32 (bytes : Bytes)
  deriving Repr, DecidableEq, Inhabited

/-- A numbered value. -/
structure Field where
  number : Nat
  payload : Payload
  deriving Repr, DecidableEq, Inhabited

inductive Token where
  | field (field : Field)
  | groupStart (number : Nat)
  | groupEnd (number : Nat)
  deriving Repr, DecidableEq

/-- Takes exactly `count` bytes. -/
def takeBytes (count : Nat) (bytes : Bytes) : Option (Bytes × Bytes) :=
  if count ≤ bytes.length then some (bytes.take count, bytes.drop count) else none

/-- Reads a tag: a field number and a wire type, in at most five bytes and 32 bits. -/
def readTag (bytes : Bytes) : Option ((Nat × Nat) × Bytes) := do
  let (tag, rest) ← readVarint 5 bytes
  if tag < halfWordLimit then some ((tag / 8, tag % 8), rest) else none

/-- Reads a length, in at most five bytes, and as many bytes as it says. -/
def readDelimited (bytes : Bytes) : Option (Bytes × Bytes) := do
  let (length, rest) ← readVarint 5 bytes
  takeBytes length rest

def readToken (bytes : Bytes) : Option (Token × Bytes) := do
  let ((number, wireType), rest) ← readTag bytes
  match wireType with
  | 0 => (readWord rest).map fun (word, rest) => (.field ⟨number, .varint word⟩, rest)
  | 1 => (takeBytes 8 rest).map fun (bits, rest) => (.field ⟨number, .fixed64 bits⟩, rest)
  | 2 => (readDelimited rest).map fun (body, rest) => (.field ⟨number, .delimited body⟩, rest)
  | 3 => some (.groupStart number, rest)
  | 4 => some (.groupEnd number, rest)
  | 5 => (takeBytes 4 rest).map fun (bits, rest) => (.field ⟨number, .fixed32 bits⟩, rest)
  | _ => none

/-- The tokens of a byte stream of at most `fuel` tokens. -/
def tokensWithin : Nat → Bytes → Option (List Token)
  | _, [] => some []
  | 0, _ :: _ => none
  | fuel + 1, bytes@(_ :: _) => do
    let (token, rest) ← readToken bytes
    let tokens ← tokensWithin fuel rest
    return token :: tokens

/-- The tokens of a byte stream. Every token takes a byte at least. -/
def tokens (bytes : Bytes) : Option (List Token) :=
  tokensWithin bytes.length bytes

/-- The fields outside all groups, given the numbers of the groups that are open. At most `depth`
groups are open at a time. -/
def outsideGroups (depth : Nat) : List Nat → List Token → Option (List Field)
  | [], [] => some []
  | _ :: _, [] => none
  | [], .field field :: rest =>
    if field.number = 0 then none else (outsideGroups depth [] rest).map (field :: ·)
  | number :: pending, .field _ :: rest => outsideGroups depth (number :: pending) rest
  | [], .groupStart number :: rest =>
    if number = 0 ∨ depth = 0 then none else outsideGroups depth [number] rest
  | outer :: pending, .groupStart number :: rest =>
    if pending.length + 1 < depth then outsideGroups depth (number :: outer :: pending) rest
    else none
  | [], .groupEnd _ :: _ => none
  | number :: pending, .groupEnd last :: rest =>
    if number = last then outsideGroups depth pending rest else none

/-- The fields of an encoded message with at most `depth` groups inside each other, or nothing when
the bytes are malformed. -/
def fieldsWithin (depth : Nat) (bytes : Bytes) : Option (List Field) :=
  (tokens bytes).bind (outsideGroups depth [])

/-- How deeply messages and groups may nest inside the outermost message. -/
def nestingLimit : Nat := 100

def fields (bytes : Bytes) : Option (List Field) :=
  fieldsWithin nestingLimit bytes

end Typewire.Wire
