import Typewire.Wire.Record

/-!
# Layouts of descriptor messages

Which fields of a message hold another message or a packed run. Everything inside such a field must be
well formed, whether or not anybody reads it; a byte string under any other number may hold anything.

The check is bounded by the depth to which messages and groups may nest.
-/
namespace Typewire.Descriptor

open Wire (Bytes Record)

/-- The messages that a request is made of. -/
inductive MessageType where
  | request
  | fileSet
  | file
  | message
  | field
  | oneof
  | enum
  | enumValue
  | service
  | method
  | extensionRange
  | fileOptions
  | messageOptions
  | fieldOptions
  | oneofOptions
  | enumOptions
  | enumValueOptions
  | serviceOptions
  | methodOptions
  | extensionRangeOptions
  /-- An option in the form in which it was written. -/
  | rawOption
  /-- Where the parts of a file were written. -/
  | sourceInfo
  | location
  /-- A message without messages or packed runs in it. -/
  | leaf
  deriving Repr, DecidableEq, Inhabited

/-- What a byte string inside a message holds. -/
inductive Content where
  | message (type : MessageType)
  /-- A run of numbers of variable length. -/
  | packed
  deriving Repr, DecidableEq

namespace MessageType

/-- The content under each number that has one. -/
def layout : MessageType → List (Nat × Content)
  | request => [(3, .message leaf), (15, .message file), (17, .message file)]
  | fileSet => [(1, .message file)]
  | file =>
    [(4, .message message), (5, .message enum), (6, .message service), (7, .message field),
     (8, .message fileOptions), (9, .message sourceInfo), (10, .packed), (11, .packed)]
  | message =>
    [(2, .message field), (3, .message message), (4, .message enum), (5, .message extensionRange),
     (6, .message field), (7, .message messageOptions), (8, .message oneof), (9, .message leaf)]
  | field => [(8, .message fieldOptions)]
  | oneof => [(2, .message oneofOptions)]
  | enum => [(2, .message enumValue), (3, .message enumOptions), (4, .message leaf)]
  | enumValue => [(3, .message enumValueOptions)]
  | service => [(2, .message method), (3, .message serviceOptions)]
  | method => [(4, .message methodOptions)]
  | extensionRange => [(3, .message extensionRangeOptions)]
  | fileOptions => [(50, .message leaf), (999, .message rawOption)]
  | messageOptions => [(12, .message leaf), (999, .message rawOption)]
  | fieldOptions =>
    [(19, .packed), (20, .message leaf), (21, .message leaf), (22, .message leaf),
     (999, .message rawOption)]
  | oneofOptions => [(1, .message leaf), (999, .message rawOption)]
  | enumOptions => [(7, .message leaf), (999, .message rawOption)]
  | enumValueOptions => [(2, .message leaf), (4, .message leaf), (999, .message rawOption)]
  | serviceOptions => [(34, .message leaf), (999, .message rawOption)]
  | methodOptions => [(35, .message leaf), (999, .message rawOption)]
  | extensionRangeOptions => [(2, .message leaf), (50, .message leaf), (999, .message rawOption)]
  | rawOption => [(2, .message leaf)]
  | sourceInfo => [(1, .message location)]
  | location => [(1, .packed), (2, .packed)]
  | leaf => []

/-- Whether a field fits the layout of its message, given how messages inside are judged. -/
def admits (type : MessageType) (inner : MessageType → Bytes → Bool) (field : Wire.Field) : Bool :=
  match field.payload with
  | .delimited body =>
    match type.layout.lookup field.number with
    | some (.message innerType) => inner innerType body
    | some .packed => (Record.packedWords body.length body).isSome
    | none => true
  | _ => true

/-- Whether bytes encode a message of a type in which messages and groups nest at most `depth`
levels deep. -/
def isWellFormedWithin : Nat → MessageType → Bytes → Bool
  | 0, type, bytes =>
    match Wire.fieldsWithin 0 bytes with
    | some fields => fields.all (type.admits fun _ _ => false)
    | none => false
  | depth + 1, type, bytes =>
    match Wire.fieldsWithin (depth + 1) bytes with
    | some fields => fields.all (type.admits (isWellFormedWithin depth))
    | none => false

def isWellFormed (type : MessageType) (bytes : Bytes) : Bool :=
  type.isWellFormedWithin Wire.nestingLimit bytes

end MessageType

end Typewire.Descriptor
