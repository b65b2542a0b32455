/-!
# Kinds of field values

The eighteen kinds in the order of their numbers in a descriptor, and what the wire format and the
generated code know of each.
-/
namespace Typewire

/-- What a field holds. -/
inductive Kind where
  | double | float | int64 | uint64 | int32 | fixed64 | fixed32 | bool | string
  | group | message | bytes | uint32 | enum | sfixed32 | sfixed64 | sint32 | sint64
  deriving Repr, DecidableEq, Inhabited

namespace Kind

/-- All kinds, numbered from one. -/
def all : List Kind :=
  [double, float, int64, uint64, int32, fixed64, fixed32, bool, string,
   group, message, bytes, uint32, enum, sfixed32, sfixed64, sint32, sint64]

def name : Kind → String
  | double => "double"
  | float => "float"
  | int64 => "int64"
  | uint64 => "uint64"
  | int32 => "int32"
  | fixed64 => "fixed64"
  | fixed32 => "fixed32"
  | bool => "bool"
  | string => "string"
  | group => "group"
  | message => "message"
  | bytes => "bytes"
  | uint32 => "uint32"
  | enum => "enum"
  | sfixed32 => "sfixed32"
  | sfixed64 => "sfixed64"
  | sint32 => "sint32"
  | sint64 => "sint64"

/-- The name of a kind in the methods of the runtime's reader and writer. -/
def methodName (kind : Kind) : String :=
  match kind.name.toList with
  | [] => ""
  | first :: rest => String.ofList (first.toUpper :: rest)

def ofName? (name : String) : Option Kind :=
  all.find? fun kind => kind.name = name

def ofNumber? (number : Int) : Option Kind :=
  if 1 ≤ number then all[(number - 1).toNat]? else none

/-- Kinds whose values are objects of a message class. -/
def isMessage : Kind → Bool
  | message | group => true
  | _ => false

/-- Kinds that need no reference to another type. -/
def isScalar : Kind → Bool
  | message | group | enum => false
  | _ => true

/-- Kinds whose repeated values may be written as one packed run. -/
def isPackable : Kind → Bool
  | string | bytes => false
  | kind => kind.isScalar

/-- The wire type under which a single value is written. -/
def wireType : Kind → Nat
  | double | fixed64 | sfixed64 => 1
  | float | fixed32 | sfixed32 => 5
  | string | message | bytes => 2
  | group => 3
  | int64 | uint64 | int32 | bool | uint32 | enum | sint32 | sint64 => 0

/-- The type of a scalar in the generated code. -/
def scalarType? : Kind → Option String
  | message | group | enum => none
  | bool => some "boolean"
  | string => some "string"
  | bytes => some "Uint8Array"
  | _ => some "number"

end Kind

end Typewire
