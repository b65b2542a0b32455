import Typewire.Descriptor.Basic
import Typewire.Descriptor.Layout
import Typewire.Error

/-!
# Descriptors from bytes

Each reader asks a record for the fields it knows by their numbers. `decode` first checks the bytes
against the layout of the message, whatever the reader asks for.
-/
namespace Typewire.Descriptor

open Wire (Bytes Record)

def Presence.ofNumber? : Int → Option Presence
  | 0 => some .unknown
  | 1 => some .explicit
  | 2 => some .implicit
  | 3 => some .legacyRequired
  | _ => none

def Encoding.ofNumber? : Int → Option Encoding
  | 0 => some .unknown
  | 1 => some .packed
  | 2 => some .expanded
  | _ => none

def Label.ofNumber? : Int → Option Label
  | 1 => some .optional
  | 2 => some .required
  | 3 => some .repeated
  | _ => none

def Features.read (record : Record) : Features :=
  { presence := record.enum? Presence.ofNumber? 1
    encoding := record.enum? Encoding.ofNumber? 3 }

/-- The features among the options of a record: options under one number, features under another. -/
def Features.readOptions (options : Record) (number : Nat) : Option Features :=
  (options.message number).map Features.read

def Field.read (record : Record) : Option Field := do
  let options ← record.message 8
  return {
    name := record.bytes 1
    number := (record.int32? 3).getD 0
    label := (record.enum? Label.ofNumber? 4).getD .optional
    kind := (record.enum? Kind.ofNumber? 5).getD .double
    typeName := record.bytes 6
    defaultValue := record.bytes? 7
    packed := options.bool? 2
    features := ← Features.readOptions options 21
    oneofIndex := record.int32? 9
    jsonName := record.bytes 10
    isOptional := (record.bool? 17).getD false }

def EnumValue.read (record : Record) : EnumValue :=
  { name := record.bytes 1, number := (record.int32? 2).getD 0 }

def Enum.read (record : Record) : Option Enum := do
  return { name := record.bytes 1, values := (← record.messages 2).map EnumValue.read }

def Method.read (record : Record) : Method :=
  { name := record.bytes 1
    inputType := record.bytes 2
    outputType := record.bytes 3
    clientStreaming := (record.bool? 5).getD false
    serverStreaming := (record.bool? 6).getD false }

def Service.read (record : Record) : Option Service := do
  return { name := record.bytes 1, methods := (← record.messages 2).map Method.read }

/-- A message with at most `depth` levels of messages inside it. -/
def Message.readWithin (depth : Nat) (record : Record) : Option Message := do
  let options ← record.message 7
  let nested ← record.messages 3
  return {
    name := record.bytes 1
    fields := ← (← record.messages 2).mapM Field.read
    nested := ← match depth, nested with
      | _, [] => some []
      | 0, _ :: _ => none
      | depth + 1, records => records.mapM (readWithin depth)
    enums := ← (← record.messages 4).mapM Enum.read
    oneofs := (← record.messages 8).map fun oneof => oneof.bytes 1
    mapEntry := (options.bool? 7).getD false
    features := ← Features.readOptions options 12 }

def Message.read (record : Record) : Option Message :=
  Message.readWithin Wire.nestingLimit record

def File.read (record : Record) : Option File := do
  let options ← record.message 8
  return {
    name := record.bytes 1
    package := record.bytes 2
    dependencies := record.chunks 3
    publicDependencies := ← record.int32s 10
    enums := ← (← record.messages 5).mapM Enum.read
    messages := ← (← record.messages 4).mapM Message.read
    services := ← (← record.messages 6).mapM Service.read
    dialect := record.bytes 12
    features := ← Features.readOptions options 50 }

def CompilerVersion.read (record : Record) : CompilerVersion :=
  { major := (record.int32? 1).getD 0
    minor := (record.int32? 2).getD 0
    patch := (record.int32? 3).getD 0
    suffix := record.bytes 4 }

def Request.read (record : Record) : Option Request := do
  return {
    files := ← (← record.messages 15).mapM File.read
    parameter := record.bytes 2
    compilerVersion := .read (← record.message 3)
    filesToGenerate := record.chunks 1 }

/-- The files of a descriptor set. -/
def readSet (record : Record) : Option (List File) := do
  (← record.messages 1).mapM File.read

/-- Reads a message of a given type. Bytes that are not well formed fail with `malformed`. -/
def decode {α : Type} (type : MessageType) (read : Record → Option α) (malformed : Error)
    (bytes : Bytes) : Except Error α :=
  if type.isWellFormed bytes then ((Wire.fields bytes).bind read).elim (.error malformed) .ok
  else .error malformed

end Typewire.Descriptor
