import Typewire.Descriptor.Decode
import Typewire.Error
import Typewire.Schema.Basic

/-!
# Schemas from descriptors

What a descriptor leaves implicit depends on the dialect of its file. In editions it depends on two
features, each inherited from the innermost scope that sets it. A field whose type is an entry message
nested beside it becomes a map field; the entry must consist of a key numbered one and a value
numbered two.

Texts are decoded here, each one when it is needed, so that of several faults the first one counts.
-/
namespace Typewire.Schema

open Descriptor (Features)

/-- The text that bytes encode. -/
def text (bytes : Wire.Bytes) : Except Error String :=
  match Wire.Record.decodeText bytes with
  | some text => .ok text
  | none => .error .undecodableText

/-- The dialects that differ in their defaults. -/
inductive Dialect where
  | proto2
  | editions
  /-- Any other dialect, in practice `proto3`. -/
  | other
  deriving Repr, DecidableEq, Inhabited

def Dialect.ofName (name : String) : Dialect :=
  if name = "proto2" then .proto2 else if name = "editions" then .editions else .other

namespace Field

/-- Whether it can be told if a single value of the field was set. -/
def tracksPresence (dialect : Dialect) (features : Features) (field : Descriptor.Field) : Bool :=
  field.isOptional ||
    match dialect with
    | .editions => features.presence != some .implicit
    | .proto2 => true
    | .other => false

/-- Whether a repeated scalar is written as one run. -/
def isPacked (dialect : Dialect) (features : Features) (field : Descriptor.Field) : Bool :=
  field.label == .repeated && field.kind.isPackable &&
    match dialect with
    | .editions => features.encoding == some .packed
    | .proto2 => field.packed.getD false
    | .other => field.packed.getD true

/-- The position of the oneof that a field takes part in. A field marked optional is alone in a
synthetic one and takes part in none. -/
def oneofOf (field : Descriptor.Field) : Option Int :=
  if field.isOptional then none else field.oneofIndex

def cardinalityOf (field : Descriptor.Field) : Cardinality :=
  if field.label = .repeated then .repeated
  else if (oneofOf field).isSome then .oneof
  else .singular

/-- A field as its descriptor describes it, given the features around it. -/
def load (dialect : Dialect) (outer : Features) (field : Descriptor.Field) : Except Error Field := do
  let features := field.features.within outer
  let name ← text field.name
  let typeName ← text field.typeName
  let jsonName ← text field.jsonName
  let defaultValue ← field.defaultValue.mapM text
  return {
    name
    number := field.number
    cardinality := cardinalityOf field
    kind := field.kind
    typeName := if typeName = "" then none else some typeName
    oneofIndex := oneofOf field
    jsonName := if jsonName = "" then none else some jsonName
    packed := isPacked dialect features field
    isOptional := field.isOptional
    explicitPresence := tracksPresence dialect features field && field.label != .repeated
    defaultValue }

end Field

/-- The key and the value of a map entry. -/
def entryParts (typeName : String) (entry : Descriptor.Message) :
    Except Error (Descriptor.Field × Descriptor.Field) :=
  match entry.fields with
  | [first, second] =>
    let (key, value) := if first.number ≤ second.number then (first, second) else (second, first)
    if key.number = 1 ∧ value.number = 2 then .ok (key, value)
    else .error (.entryNumbering typeName)
  | _ => .error (.entryFieldCount typeName)

/-- The entry messages among those nested in a scope, by their full names. -/
def entriesOf (scope : String) (nested : List Descriptor.Message) :
    Except Error (List (String × Descriptor.Message)) :=
  (nested.filter (·.mapEntry)).mapM fun entry => do return (fullName scope (← text entry.name), entry)

/-- A field of a message, as a map field if its type is one of the entries beside it. The last entry of
a name counts. -/
def loadMember (dialect : Dialect) (features : Features)
    (entries : List (String × Descriptor.Message)) (field : Descriptor.Field) :
    Except Error Field := do
  let loaded ← Field.load dialect features field
  let typeName := loaded.typeName.getD ""
  match entries.findRev? fun entry => entry.1 = typeName with
  | none => return loaded
  | some (_, entry) =>
    let (key, value) ← entryParts typeName entry
    return {
      loaded with
      mapKey := some (← Field.load dialect features key)
      mapValue := some (← Field.load dialect features value) }

/-- The oneofs of a message. One is synthetic when it has members and all are marked optional. -/
def loadOneofs (names : List Wire.Bytes) (fields : List Descriptor.Field) :
    Except Error (List Oneof) :=
  names.zipIdx.mapM fun (name, index) => do
    let members := fields.filter fun field => field.oneofIndex = some (index : Int)
    return { name := ← text name, synthetic := !members.isEmpty && members.all (·.isOptional) }

def Enum.load (enum : Descriptor.Enum) : Except Error Enum := do
  return {
    name := ← text enum.name
    values := ← enum.values.mapM fun value => do
      return { name := ← text value.name, number := value.number } }

def Service.load (service : Descriptor.Service) : Except Error Service := do
  return {
    name := ← text service.name
    methods := ← service.methods.mapM fun method => do
      return {
        name := ← text method.name
        inputType := ← text method.inputType
        outputType := ← text method.outputType
        clientStreaming := method.clientStreaming
        serverStreaming := method.serverStreaming } }

mutual

/-- A message and everything nested in it. -/
def Message.load (dialect : Dialect) (outer : Features) (scope : String) :
    Descriptor.Message → Except Error Message
  | ⟨name, fields, nested, enums, oneofs, mapEntry, features⟩ => do
    let inner := features.within outer
    let name ← text name
    let full := fullName scope name
    let entries ← entriesOf full nested
    let loaded ← fields.mapM (loadMember dialect inner entries)
    let oneofs ← loadOneofs oneofs fields
    let nestedMessages ← Message.loadAll dialect inner full nested
    let nestedEnums ← enums.mapM Enum.load
    return { name, fields := loaded, nestedMessages, nestedEnums, oneofs, mapEntry }

def Message.loadAll (dialect : Dialect) (outer : Features) (scope : String) :
    List Descriptor.Message → Except Error (List Message)
  | [] => .ok []
  | message :: messages => do
    let first ← Message.load dialect outer scope message
    let others ← Message.loadAll dialect outer scope messages
    return first :: others

end

def File.load (file : Descriptor.File) : Except Error File := do
  let dialect ← text file.dialect
  let dialect := if dialect = "" then "proto2" else dialect
  let package ← text file.package
  let package := if package = "" then none else some package
  let scope := match package with
    | some package => "." ++ package
    | none => ""
  return {
    name := ← text file.name
    package
    dependencies := ← file.dependencies.mapM text
    publicDependencies := file.publicDependencies
    enums := ← file.enums.mapM Enum.load
    messages := ← Message.loadAll (Dialect.ofName dialect)
      (file.features.within Features.defaults) scope file.messages
    services := ← file.services.mapM Service.load
    dialect }

def loadVersion (version : Descriptor.CompilerVersion) : Except Error Version := do
  return {
    major := version.major
    minor := version.minor
    patch := version.patch
    suffix := ← text version.suffix }

def Request.decode (bytes : Wire.Bytes) : Except Error Request := do
  let request ← Descriptor.decode .request Descriptor.Request.read .undecodableRequest bytes
  let compilerVersion ← loadVersion request.compilerVersion
  let files ← request.files.mapM File.load
  let parameter ← text request.parameter
  let filesToGenerate ← request.filesToGenerate.mapM text
  return { files, parameter, compilerVersion, filesToGenerate }

def decodeSet (bytes : Wire.Bytes) : Except Error (List File) := do
  let files ← Descriptor.decode .fileSet Descriptor.readSet .undecodableSet bytes
  files.mapM File.load

end Typewire.Schema
