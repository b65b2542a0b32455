import Typewire.Code.Declaration
import Typewire.Text.Lines

/-!
# The code of one field

Expressions and statements that a message class contains for each of its fields. An expression is a
text, a statement a block of lines. `pb` is the name of the message runtime.
-/
namespace Typewire.Code.Field

/-- The type of the field in the plain-object form of its message. -/
def objectType : Field → String
  | { key := some key, value := some value, .. } =>
    let index := if key.typeRef = "number" then "number" else "string"
    s!"\x7b [key: {index}]: {objectType value} \x7d"
  | field =>
    let element :=
      if field.isMessage then s!"ReturnType<typeof {field.typeRef}.prototype.toObject>"
      else field.typeRef
    if field.repeated then s!"{element}[]" else element

def getter (pb : String) (field : Field) : String :=
  let number := field.number
  let typeRef := field.typeRef
  let type := field.propertyType
  if field.isMap then s!"{pb}.Message.getField(this, {number}) as any as {type}"
  else if field.isMessage && field.repeated then
    s!"{pb}.Message.getRepeatedWrapperField(this, {typeRef}, {number}) as {type}"
  else if field.isMessage then
    s!"{pb}.Message.getWrapperField(this, {typeRef}, {number}) as {type}"
  else s!"{pb}.Message.getFieldWithDefault(this, {number}, {field.initial}) as {type}"

/-- The assignment of `value` to the field. -/
def setter (pb : String) (field : Field) : String :=
  let number := field.number
  if field.isMap then s!"{pb}.Message.setField(this, {number}, value as any)"
  else
    match field.oneofGroup with
    | some group =>
      let method := if field.isMessage then "setOneofWrapperField" else "setOneofField"
      s!"{pb}.Message.{method}(this, {number}, this.#one_of_decls[{group}], value)"
    | none =>
      if field.isMessage && field.repeated then
        s!"{pb}.Message.setRepeatedWrapperField(this, {number}, value)"
      else if field.isMessage then s!"{pb}.Message.setWrapperField(this, {number}, value)"
      else s!"{pb}.Message.setField(this, {number}, value)"

/-- The condition under which a single field is written. -/
def presenceCheck (field : Field) : String :=
  if field.presence then s!"this.has_{field.name}"
  else
    match field.kind with
    | .string | .bytes => s!"this.{field.name}.length"
    | .bool => s!"this.{field.name} != false"
    | .enum => s!"this.{field.name} != {field.initial}"
    | _ => s!"this.{field.name} != 0"

/-! ### Writing -/

/-- The statement that writes the key or the value of a map entry. -/
def writeEntryPart (field : Field) (number : Nat) (value : String) : String :=
  if field.isMessage then
    s!"writer.writeMessage({number}, {value}, () => {value}.serialize(writer));"
  else s!"writer.write{field.kind.methodName}({number}, {value});"

/-- The call that writes a field that is no map. -/
def writeCall (field : Field) : String :=
  let name := s!"this.{field.name}"
  let number := field.number
  let typeRef := field.typeRef
  let method := field.kind.methodName
  if field.kind = .group then
    if field.repeated then
      s!"{name}.forEach((item: {typeRef}) => " ++
        s!"writer.writeGroup({number}, item, () => item.serialize(writer)))"
    else s!"writer.writeGroup({number}, {name}, () => {name}.serialize(writer))"
  else if field.isMessage && field.repeated then
    s!"writer.writeRepeatedMessage({number}, {name}, (item: {typeRef}) => item.serialize(writer))"
  else if field.isMessage then
    s!"writer.writeMessage({number}, {name}, () => {name}.serialize(writer))"
  else if field.packed then s!"writer.writePacked{method}({number}, {name})"
  else if field.repeated then s!"writer.writeRepeated{method}({number}, {name})"
  else s!"writer.write{method}({number}, {name})"

def write (field : Field) : List String :=
  let name := s!"this.{field.name}"
  match field.entry? with
  | some (key, value) =>
    [s!"for (const [key, value] of {name}) \x7b",
     s!"    writer.writeMessage({field.number}, {name}, () => \x7b",
     "        " ++ key.writeEntryPart 1 "key",
     "        " ++ value.writeEntryPart 2 "value",
     "    \x7d);",
     "\x7d"]
  | none =>
    let check := if field.repeated then s!"{name}.length" else field.presenceCheck
    [s!"if ({check})", s!"    {field.writeCall};"]

/-! ### Reading -/

/-- The expression that reads the key or the value of a map entry. -/
def readEntryPart (field : Field) : List String :=
  if field.isMessage then
    ["() => \x7b",
     "    let value;",
     s!"    reader.readMessage(message, () => value = {field.typeRef}.deserialize(reader));",
     "    return value;",
     "\x7d"]
  else [s!"reader.read{field.kind.methodName}"]

/-- Whether a list of the field's kind may come as one packed run. -/
def readsPacked (field : Field) : Bool :=
  field.repeated && (field.kind.isPackable || field.kind = .enum)

/-- The statement that reads a field that is no map. -/
def readSingle (pb : String) (field : Field) : List String :=
  let name := s!"message.{field.name}"
  let number := field.number
  let typeRef := field.typeRef
  let method := field.kind.methodName
  let addWrapper := s!"{pb}.Message.addToRepeatedWrapperField(" ++
    s!"message, {number}, {typeRef}.deserialize(reader), {typeRef})"
  let addValue := s!"{pb}.Message.addToRepeatedField(message, {number}, reader.read{method}())"
  if field.kind = .group then
    if field.repeated then [s!"reader.readGroup({number}, message, () => {addWrapper});"]
    else [s!"reader.readGroup({number}, {name}, () => {name} = {typeRef}.deserialize(reader));"]
  else if field.isMessage && field.repeated then
    [s!"reader.readMessage({name}, () => {addWrapper});"]
  else if field.isMessage then
    [s!"reader.readMessage({name}, () => {name} = {typeRef}.deserialize(reader));"]
  else if field.readsPacked then
    ["if (reader.isDelimited())",
     s!"    {name}.push(...reader.readPacked{method}());",
     "else",
     s!"    {addValue};"]
  else if field.repeated then [s!"{addValue};"]
  else [s!"{name} = reader.read{method}();"]

def read (pb : String) (field : Field) : List String :=
  match field.entry? with
  | some (key, value) =>
    Text.inline
      [[s!"reader.readMessage(message, () => {pb}.Map.deserializeBinary(" ++
          s!"message.{field.name} as any, reader, "],
       key.readEntryPart, [", "], value.readEntryPart, ["));"]]
  | none => field.readSingle pb

/-! ### Plain objects -/

def fromObject (field : Field) : List String :=
  let source := s!"data.{field.name}"
  match field.entry? with
  | some (_, value) =>
    let entries :=
      if value.isMessage then
        s!"Object.entries({source}).map(([key, value]) => " ++
          s!"[key, {value.typeRef}.fromObject(value as any)])"
      else s!"Object.entries({source})"
    [s!"if (typeof {source} == \"object\") \x7b",
     s!"    message.{field.name} = new Map({entries} as any);",
     "\x7d"]
  | none =>
    let value :=
      if field.isMessage && field.repeated then
        s!"{source}.map(item => {field.typeRef}.fromObject(item))"
      else if field.isMessage then s!"{field.typeRef}.fromObject({source})"
      else source
    [s!"if ({source} != null) \x7b", s!"    message.{field.name} = {value};", "\x7d"]

def toObject (field : Field) : List String :=
  let source := s!"this.{field.name}"
  let value :=
    match field.entry? with
    | some (_, value) =>
      if value.isMessage then
        s!"Object.fromEntries(Array.from({source}).map(" ++
          "([key, value]) => [key, value.toObject()]))"
      else s!"Object.fromEntries({source})"
    | none =>
      if field.isMessage && field.repeated then
        s!"{source}.map((item: {field.typeRef}) => item.toObject())"
      else if field.isMessage then s!"{source}.toObject()"
      else source
  [s!"if ({source} != null) \x7b", s!"    data.{field.name} = {value};", "\x7d"]

end Typewire.Code.Field
