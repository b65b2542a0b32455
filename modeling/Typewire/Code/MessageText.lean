import Typewire.Code.FieldText
import Typewire.Text.Literal

/-!
# The code of a message class

A class has a table of its fields, a constructor, accessors, a case getter for each oneof, and the
conversions from and to plain objects and bytes.
-/
namespace Typewire.Code.MessageClass

/-! ### Shapes of plain objects -/

/-- An object type with one line for each property. -/
def shapeOf (properties : List String) : List String :=
  if properties.isEmpty then ["\x7b\x7d"]
  else ["\x7b"] ++ properties.map ("    " ++ ·) ++ ["\x7d"]

/-- The type of the plain-object form: every field is optional. -/
def objectShape (decl : MessageClass) : List String :=
  shapeOf (decl.members.map fun member => s!"{member.name}?: {member.objectType};")

/-- The shape in which one alternative of a oneof is allowed and all others are not. -/
def variantShape (alternatives : List (Nat × Field)) (chosen : Nat) : List String :=
  ["\x7b"] ++
    alternatives.map (fun (position, field) =>
      let type := if position = chosen then field.propertyType else "never"
      s!"    {field.name}?: {type};") ++
    ["\x7d"]

/-- The union of the shapes of the alternatives of a oneof. -/
def oneofShape (decl : MessageClass) (oneof : Oneof) : List String :=
  let alternatives := decl.alternatives oneof
  let variants := alternatives.map fun (position, _) => variantShape alternatives position
  Text.inline ([["("]] ++ variants.intersperse [" | "] ++ [[")"]])

/-- The type of the constructor's argument: the fields outside all oneofs, and for each oneof one of
its alternatives at most. -/
def dataShape (decl : MessageClass) : List String :=
  let plain := shapeOf (decl.plainFields.map fun field => s!"{field.name}?: {field.propertyType};")
  if decl.oneofs.isEmpty then plain
  else
    Text.inline
      ([["("], plain, [" & ("]] ++ (decl.oneofs.map decl.oneofShape).intersperse [" & "] ++ [["))"]])

/-! ### Parts of the class -/

/-- The row of a field in the table of the class. -/
def tableRow (row : FieldRow) : List String :=
  let name := Text.literal row.name
  let kind := Text.literal row.kind.name
  let repeated := Text.boolLiteral row.repeated
  let isMap := Text.boolLiteral row.isMap
  let packed := Text.boolLiteral row.packed
  [s!"        \x7b no: {row.number}, name: {name}, kind: {kind}, wire: {row.wireType}, " ++
    s!"repeated: {repeated}, map: {isMap}, packed: {packed} \x7d"]

/-- The head of the class with the table of its fields. -/
def headLines (decl : MessageClass) : List String :=
  let groups := Text.arrayLiteral (decl.oneofNumbers.map Text.intArray)
  [s!"export class {decl.name} extends {decl.runtime}.Message \x7b",
   s!"    #one_of_decls: number[][] = {groups};",
   "    static readonly fields = ["] ++
  Text.punctuate (decl.fieldTable.map tableRow) ++
  ["    ] as const;"]

/-- The lines of the constructor that take over a field. -/
def assignLines (field : Field) : List String :=
  let name := field.name
  let key := Text.literal name
  [s!"            if ({key} in data && data.{name} != undefined) \x7b",
   s!"                this.{name} = data.{name};",
   "            \x7d"]

/-- The lines of the constructor that make sure that a map field is set. -/
def ensureMapLines (field : Field) : List String :=
  [s!"        if (!this.{field.name})",
   s!"            this.{field.name} = new Map();"]

def constructorLines (decl : MessageClass) : List String :=
  let repeated := Text.intArray decl.repeatedNumbers
  Text.hang 4 "    constructor(data?: any[] | " ") \x7b" decl.dataShape ++
  ["        super();",
   s!"        {decl.runtime}.Message.initialize(this, Array.isArray(data) ? data : [], 0, -1, " ++
     s!"{repeated}, this.#one_of_decls);",
   "        if (!Array.isArray(data) && typeof data == \"object\") \x7b"] ++
  decl.members.flatMap assignLines ++
  ["        \x7d"] ++
  (decl.members.filter (·.isMap)).flatMap ensureMapLines ++
  ["    \x7d"]

def accessorLines (pb : String) (field : Field) : List String :=
  let name := field.name
  [s!"    get {name}() \x7b",
   s!"        return {field.getter pb};",
   "    \x7d",
   s!"    set {name}(value: {field.propertyType}) \x7b",
   s!"        {field.setter pb};",
   "    \x7d"] ++
  if field.presence then
    [s!"    get has_{name}() \x7b",
     s!"        return {pb}.Message.getField(this, {field.number}) != null;",
     "    \x7d"]
  else []

/-- The getter that tells which alternative of a oneof is set. -/
def caseLines (decl : MessageClass) (oneof : Oneof) : List String :=
  let fields := (decl.alternatives oneof).map Prod.snd
  let choices := String.join (fields.map fun field => " | " ++ Text.literal field.name)
  let comma := if fields.isEmpty then "" else ","
  let numbers := Text.intArray (decl.numbers oneof)
  [s!"    get {oneof.name}() \x7b",
   "        const cases: \x7b",
   s!"            [index: number]: \"none\"{choices};",
   "        \x7d = \x7b",
   s!"            0: \"none\"{comma}"] ++
  Text.punctuate (fields.map fun field =>
    let name := Text.literal field.name
    [s!"            {field.number}: {name}"]) ++
  ["        \x7d;",
   s!"        return cases[{decl.runtime}.Message.computeOneofCase(this, {numbers})];",
   "    \x7d"]

def fromObjectLines (decl : MessageClass) : List String :=
  Text.hang 4 "    static fromObject(data: " s!"): {decl.name} \x7b" decl.objectShape ++
  [s!"        const message = new {decl.name}(\x7b\x7d);"] ++
  decl.members.flatMap (fun field => Text.indent 8 field.fromObject) ++
  ["        return message;",
   "    \x7d"]

def toObjectLines (decl : MessageClass) : List String :=
  ["    toObject() \x7b"] ++
  Text.hang 8 "        const data: " " = \x7b\x7d;" decl.objectShape ++
  decl.members.flatMap (fun field => Text.indent 8 field.toObject) ++
  ["        return data;",
   "    \x7d"]

def serializeLines (decl : MessageClass) : List String :=
  let pb := decl.runtime
  ["    serialize(): Uint8Array;",
   s!"    serialize(w: {pb}.BinaryWriter): void;",
   s!"    serialize(w?: {pb}.BinaryWriter): Uint8Array | void \x7b",
   s!"        const writer = w || new {pb}.BinaryWriter();"] ++
  decl.members.flatMap (fun field => Text.indent 8 field.write) ++
  ["        if (!w)",
   "            return writer.getResultBuffer();",
   "    \x7d"]

/-- The case of the reading loop for a field. -/
def readCaseLines (pb : String) (field : Field) : List String :=
  [s!"                case {field.number}:"] ++
  Text.indent 20 (field.read pb) ++
  ["                    break;"]

def deserializeLines (decl : MessageClass) : List String :=
  let pb := decl.runtime
  let name := decl.name
  [s!"    static deserialize(bytes: Uint8Array | {pb}.BinaryReader): {name} \x7b",
   s!"        const reader = bytes instanceof {pb}.BinaryReader ? bytes : " ++
     s!"new {pb}.BinaryReader(bytes), message = new {name}();",
   "        while (reader.nextField()) \x7b",
   "            if (reader.isEndGroup())",
   "                break;",
   "            switch (reader.getFieldNumber()) \x7b"] ++
  decl.members.flatMap (readCaseLines pb) ++
  ["                default: reader.skipField();",
   "            \x7d",
   "        \x7d",
   "        return message;",
   "    \x7d"]

/-- The conversions under the names that the runtime expects. -/
def binaryLines (decl : MessageClass) : List String :=
  ["    serializeBinary(): Uint8Array \x7b",
   "        return this.serialize();",
   "    \x7d",
   s!"    static deserializeBinary(bytes: Uint8Array): {decl.name} \x7b",
   s!"        return {decl.name}.deserialize(bytes);",
   "    \x7d"]

def lines (decl : MessageClass) : List String :=
  decl.headLines ++
  decl.constructorLines ++
  decl.members.flatMap (accessorLines decl.runtime) ++
  decl.oneofs.flatMap decl.caseLines ++
  decl.fromObjectLines ++
  decl.toObjectLines ++
  decl.serializeLines ++
  decl.deserializeLines ++
  decl.binaryLines ++
  ["\x7d"]

end Typewire.Code.MessageClass
