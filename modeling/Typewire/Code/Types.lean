import Typewire.Code.Declaration
import Typewire.Symbol.Context
import Typewire.Text.Literal

/-!
# Classes and enumerations of a schema

Every message becomes a class, followed by a namespace with the types nested in it; every enumeration
becomes an enumeration. Map entries become nothing.

Spelling a reference may use the second name of a root. These uses are recorded as they happen, also
when a later step fails, and the file declares exactly the second names that were used.
-/
namespace Typewire.Code

/-- The second names used so far, each with the root it stands for. -/
abbrev RootUses := OrderedMap String String

/-- Building declarations: it may fail, and it records the second names it uses. -/
abbrev Building := ExceptT Error (StateM RootUses)

/-- Spells a reference and records its use of a second name. -/
def qualify (context : Context) (typeName scope : String) : Building String := do
  let reference ← context.reference typeName scope
  if let .throughRoot name root _ := reference then
    modify fun uses => uses.put name root
  return reference.text

/-! ### Default values -/

/-- The default of a scalar that declares none. -/
def zeroValue : Kind → String
  | .bool => "false"
  | .string => "\"\""
  | .bytes => "new Uint8Array(0)"
  | _ => "0"

/-- The bytes of a text of one-byte characters; any other character becomes a question mark. -/
def textBytes (text : String) : List Int :=
  text.toList.map fun c => if c.toNat < 256 then (c.toNat : Int) else 63

/-- The default that a scalar declares, as an expression. -/
def declaredValue (kind : Kind) (text : String) : String :=
  match kind with
  | .string => Text.literal text
  | .bytes => "new Uint8Array(" ++ Text.intArray (textBytes text) ++ ")"
  | .bool => if text = "true" then "true" else "false"
  | _ =>
    if text = "inf" then "Infinity"
    else if text = "-inf" then "-Infinity"
    else if text = "nan" then "NaN"
    else text

def scalarInitial (kind : Kind) (declared : Option String) : String :=
  match declared with
  | some text => declaredValue kind text
  | none => zeroValue kind

/-- The value of an unset enumeration field: the declared constant, or else the first one. -/
def enumInitial (typeRef : String) (declared first : Option String) : String :=
  match (declared.filter (· ≠ "")).or (first.filter (· ≠ "")) with
  | some member => typeRef ++ "." ++ member
  | none => "0"

/-! ### Fields -/

/-- Whether the class can tell if a field is set. -/
def hasPresence (field : Schema.Field) : Bool :=
  !field.isRepeated &&
    (field.kind.isMessage || field.cardinality == .oneof || field.isOptional ||
      field.explicitPresence)

/-- The element type of a field and the value of an unset single one. -/
def elementType (context : Context) (scope : String) (field : Schema.Field) :
    Building (String × String) :=
  match field.kind.scalarType? with
  | some typeRef => return (typeRef, scalarInitial field.kind field.defaultValue)
  | none =>
    match field.typeName with
    | none => throw (.missingTypeName field.name field.kind)
    | some typeName => do
      let typeRef ← qualify context typeName scope
      if field.kind = .enum then
        let symbol ← context.symbol typeName
        return (typeRef, enumInitial typeRef field.defaultValue symbol.firstMember?)
      else
        return (typeRef, "undefined")

/-- A field of a class that is declared in a scope. -/
def buildField (context : Context) (scope : String) : Schema.Field → Building Field
  | { name, number, kind, mapKey := some mapKey, mapValue := some mapValue, .. } => do
    let key ← buildField context scope mapKey
    let value ← buildField context scope mapValue
    return {
      name := Name.memberName name
      number
      kind
      typeRef := value.typeRef
      initial := "new Map()"
      repeated := true
      key := some key
      value := some value }
  | field => do
    let (typeRef, initial) ← elementType context scope field
    return {
      name := Name.memberName field.name
      number := field.number
      kind := field.kind
      typeRef
      initial := if field.isRepeated then "[]" else initial
      repeated := field.isRepeated
      packed := field.packed
      presence := hasPresence field }

/-! ### Oneofs -/

/-- The oneofs of a message that become groups of its class. -/
def declaredOneofs (oneofs : List Schema.Oneof) : List Schema.Oneof :=
  oneofs.filter (!·.synthetic)

/-- The group of a class that a position among the oneofs of its message belongs to. -/
def groupOf? (oneofs : List Schema.Oneof) (position : Nat) : Option (Nat × Schema.Oneof) :=
  match oneofs[position]? with
  | none => none
  | some oneof =>
    if oneof.synthetic then none
    else some ((declaredOneofs (oneofs.take position)).length, oneof)

/-- A field as a member of the group that its oneof became, if any. -/
def joinGroup (fullName : String) (oneofs : List Schema.Oneof) (field : Schema.Field)
    (member : Field) : Except Error Field :=
  match field.oneofIndex with
  | none => .ok member
  | some index =>
    if index < 0 ∨ (oneofs.length : Int) ≤ index then
      .error (.oneofOutOfRange (Schema.fullName fullName field.name) index oneofs.length)
    else
      match groupOf? oneofs index.toNat with
      | none => .ok member
      | some (group, oneof) =>
        .ok { member with oneof := some (Name.memberName oneof.name), oneofGroup := some group }

def membersOf (members : List Field) (group : Nat) : List Nat :=
  (members.zipIdx.filter fun member => member.1.oneofGroup == some (group : Int)).map Prod.snd

def oneofGroups (oneofs : List Schema.Oneof) (members : List Field) : List Oneof :=
  (declaredOneofs oneofs).mapIdx fun group oneof =>
    { name := Name.memberName oneof.name, alternatives := membersOf members group }

/-! ### Types -/

def buildEnum (context : Context) (scope : String) (enum : Schema.Enum) :
    Except Error Declaration := do
  let symbol ← context.symbol (Schema.fullName scope enum.name)
  return .enumeration symbol.declaredName
    (enum.values.map fun value => { name := value.name, value := value.number })

def buildEnums (context : Context) (scope : String) (enums : List Schema.Enum) :
    Except Error (List Declaration) :=
  enums.mapM (buildEnum context scope)

/-- A member of a class: the field, then its place in a oneof. -/
def buildMember (context : Context) (scope fullName : String) (oneofs : List Schema.Oneof)
    (field : Schema.Field) : Building Field := do
  let member ← buildField context scope field
  joinGroup fullName oneofs field member

mutual

/-- The class of a message, and the namespace of the types nested in it if there are any. -/
def buildMessage (context : Context) (scope : String) :
    Schema.Message → Building (List Declaration)
  | ⟨name, fields, nestedMessages, nestedEnums, oneofs, mapEntry⟩ =>
    if mapEntry then return []
    else do
      let fullName := Schema.fullName scope name
      let symbol ← context.symbol fullName
      let enums ← buildEnums context fullName nestedEnums
      let messages ← buildMessages context fullName nestedMessages
      let members ← fields.mapM (buildMember context scope fullName oneofs)
      let decl : Declaration := .messageClass {
        name := symbol.declaredName
        fullName
        runtime := context.imports.runtime
        members
        oneofs := oneofGroups oneofs members }
      let nested := enums ++ messages
      return if nested.isEmpty then [decl] else [decl, .namespaced symbol.declaredName nested]

def buildMessages (context : Context) (scope : String) :
    List Schema.Message → Building (List Declaration)
  | [] => return []
  | message :: messages => do
    let first ← buildMessage context scope message
    let others ← buildMessages context scope messages
    return first ++ others

end

def buildTypes (context : Context) : Building (List Declaration) := do
  let enums ← buildEnums context context.file.scope context.file.enums
  let messages ← buildMessages context context.file.scope context.file.messages
  return enums ++ messages

end Typewire.Code
