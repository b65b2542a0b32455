import Typewire.Schema.Kind

/-!
# Declarations of the generated code

Plain data between the schema and the text: what a generated file declares, with every name and every
type reference already spelled out.
-/
namespace Typewire.Code

/-- An imported module and the name it goes by. -/
structure Import where
  name : String
  module : String
  deriving Repr, DecidableEq, Inhabited

structure EnumMember where
  name : String
  value : Int
  deriving Repr, DecidableEq, Inhabited

structure Field where
  name : String
  number : Int
  kind : Kind
  /-- The type of an element. -/
  typeRef : String
  /-- The value of an unset field, as an expression. -/
  initial : String
  repeated : Bool := false
  packed : Bool := false
  /-- Whether the class has a getter that tells if the field is set. -/
  presence : Bool := false
  /-- The key of a map field. -/
  key : Option Field := none
  /-- The value of a map field. -/
  value : Option Field := none
  /-- The name of the oneof that the field belongs to. -/
  oneof : Option String := none
  /-- The position of that oneof in the class. -/
  oneofGroup : Option Int := none
  deriving Repr, Inhabited

/-- What the table of a class tells of a field. -/
structure FieldRow where
  number : Int
  name : String
  kind : Kind
  wireType : Nat
  repeated : Bool
  isMap : Bool
  packed : Bool
  deriving Repr, DecidableEq, Inhabited

namespace Field

def isMap (field : Field) : Bool :=
  field.value.isSome

/-- Whether the values are objects of a message class. -/
def isMessage (field : Field) : Bool :=
  field.kind.isMessage

/-- The wire type under which the field is written. -/
def wireType (field : Field) : Nat :=
  if field.isMap || field.packed then 2 else field.kind.wireType

def row (field : Field) : FieldRow :=
  { number := field.number
    name := field.name
    kind := field.kind
    wireType := field.wireType
    repeated := field.repeated
    isMap := field.isMap
    packed := field.packed }

/-- The parts of the entries of a map field. -/
def entry? (field : Field) : Option (Field × Field) :=
  match field.key, field.value with
  | some key, some value => some (key, value)
  | _, _ => none

def propertyType (field : Field) : String :=
  match field.entry? with
  | some (key, value) => "Map<" ++ key.typeRef ++ ", " ++ value.typeRef ++ ">"
  | none => if field.repeated then field.typeRef ++ "[]" else field.typeRef

end Field

/-- A oneof of a class: its alternatives are positions among the fields. -/
structure Oneof where
  name : String
  alternatives : List Nat
  deriving Repr, DecidableEq, Inhabited

structure MessageClass where
  name : String
  fullName : String
  /-- The name of the message runtime. -/
  runtime : String
  /-- All fields in the order of declaration. -/
  members : List Field := []
  oneofs : List Oneof := []
  deriving Repr, Inhabited

namespace MessageClass

/-- The fields outside all oneofs. -/
def plainFields (decl : MessageClass) : List Field :=
  decl.members.filter fun member => member.oneof.isNone

def fieldTable (decl : MessageClass) : List FieldRow :=
  decl.members.map Field.row

/-- The alternatives of a oneof, each with its position. -/
def alternatives (decl : MessageClass) (oneof : Oneof) : List (Nat × Field) :=
  oneof.alternatives.filterMap fun position =>
    (decl.members[position]?).map fun member => (position, member)

def numbers (decl : MessageClass) (oneof : Oneof) : List Int :=
  (decl.alternatives oneof).map fun alternative => alternative.2.number

def oneofNumbers (decl : MessageClass) : List (List Int) :=
  decl.oneofs.map decl.numbers

def repeatedNumbers (decl : MessageClass) : List Int :=
  (decl.members.filter fun member => member.repeated && !member.isMap).map (·.number)

end MessageClass

/-- Which sides of a method stream. -/
inductive MethodShape where
  | unary
  | serverStreaming
  | clientStreaming
  | bidiStreaming
  deriving Repr, DecidableEq, Inhabited

namespace MethodShape

def all : List MethodShape :=
  [unary, serverStreaming, clientStreaming, bidiStreaming]

def ofStreams (client server : Bool) : MethodShape :=
  match client, server with
  | false, false => unary
  | false, true => serverStreaming
  | true, false => clientStreaming
  | true, true => bidiStreaming

def words : MethodShape → String
  | unary => "unary"
  | serverStreaming => "server streaming"
  | clientStreaming => "client streaming"
  | bidiStreaming => "bidi streaming"

end MethodShape

/-- A method of a service with its types spelled out. -/
structure Method where
  name : String
  /-- The path under which the method is called. -/
  path : String
  inputType : String
  outputType : String
  clientStreaming : Bool := false
  serverStreaming : Bool := false
  deriving Repr, DecidableEq, Inhabited

def Method.shape (method : Method) : MethodShape :=
  MethodShape.ofStreams method.clientStreaming method.serverStreaming

/-- The names of the call interfaces, one for each shape. -/
structure CallInterfaces where
  unary : String
  serverStreaming : String
  clientStreaming : String
  bidiStreaming : String
  deriving Repr, DecidableEq, Inhabited

def CallInterfaces.get (interfaces : CallInterfaces) : MethodShape → String
  | .unary => interfaces.unary
  | .serverStreaming => interfaces.serverStreaming
  | .clientStreaming => interfaces.clientStreaming
  | .bidiStreaming => interfaces.bidiStreaming

structure ServiceClass where
  name : String
  serviceName : String
  /-- The name of the RPC framework. -/
  rpc : String
  methods : List Method := []
  deriving Repr, DecidableEq, Inhabited

/-- A declaration of a generated file. -/
inductive Declaration where
  | enumeration (name : String) (members : List EnumMember)
  | messageClass (decl : MessageClass)
  | namespaced (name : String) (body : List Declaration)
  /-- A second name for a type. -/
  | secondName (name target : String)
  | callInterface (name : String) (shape : MethodShape) (rpc : String)
  /-- The abstract server of a service for `@grpc/grpc-js`. -/
  | nodeServer (decl : ServiceClass)
  /-- The client of a service for `@grpc/grpc-js`. -/
  | nodeClient (decl : ServiceClass) (serverName : String) (interfaces : CallInterfaces)
  /-- The client of a service for `grpc-web`. -/
  | webClient (decl : ServiceClass)
  deriving Repr, Inhabited

/-- A generated file before it is written out. -/
structure Source where
  /-- The schema file it was made from. -/
  schemaFile : String
  compilerVersion : String
  imports : List Import
  body : List Declaration
  deriving Repr, Inhabited

end Typewire.Code
