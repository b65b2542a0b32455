import Typewire.Code.Declaration
import Typewire.Rpc.Style
import Typewire.Symbol.Context

/-!
# Classes for services

Servers, clients and call interfaces are declared at the top of the generated file, next to the types.
Each has a key, and the same key always gets the same name within one file; so a client can name the
server of its service without regard to which of them comes first.
-/
namespace Typewire.Rpc

open Code

/-- A method that a style leaves out. -/
structure Warning where
  /-- The path of the method. -/
  path : String
  /-- The shape that the style does not support. -/
  shape : MethodShape
  deriving Repr, DecidableEq

def Warning.message (warning : Warning) : String :=
  "Skipping " ++ warning.path ++ ": grpc-web does not support " ++ warning.shape.words ++ " methods"

/-- The names declared for services so far, by key, and the warnings given on the way. -/
structure Naming where
  pool : NamePool
  declared : OrderedMap String String := []
  warnings : List Warning := []
  deriving Repr, Inhabited

namespace Naming

/-- The key of a declaration: the name itself when the key is empty. -/
def keyFor (name key : String) : String :=
  if key = "" then name else key

/-- The name declared under a key, claimed on first use. -/
def declare (naming : Naming) (name key : String) : String × Naming :=
  match naming.declared.get? (keyFor name key) with
  | some given => (given, naming)
  | none =>
    let (given, pool) := naming.pool.claim name
    (given, { naming with pool, declared := naming.declared.put (keyFor name key) given })

end Naming

/-- A step that may fail, declares names and gives warnings. -/
abbrev Declaring := ExceptT Error (StateM Naming)

/-- The name declared under a key. -/
def declare (name key : String) : Declaring String :=
  modifyGet fun naming => naming.declare name key

/-- Notes that methods were left out. -/
def warn (warnings : List Warning) : Declaring Unit :=
  modify fun naming => { naming with warnings := naming.warnings ++ warnings }

/-! ### Methods -/

/-- The name of a service in the paths of its methods. -/
def servicePath (file : Schema.File) (service : Schema.Service) : String :=
  match file.package? with
  | some package => package ++ "." ++ service.name
  | none => service.name

/-- A method with its types spelled as at the top of the file. -/
def spellMethod (context : Context) (path : String) (method : Schema.Method) :
    Except Error Method := do
  let input ← context.reference method.inputType ""
  let output ← context.reference method.outputType ""
  return {
    name := method.name
    path := "/" ++ path ++ "/" ++ method.name
    inputType := input.text
    outputType := output.text
    clientStreaming := method.clientStreaming
    serverStreaming := method.serverStreaming }

def spellMethods (context : Context) (service : Schema.Service) : Except Error (List Method) :=
  service.methods.mapM (spellMethod context (servicePath context.file service))

/-! ### Names -/

def serverName (service : Schema.Service) : Declaring String :=
  declare ("Unimplemented" ++ service.name ++ "Service") ("server:" ++ service.name)

def clientName (service : Schema.Service) : Declaring String :=
  declare (service.name ++ "Client") ("client:" ++ service.name)

/-- The names that the call interfaces have unless they are taken. -/
def preferredInterfaces : CallInterfaces :=
  { unary := "GrpcUnaryServiceInterface"
    serverStreaming := "GrpcStreamServiceInterface"
    clientStreaming := "GrpcWritableServiceInterface"
    bidiStreaming := "GrpcChunkServiceInterface" }

def interfaceNames : Declaring CallInterfaces := do
  let unary ← declare preferredInterfaces.unary ""
  let serverStreaming ← declare preferredInterfaces.serverStreaming ""
  let clientStreaming ← declare preferredInterfaces.clientStreaming ""
  let bidiStreaming ← declare preferredInterfaces.bidiStreaming ""
  return { unary, serverStreaming, clientStreaming, bidiStreaming }

/-! ### Declarations -/

/-- What a style declares once in a file, whatever its services. -/
def sharedTypes (style : Style) (context : Context) : Declaring (List Declaration) :=
  match style with
  | .node => do
    let interfaces ← interfaceNames
    return MethodShape.all.map fun shape =>
      .callInterface (interfaces.get shape) shape context.imports.rpc
  | .web | .typesOnly => return []

def server? (style : Style) (context : Context) (service : Schema.Service) :
    Declaring (Option Declaration) :=
  match style with
  | .node => do
    let name ← serverName service
    let methods ← spellMethods context service
    return some (.nodeServer {
      name, serviceName := service.name, rpc := context.imports.rpc, methods })
  | .web | .typesOnly => return none

/-- The client of a service for `@grpc/grpc-js`. -/
def nodeClient (context : Context) (service : Schema.Service) : Declaring Declaration := do
  let name ← clientName service
  let methods ← spellMethods context service
  let server ← serverName service
  let interfaces ← interfaceNames
  return .nodeClient
    { name, serviceName := service.name, rpc := context.imports.rpc, methods } server interfaces

/-- Whether `grpc-web` supports a shape. -/
def isWebShape (shape : MethodShape) : Bool :=
  shape == .unary || shape == .serverStreaming

/-- The client of a service for `grpc-web`. Methods of other shapes are left out with a warning. -/
def webClient (context : Context) (service : Schema.Service) : Declaring Declaration := do
  let methods ← spellMethods context service
  let (supported, others) := methods.partition fun method => isWebShape method.shape
  warn (others.map fun method => { path := method.path, shape := method.shape })
  let name ← clientName service
  return .webClient {
    name, serviceName := service.name, rpc := context.imports.rpc, methods := supported }

def client? (style : Style) (context : Context) (service : Schema.Service) :
    Declaring (Option Declaration) :=
  match style with
  | .node => do return some (← nodeClient context service)
  | .web => do return some (← webClient context service)
  | .typesOnly => return none

/-- Everything that is declared for services: the shared types, then for each service the server and
the client. -/
def declareServices (style : Style) (context : Context) : Declaring (List Declaration) := do
  let shared ← sharedTypes style context
  let classes ← context.file.services.mapM fun service => do
    let server ← server? style context service
    let client ← client? style context service
    return server.toList ++ client.toList
  return shared ++ classes.flatten

end Typewire.Rpc
