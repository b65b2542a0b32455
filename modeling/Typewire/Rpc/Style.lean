import Typewire.Options
import Typewire.Schema.Basic

/-!
# RPC styles

A style decides what is generated for services. Everything is optional: a style that lacks a
capability generates nothing for it.
-/
namespace Typewire

/-- A target framework for services. -/
inductive Style where
  /-- Clients and abstract servers for `@grpc/grpc-js`. -/
  | node
  /-- Clients for `grpc-web`. -/
  | web
  /-- No services at all. -/
  | typesOnly
  deriving Repr, DecidableEq, Inhabited

/-- Something that a style may generate. -/
inductive Capability where
  | serviceClient
  | unimplementedServer
  | sharedInterfaceTypes
  | namespaceWrapping
  deriving Repr, DecidableEq, Inhabited

namespace Capability

def all : List Capability :=
  [serviceClient, unimplementedServer, sharedInterfaceTypes, namespaceWrapping]

def label : Capability → String
  | serviceClient => "service_client"
  | unimplementedServer => "unimplemented_server"
  | sharedInterfaceTypes => "shared_interface_types"
  | namespaceWrapping => "wraps_output_in_namespace"

end Capability

namespace Style

def all : List Style :=
  [node, web, typesOnly]

def name : Style → String
  | node => "grpc-js"
  | web => "grpc-web"
  | typesOnly => "none"

def description : Style → String
  | node => "Client and abstract server for @grpc/grpc-js"
  | web => "Promise and stream client for grpc-web"
  | typesOnly => "Messages and enums only"

/-- The module of the RPC framework when the options choose none. -/
def defaultPackage : Style → String
  | node => "@grpc/grpc-js"
  | web => "grpc-web"
  | typesOnly => "@grpc/grpc-js"

def capabilities : Style → List Capability
  | node => Capability.all
  | web => [.serviceClient]
  | typesOnly => []

def ofName? (name : String) : Option Style :=
  all.find? fun style => style.name = name

/-- The style of a name that must exist. -/
def select (name : String) : Except Error Style :=
  if name = "" then .error .noStyleSelected
  else
    match ofName? name with
    | some style => .ok style
    | none => .error (.unknownStyle name)

/-- Whether the output of a file is wrapped in the namespace of its package. -/
def wraps (style : Style) (file : Schema.File) : Bool :=
  style == .node && file.package?.isSome

/-- The module of the RPC framework. -/
def package (style : Style) (options : Options) : String :=
  options.grpcPackage.getD style.defaultPackage

end Style

end Typewire
