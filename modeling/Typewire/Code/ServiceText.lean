import Typewire.Code.Declaration
import Typewire.Text.Lines
import Typewire.Text.Literal

/-!
# The code of service classes

The call interfaces, the abstract server and the client for `@grpc/grpc-js`, and the client for
`grpc-web`. `grpc` is the name of the RPC framework.
-/
namespace Typewire.Code

/-- The interface of calls of one shape. -/
def callInterfaceLines (name : String) (shape : MethodShape) (grpc : String) : List String :=
  let callback := s!"callback: {grpc}.requestCallback<R>"
  let signatures :=
    match shape with
    | .unary =>
      [s!"    (message: P, metadata: {grpc}.Metadata, options: {grpc}.CallOptions, {callback}): " ++
         s!"{grpc}.ClientUnaryCall;",
       s!"    (message: P, metadata: {grpc}.Metadata, {callback}): {grpc}.ClientUnaryCall;",
       s!"    (message: P, options: {grpc}.CallOptions, {callback}): {grpc}.ClientUnaryCall;",
       s!"    (message: P, {callback}): {grpc}.ClientUnaryCall;"]
    | .serverStreaming =>
      [s!"    (message: P, metadata: {grpc}.Metadata, options?: {grpc}.CallOptions): " ++
         s!"{grpc}.ClientReadableStream<R>;",
       s!"    (message: P, options?: {grpc}.CallOptions): {grpc}.ClientReadableStream<R>;"]
    | .clientStreaming =>
      [s!"    (metadata: {grpc}.Metadata, options: {grpc}.CallOptions, {callback}): " ++
         s!"{grpc}.ClientWritableStream<P>;",
       s!"    (metadata: {grpc}.Metadata, {callback}): {grpc}.ClientWritableStream<P>;",
       s!"    (options: {grpc}.CallOptions, {callback}): {grpc}.ClientWritableStream<P>;",
       s!"    ({callback}): {grpc}.ClientWritableStream<P>;"]
    | .bidiStreaming =>
      [s!"    (metadata: {grpc}.Metadata, options?: {grpc}.CallOptions): " ++
         s!"{grpc}.ClientDuplexStream<P, R>;",
       s!"    (options?: {grpc}.CallOptions): {grpc}.ClientDuplexStream<P, R>;"]
  [s!"interface {name}<P, R> \x7b"] ++ signatures ++ ["\x7d"]

/-! ### Server -/

/-- The definition of a method: its path and how its messages become bytes. -/
def definitionLines (method : Method) : List String :=
  let input := method.inputType
  let output := method.outputType
  let path := Text.literal method.path
  let requestStream := Text.boolLiteral method.clientStreaming
  let responseStream := Text.boolLiteral method.serverStreaming
  [s!"        {method.name}: \x7b",
   s!"            path: {path},",
   s!"            requestStream: {requestStream},",
   s!"            responseStream: {responseStream},",
   s!"            requestSerialize: (message: {input}) => Buffer.from(message.serialize()),",
   "            requestDeserialize: (bytes: Buffer) => " ++
     s!"{input}.deserialize(new Uint8Array(bytes)),",
   s!"            responseSerialize: (message: {output}) => Buffer.from(message.serialize()),",
   "            responseDeserialize: (bytes: Buffer) => " ++
     s!"{output}.deserialize(new Uint8Array(bytes))",
   "        \x7d"]

/-- The handler that a server must provide for a method. -/
def handlerLine (grpc : String) (method : Method) : String :=
  let types := s!"{method.inputType}, {method.outputType}"
  let callback := s!", callback: {grpc}.sendUnaryData<{method.outputType}>"
  match method.shape with
  | .unary =>
    s!"    abstract {method.name}(call: {grpc}.ServerUnaryCall<{types}>{callback}): void;"
  | .serverStreaming =>
    s!"    abstract {method.name}(call: {grpc}.ServerWritableStream<{types}>): void;"
  | .clientStreaming =>
    s!"    abstract {method.name}(call: {grpc}.ServerReadableStream<{types}>{callback}): void;"
  | .bidiStreaming =>
    s!"    abstract {method.name}(call: {grpc}.ServerDuplexStream<{types}>): void;"

def nodeServerLines (decl : ServiceClass) : List String :=
  [s!"export abstract class {decl.name} \x7b",
   "    static definition = \x7b"] ++
  Text.punctuate (decl.methods.map definitionLines) ++
  ["    \x7d;",
   s!"    [method: string]: {decl.rpc}.UntypedHandleCall;"] ++
  decl.methods.map (handlerLine decl.rpc) ++
  ["\x7d"]

/-! ### Client for `@grpc/grpc-js` -/

def nodeCallLines (grpc : String) (interfaces : CallInterfaces) (method : Method) : List String :=
  let name := method.name
  let input := method.inputType
  let output := method.outputType
  let callback := s!"{grpc}.requestCallback<{output}>"
  let options := s!"{grpc}.Metadata | {grpc}.CallOptions"
  let interface := interfaces.get method.shape
  let call :=
    match method.shape with
    | .unary =>
      [s!"        message: {input}, metadata: {options} | {callback}, " ++
         s!"options?: {grpc}.CallOptions | {callback}, callback?: {callback}): " ++
         s!"{grpc}.ClientUnaryCall => \x7b",
       s!"        return super.{name}(message, metadata, options, callback);"]
    | .serverStreaming =>
      [s!"        message: {input}, metadata?: {options}, options?: {grpc}.CallOptions): " ++
         s!"{grpc}.ClientReadableStream<{output}> => \x7b",
       s!"        return super.{name}(message, metadata, options);"]
    | .clientStreaming =>
      [s!"        metadata: {options} | {callback}, options?: {grpc}.CallOptions | {callback}, " ++
         s!"callback?: {callback}): {grpc}.ClientWritableStream<{input}> => \x7b",
       s!"        return super.{name}(metadata, options, callback);"]
    | .bidiStreaming =>
      [s!"        metadata?: {options}, options?: {grpc}.CallOptions): " ++
         s!"{grpc}.ClientDuplexStream<{input}, {output}> => \x7b",
       s!"        return super.{name}(metadata, options);"]
  [s!"    {name}: {interface}<{input}, {output}> = ("] ++ call ++ ["    \x7d;"]

def nodeClientLines (decl : ServiceClass) (serverName : String) (interfaces : CallInterfaces) :
    List String :=
  let grpc := decl.rpc
  let service := Text.literal decl.serviceName
  [s!"export class {decl.name} extends {grpc}.makeGenericClientConstructor(" ++
     s!"{serverName}.definition, {service}, \x7b\x7d) \x7b",
   s!"    constructor(address: string, credentials: {grpc}.ChannelCredentials, " ++
     s!"options?: Partial<{grpc}.ChannelOptions>) \x7b",
   "        super(address, credentials, options);",
   "    \x7d"] ++
  decl.methods.flatMap (nodeCallLines grpc interfaces) ++
  ["\x7d"]

/-! ### Client for `grpc-web` -/

/-- The descriptor and the call of one method. -/
def webCallLines (className grpc : String) (method : Method) : List String :=
  let name := method.name
  let input := method.inputType
  let output := method.outputType
  let path := Text.literal method.path
  let isUnary := method.shape = .unary
  let methodType := if isUnary then "UNARY" else "SERVER_STREAMING"
  let result :=
    if isUnary then s!"Promise<{output}>" else s!"{grpc}.ClientReadableStream<{output}>"
  let call := if isUnary then "thenableCall" else "serverStreaming"
  [s!"    private static readonly methodDescriptor{name} = new {grpc}.MethodDescriptor({path}, " ++
     s!"{grpc}.MethodType.{methodType}, {input}, {output}, " ++
     s!"(message: {input}) => message.serialize(), {output}.deserialize);",
   s!"    {name}(request: {input}, metadata?: {grpc}.Metadata | null): {result} \x7b",
   s!"        return this.client_.{call}(this.hostname_ + {path}, request, metadata ?? \x7b\x7d, " ++
     s!"{className}.methodDescriptor{name});",
   "    \x7d"]

def webClientLines (decl : ServiceClass) : List String :=
  let grpc := decl.rpc
  [s!"export class {decl.name} \x7b",
   s!"    private client_: {grpc}.GrpcWebClientBase;",
   "    private hostname_: string;",
   "    constructor(hostname: string, credentials?: null | \x7b [index: string]: string \x7d, " ++
     s!"options?: {grpc}.GrpcWebClientBaseOptions) \x7b",
   s!"        this.client_ = new {grpc}.GrpcWebClientBase(options ?? \x7b\x7d);",
   "        this.hostname_ = hostname.replace(/\\/+$/, \"\");",
   "    \x7d"] ++
  decl.methods.flatMap (webCallLines decl.name grpc) ++
  ["\x7d"]

end Typewire.Code
