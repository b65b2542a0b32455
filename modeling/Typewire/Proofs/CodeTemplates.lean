import Typewire.Code.Render
import Typewire.Proofs.ClassTemplates

/-!
# Templates of whole files

The code of services, enumerations and namespaces keeps to every discipline that the names in it keep to, and so
does the code of any list of declarations. Paths of methods and names of services are written as literals, so
nothing is required of them.
-/
namespace Typewire.Code

open Text (Discipline Fits FitsBlock)

variable {P : String → Prop} {Q : List String → Prop} {grpc : String}

/-! ### Services -/

/-- What a method carries into the code has a property: its name and its types. -/
structure Method.Carries (P : String → Prop) (method : Method) : Prop where
  name : P method.name
  inputType : P method.inputType
  outputType : P method.outputType

/-- What the class of a service carries into the code has a property: its name, that of the RPC framework, and
what its methods carry. -/
structure ServiceClass.Carries (P : String → Prop) (decl : ServiceClass) : Prop where
  name : P decl.name
  rpc : P decl.rpc
  methods : ∀ method ∈ decl.methods, method.Carries P

section Services

variable {method : Method} {decl : ServiceClass} (rules : Discipline P Q)

include rules

theorem callInterfaceLines_kept {name : String} (ofName : P name) (shape : MethodShape) (rpc : P grpc) :
    Q (callInterfaceLines name shape grpc) := by
  unfold callInterfaceLines
  extract_lets callback signatures
  have ofCallback : P callback := rules.text (Fits.fixed.fill rpc |>.lit) (by decide)
  -- The shapes differ in their overloads: with and without metadata, options and a callback.
  have ofSignatures : Q signatures := by
    unfold signatures
    cases shape with
    | unary =>
      exact rules.block (
        .cons (Fits.append (Fits.fixed.fill rpc |>.lit.fill rpc |>.lit.fill ofCallback |>.lit)
          (Fits.gap rpc |>.lit)) <|
        .cons (Fits.fixed.fill rpc |>.lit.fill ofCallback |>.lit.fill rpc |>.lit) <|
        .cons (Fits.fixed.fill rpc |>.lit.fill ofCallback |>.lit.fill rpc |>.lit) <|
        .cons (Fits.fixed.fill ofCallback |>.lit.fill rpc |>.lit) .nil) (by decide)
    | serverStreaming =>
      exact rules.block (
        .cons (Fits.append (Fits.fixed.fill rpc |>.lit.fill rpc |>.lit) (Fits.gap rpc |>.lit)) <|
        .cons (Fits.fixed.fill rpc |>.lit.fill rpc |>.lit) .nil) (by decide)
    | clientStreaming =>
      exact rules.block (
        .cons (Fits.append (Fits.fixed.fill rpc |>.lit.fill rpc |>.lit.fill ofCallback |>.lit)
          (Fits.gap rpc |>.lit)) <|
        .cons (Fits.fixed.fill rpc |>.lit.fill ofCallback |>.lit.fill rpc |>.lit) <|
        .cons (Fits.fixed.fill rpc |>.lit.fill ofCallback |>.lit.fill rpc |>.lit) <|
        .cons (Fits.fixed.fill ofCallback |>.lit.fill rpc |>.lit) .nil) (by decide)
    | bidiStreaming =>
      exact rules.block (
        .cons (Fits.append (Fits.fixed.fill rpc |>.lit.fill rpc |>.lit) (Fits.gap rpc |>.lit)) <|
        .cons (Fits.fixed.fill rpc |>.lit.fill rpc |>.lit) .nil) (by decide)
  exact rules.block (.append (.append (.cons (Fits.fixed.fill ofName |>.lit) .nil) (.gap ofSignatures))
    (.cons .fixed .nil)) (by decide)

theorem definitionLines_kept (carries : method.Carries P) : Q (definitionLines method) := by
  unfold definitionLines
  extract_lets input output path requestStream responseStream
  have ofInput : P input := carries.inputType
  have ofOutput : P output := carries.outputType
  exact rules.block (.cons (Fits.fixed.fill carries.name |>.lit) <|
    .cons (Fits.fixed.fill (rules.literal method.path) |>.lit) <|
    .cons (Fits.fixed.fill (rules.boolLiteral method.clientStreaming) |>.lit) <|
    .cons (Fits.fixed.fill (rules.boolLiteral method.serverStreaming) |>.lit) <|
    .cons (Fits.fixed.fill ofInput |>.lit) <|
    .cons (Fits.append .fixed (Fits.gap ofInput |>.lit)) <|
    .cons (Fits.fixed.fill ofOutput |>.lit) <|
    .cons (Fits.append .fixed (Fits.gap ofOutput |>.lit)) <|
    .cons .fixed .nil) (by decide)

theorem handlerLine_kept (rpc : P grpc) (carries : method.Carries P) : P (handlerLine grpc method) := by
  unfold handlerLine
  extract_lets types callback
  have ofTypes : P types := rules.text (Fits.gap carries.inputType |>.lit.fill carries.outputType)
    (by decide)
  have ofCallback : P callback := rules.text (Fits.fixed.fill rpc |>.lit.fill carries.outputType |>.lit)
    (by decide)
  split
  · exact rules.text (Fits.fixed.fill carries.name |>.lit.fill rpc |>.lit.fill ofTypes |>.lit.fill ofCallback
      |>.lit) (by decide)
  · exact rules.text (Fits.fixed.fill carries.name |>.lit.fill rpc |>.lit.fill ofTypes |>.lit)
      (by decide)
  · exact rules.text (Fits.fixed.fill carries.name |>.lit.fill rpc |>.lit.fill ofTypes |>.lit.fill ofCallback
      |>.lit) (by decide)
  · exact rules.text (Fits.fixed.fill carries.name |>.lit.fill rpc |>.lit.fill ofTypes |>.lit)
      (by decide)

theorem nodeServerLines_kept (carries : decl.Carries P) : Q (nodeServerLines decl) := by
  have definitions : Q (Text.punctuate (decl.methods.map definitionLines)) := by
    apply rules.punctuate
    intro block member
    obtain ⟨method, isMethod, rfl⟩ := List.mem_map.mp member
    exact definitionLines_kept rules (carries.methods method isMethod)
  have handlers : Q (decl.methods.map (handlerLine decl.rpc)) := rules.map fun method isMethod =>
    handlerLine_kept rules carries.rpc (carries.methods method isMethod)
  exact rules.block (.append (.append (.append (.append
    (.cons (Fits.fixed.fill carries.name |>.lit) <| .cons .fixed .nil)
    (.gap definitions))
    (.cons .fixed <| .cons (Fits.fixed.fill carries.rpc |>.lit) .nil))
    (.gap handlers))
    (.cons .fixed .nil)) (by decide)

theorem nodeCallLines_kept (rpc : P grpc) {interfaces : CallInterfaces}
    (ofInterfaces : ∀ shape, P (interfaces.get shape)) (carries : method.Carries P) :
    Q (nodeCallLines grpc interfaces method) := by
  unfold nodeCallLines
  extract_lets name input output callback options interface call
  have ofName : P name := carries.name
  have ofInput : P input := carries.inputType
  have ofOutput : P output := carries.outputType
  have ofCallback : P callback := rules.text (Fits.gap rpc |>.lit.fill ofOutput |>.lit) (by decide)
  have ofOptions : P options := rules.text (Fits.gap rpc |>.lit.fill rpc |>.lit) (by decide)
  have opening : Fits P s!"    {name}: {interface}<{input}, {output}> = (" _ :=
    Fits.fixed.fill ofName |>.lit.fill (ofInterfaces method.shape) |>.lit.fill ofInput |>.lit.fill ofOutput
      |>.lit
  -- The call closes the bracket of the parameters and leaves the brace of its body open.
  unfold call
  split
  · exact rules.block (.append (.append (.cons opening .nil) <|
      .cons (Fits.append (Fits.append
        (Fits.fixed.fill ofInput |>.lit.fill ofOptions |>.lit.fill ofCallback |>.lit)
        (Fits.fixed.fill rpc |>.lit.fill ofCallback |>.lit.fill ofCallback |>.lit))
        (Fits.gap rpc |>.lit)) <|
      .cons (Fits.fixed.fill ofName |>.lit) .nil) <| .cons .fixed .nil) (by decide)
  · exact rules.block (.append (.append (.cons opening .nil) <|
      .cons (Fits.append (Fits.fixed.fill ofInput |>.lit.fill ofOptions |>.lit.fill rpc |>.lit)
        (Fits.gap rpc |>.lit.fill ofOutput |>.lit)) <|
      .cons (Fits.fixed.fill ofName |>.lit) .nil) <| .cons .fixed .nil) (by decide)
  · exact rules.block (.append (.append (.cons opening .nil) <|
      .cons (Fits.append
        (Fits.fixed.fill ofOptions |>.lit.fill ofCallback |>.lit.fill rpc |>.lit.fill ofCallback |>.lit)
        (Fits.fixed.fill ofCallback |>.lit.fill rpc |>.lit.fill ofInput |>.lit)) <|
      .cons (Fits.fixed.fill ofName |>.lit) .nil) <| .cons .fixed .nil) (by decide)
  · exact rules.block (.append (.append (.cons opening .nil) <|
      .cons (Fits.append (Fits.fixed.fill ofOptions |>.lit.fill rpc |>.lit)
        (Fits.gap rpc |>.lit.fill ofInput |>.lit.fill ofOutput |>.lit)) <|
      .cons (Fits.fixed.fill ofName |>.lit) .nil) <| .cons .fixed .nil) (by decide)

theorem nodeClientLines_kept (carries : decl.Carries P) {serverName : String} (ofServer : P serverName)
    {interfaces : CallInterfaces} (ofInterfaces : ∀ shape, P (interfaces.get shape)) :
    Q (nodeClientLines decl serverName interfaces) := by
  have calls : Q (decl.methods.flatMap (nodeCallLines decl.rpc interfaces)) :=
    rules.flatMap fun method isMethod =>
      nodeCallLines_kept rules carries.rpc ofInterfaces (carries.methods method isMethod)
  exact rules.block (.append (.append
    (.cons (Fits.append (Fits.fixed.fill carries.name |>.lit.fill carries.rpc |>.lit)
        (Fits.gap ofServer |>.lit.fill (rules.literal decl.serviceName) |>.lit)) <|
      .cons (Fits.append (Fits.fixed.fill carries.rpc |>.lit) (Fits.fixed.fill carries.rpc |>.lit)) <|
      .cons .fixed <|
      .cons .fixed .nil)
    (.gap calls))
    (.cons .fixed .nil)) (by decide)

theorem webCallLines_kept {className : String} (ofClass : P className) (rpc : P grpc)
    (carries : method.Carries P) : Q (webCallLines className grpc method) := by
  unfold webCallLines
  extract_lets name input output path isUnary methodType result call
  have ofName : P name := carries.name
  have ofInput : P input := carries.inputType
  have ofOutput : P output := carries.outputType
  have ofPath : P path := rules.literal method.path
  have ofType : P methodType := by
    unfold methodType
    split <;> exact rules.text Fits.fixed (by decide)
  have ofResult : P result := by
    unfold result
    split
    · exact rules.text (Fits.fixed.fill ofOutput |>.lit) (by decide)
    · exact rules.text (Fits.gap rpc |>.lit.fill ofOutput |>.lit) (by decide)
  have ofCall : P call := by
    unfold call
    split <;> exact rules.text Fits.fixed (by decide)
  exact rules.block (
    .cons (Fits.append (Fits.append
      (Fits.fixed.fill ofName |>.lit.fill rpc |>.lit.fill ofPath |>.lit)
      (Fits.gap rpc |>.lit.fill ofType |>.lit.fill ofInput |>.lit.fill ofOutput |>.lit))
      (Fits.fixed.fill ofInput |>.lit.fill ofOutput |>.lit)) <|
    .cons (Fits.fixed.fill ofName |>.lit.fill ofInput |>.lit.fill rpc |>.lit.fill ofResult |>.lit) <|
    .cons (Fits.append (Fits.fixed.fill ofCall |>.lit.fill ofPath |>.lit)
      (Fits.gap ofClass |>.lit.fill ofName |>.lit)) <|
    .cons .fixed .nil) (by decide)

theorem webClientLines_kept (carries : decl.Carries P) : Q (webClientLines decl) := by
  have calls : Q (decl.methods.flatMap (webCallLines decl.name decl.rpc)) :=
    rules.flatMap fun method isMethod =>
      webCallLines_kept rules carries.name carries.rpc (carries.methods method isMethod)
  exact rules.block (.append (.append
    (.cons (Fits.fixed.fill carries.name |>.lit) <|
      .cons (Fits.fixed.fill carries.rpc |>.lit) <|
      .cons .fixed <|
      .cons (Fits.append .fixed (Fits.fixed.fill carries.rpc |>.lit)) <|
      .cons (Fits.fixed.fill carries.rpc |>.lit) <|
      .cons .fixed <|
      .cons .fixed .nil)
    (.gap calls))
    (.cons .fixed .nil)) (by decide)

end Services

/-! ### Declarations -/

/-- What a declaration carries into the code, at every depth, has a property. -/
inductive Declaration.Carries (P : String → Prop) : Declaration → Prop where
  | enumeration {name : String} {members : List EnumMember} (ofName : P name)
      (ofMembers : ∀ member ∈ members, P member.name) : Carries P (.enumeration name members)
  | messageClass {decl : MessageClass} (carries : decl.Carries P) : Carries P (.messageClass decl)
  | namespaced {name : String} {body : List Declaration} (ofName : P name)
      (ofBody : ∀ decl ∈ body, Carries P decl) : Carries P (.namespaced name body)
  | secondName {name target : String} (ofName : P name) (ofTarget : P target) :
      Carries P (.secondName name target)
  | callInterface {name rpc : String} {shape : MethodShape} (ofName : P name) (ofRpc : P rpc) :
      Carries P (.callInterface name shape rpc)
  | nodeServer {decl : ServiceClass} (carries : decl.Carries P) : Carries P (.nodeServer decl)
  | nodeClient {decl : ServiceClass} {serverName : String} {interfaces : CallInterfaces}
      (carries : decl.Carries P) (ofServer : P serverName)
      (ofInterfaces : ∀ shape, P (interfaces.get shape)) :
      Carries P (.nodeClient decl serverName interfaces)
  | webClient {decl : ServiceClass} (carries : decl.Carries P) : Carries P (.webClient decl)

theorem blocks_eq_map (decls : List Declaration) :
    Declaration.blocks decls = decls.map Declaration.lines := by
  induction decls with
  | nil => rfl
  | cons decl decls ih => rw [Declaration.blocks, ih, List.map_cons]

variable (rules : Discipline P Q)

include rules

/-- Blocks that keep to a discipline keep to it one below the other. -/
theorem stack_kept {blocks : List (List String)} (each : ∀ block ∈ blocks, Q block) : Q (stack blocks) := by
  unfold stack
  split
  · exact rules.line (rules.text Fits.fixed (by decide))
  · exact rules.flatten each

theorem enumerationLines_kept {name : String} (ofName : P name) {members : List EnumMember}
    (ofMembers : ∀ member ∈ members, P member.name) : Q (enumerationLines name members) := by
  have constants : Q (Text.punctuate (members.map fun member => [s!"    {member.name} = {member.value}"])) := by
    apply rules.punctuate
    intro block isBlock
    obtain ⟨member, isMember, rfl⟩ := List.mem_map.mp isBlock
    exact rules.line (rules.text (Fits.fixed.fill (ofMembers member isMember) |>.lit.fill
      (rules.number member.value)) (by decide))
  exact rules.block (.append (.append (.cons (Fits.fixed.fill ofName |>.lit) .nil) (.gap constants))
    (.cons .fixed .nil)) (by decide)

/-- The lines of a declaration keep to a discipline, however deep its namespaces are. -/
theorem Declaration.lines_kept {decl : Declaration} (carries : decl.Carries P) : Q decl.lines := by
  induction carries with
  | enumeration ofName ofMembers => exact enumerationLines_kept rules ofName ofMembers
  | messageClass carries => exact MessageClass.lines_kept rules carries
  | @namespaced name body ofName _ ofBody =>
    have ofBlocks : Q (stack (Declaration.blocks body)) := by
      apply stack_kept rules
      intro block member
      rw [blocks_eq_map] at member
      obtain ⟨decl, isInside, rfl⟩ := List.mem_map.mp member
      exact ofBody decl isInside
    exact rules.block (.append (.append (.cons (Fits.fixed.fill ofName |>.lit) .nil)
      (.indent 4 (.gap ofBlocks))) (.cons .fixed .nil)) (by decide)
  | secondName ofName ofTarget =>
    exact rules.line (rules.text (Fits.fixed.fill ofName |>.lit.fill ofTarget |>.lit) (by decide))
  | callInterface ofName ofRpc => exact callInterfaceLines_kept rules ofName _ ofRpc
  | nodeServer carries => exact nodeServerLines_kept rules carries
  | nodeClient carries ofServer ofInterfaces => exact nodeClientLines_kept rules carries ofServer ofInterfaces
  | webClient carries => exact webClientLines_kept rules carries

/-- The code of declarations keeps to a discipline if what they carry does. -/
theorem renderLines_kept {decls : List Declaration} (carry : ∀ decl ∈ decls, decl.Carries P) :
    Q (renderLines decls) := by
  apply stack_kept rules
  intro block member
  rw [blocks_eq_map] at member
  obtain ⟨decl, isDecl, rfl⟩ := List.mem_map.mp member
  exact Declaration.lines_kept rules (carry decl isDecl)

end Typewire.Code
