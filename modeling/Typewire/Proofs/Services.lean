import Typewire.Proofs.Lookup
import Typewire.Proofs.Spelling

/-!
# What is declared for services

Every class and interface that is made for services has a name that was free when the types and imports of
the file had theirs, and the methods of a class are those of its service that the style supports, each with
its types spelled as at the top of the file.
-/
namespace Typewire

open Code

/-- The class of a declaration that was made for a service. -/
def Code.Declaration.serviceClass? : Declaration → Option ServiceClass
  | .nodeServer decl | .nodeClient decl _ _ | .webClient decl => some decl
  | _ => none

/-- Whether a style has methods of a shape. -/
def Style.supports (style : Style) (method : Schema.Method) : Bool :=
  match style with
  | .web => Rpc.isWebShape (MethodShape.ofStreams method.clientStreaming method.serverStreaming)
  | .node | .typesOnly => true

namespace Rpc

variable {context : Context} {style : Style} {start : NamePool}

/-! ### Names -/

/-- The names declared so far have a property. -/
def Naming.Given (R : String → Prop) (naming : Naming) : Prop :=
  ∀ entry ∈ naming.declared, R entry.2

theorem Naming.given_initial (R : String → Prop) (pool : NamePool) : Naming.Given R { pool } :=
  fun _ member => nomatch member

/-- Where names that are claimed have a property, names that are declared have it. -/
theorem Naming.declare_given {R : String → Prop} {naming : Naming} (given : naming.Given R) {name : String}
    (claimed : R (naming.pool.claim name).1) (key : String) :
    (naming.declare name key).2.Given R ∧ R (naming.declare name key).1 := by
  rw [Naming.declare]
  split
  next known found => exact ⟨given, given _ (OrderedMap.mem_of_get? found)⟩
  next =>
    refine ⟨fun entry member => ?_, claimed⟩
    rcases OrderedMap.mem_put member with rfl | earlier
    · exact claimed
    · exact given entry earlier

/-- A property of all claimed names is an invariant of declaring. -/
theorem declare_ensures_given {R : String → Prop} {name : String}
    (claimed : ∀ pool : NamePool, R (pool.claim name).1) (key : String) :
    Ensures (Naming.Given R) (declare name key) R := by
  intro before result after given ran
  cases ran
  exact Naming.declare_given given (claimed before.pool) key

/-- An invariant that does not speak of warnings is kept by warning. -/
theorem warn_ensures_of {I : Naming → Prop}
    (unaware : ∀ (naming : Naming) warnings, I naming → I { naming with warnings }) (warnings : List Warning) :
    Ensures I (warn warnings) fun _ => True := by
  intro before result after holds ran
  cases ran
  exact ⟨unaware before _ holds, trivial⟩

/-- The names declared so far were free in a pool, and names of the pool stay taken. -/
structure Fresh (start : NamePool) (naming : Naming) : Prop where
  kept : start.taken ⊆ naming.pool.taken
  free : naming.Given (· ∉ start.taken)

theorem Fresh.initial (pool : NamePool) : Fresh pool { pool } :=
  ⟨List.Subset.refl _, Naming.given_initial _ pool⟩

/-- A declared name was free at the start, and names that were taken then stay taken. -/
theorem Naming.declare_fresh {naming : Naming} (fresh : Fresh start naming) (name key : String) :
    Fresh start (naming.declare name key).2 ∧ (naming.declare name key).1 ∉ start.taken := by
  -- A claimed name is free in the pool as it is now, hence in the smaller one at the start.
  have claimed : (naming.pool.claim name).1 ∉ start.taken := fun taken =>
    naming.pool.claim_fresh name (fresh.kept taken)
  obtain ⟨free, isFree⟩ := Naming.declare_given fresh.free claimed key
  refine ⟨⟨?_, free⟩, isFree⟩
  rw [Naming.declare]
  split
  next => exact fresh.kept
  next =>
    intro old taken
    simp [fresh.kept taken]

theorem declare_ensures (name key : String) :
    Ensures (Fresh start) (declare name key) fun given => given ∉ start.taken := by
  intro before given after fresh ran
  cases ran
  exact Naming.declare_fresh fresh name key

/-! ### Methods -/

/-- The types of a spelled method are references from the top of the file. -/
theorem spellMethod_eq_ok {path : String} {method : Schema.Method} {made : Method}
    (spelled : spellMethod context path method = .ok made) :
    ∃ input output, context.reference method.inputType "" = .ok input ∧
      context.reference method.outputType "" = .ok output ∧
      made = {
        name := method.name
        path := "/" ++ path ++ "/" ++ method.name
        inputType := input.text
        outputType := output.text
        clientStreaming := method.clientStreaming
        serverStreaming := method.serverStreaming } := by
  obtain ⟨input, inputSpelled, rest⟩ := except_bind_eq_ok spelled
  obtain ⟨output, outputSpelled, last⟩ := except_bind_eq_ok rest
  exact ⟨input, output, inputSpelled, outputSpelled, (Except.ok.inj last).symm⟩

/-- A method of a class was spelled from a method of the schema. -/
def SpelledFrom (context : Context) (service : Schema.Service) (method : Schema.Method)
    (made : Method) : Prop :=
  spellMethod context (servicePath context.file service) method = .ok made

theorem spellMethods_eq_ok {service : Schema.Service} {methods : List Method}
    (spelled : spellMethods context service = .ok methods) :
    List.Forall₂ (SpelledFrom context service) service.methods methods :=
  (except_mapM_eq_ok_iff _ _ _).mp spelled

/-! ### Declarations -/

/-- What is made once for a file: call interfaces under names with a property. -/
inductive MadeShared (context : Context) (R : String → Prop) : Declaration → Prop where
  | callInterface {name : String} (named : R name) (shape : MethodShape) :
      MadeShared context R (.callInterface name shape context.imports.rpc)

def classFor (context : Context) (service : Schema.Service) (name : String) (methods : List Method) :
    ServiceClass :=
  { name, serviceName := service.name, rpc := context.imports.rpc, methods }

/-- What a style makes for a service, with everything it names and under names with a property. -/
inductive MadeFor (context : Context) (service : Schema.Service) (R : String → Prop) :
    Style → Declaration → Prop where
  | nodeServer {name : String} {methods : List Method} (named : R name)
      (spelled : spellMethods context service = .ok methods) :
      MadeFor context service R .node (.nodeServer (classFor context service name methods))
  | nodeClient {name server : String} {interfaces : CallInterfaces} {methods : List Method} (named : R name)
      (spelled : spellMethods context service = .ok methods) (serverNamed : R server)
      (interfacesNamed : ∀ shape, R (interfaces.get shape)) :
      MadeFor context service R .node (.nodeClient (classFor context service name methods) server interfaces)
  | webClient {name : String} {methods : List Method} (named : R name)
      (spelled : spellMethods context service = .ok methods) :
      MadeFor context service R .web
        (.webClient (classFor context service name (methods.filter fun method => isWebShape method.shape)))

section Made

-- Every walk over the services declares names and gives warnings, and does nothing else to the state. So it
-- is made once, for any invariant that these two keep and any property that the declared names get.
variable {I : Naming → Prop} {R : String → Prop} {service : Schema.Service}
  (interface : ∀ shape, Ensures I (declare (preferredInterfaces.get shape) "") R)
  (server : Ensures I (serverName service) R) (client : Ensures I (clientName service) R)
  (unaware : ∀ (naming : Naming) warnings, I naming → I { naming with warnings })

include interface

/-- All call interfaces have names as they are declared. -/
theorem interfaceNames_ensures_of :
    Ensures I interfaceNames fun interfaces => ∀ shape, R (interfaces.get shape) := by
  refine Ensures.bind (interface .unary) fun unary ofUnary => ?_
  refine Ensures.bind (interface .serverStreaming) fun serverStreaming ofServer => ?_
  refine Ensures.bind (interface .clientStreaming) fun clientStreaming ofClient => ?_
  refine Ensures.bind (interface .bidiStreaming) fun bidiStreaming ofBidi => ?_
  apply Ensures.pure
  intro shape
  cases shape with
  | unary => exact ofUnary
  | serverStreaming => exact ofServer
  | clientStreaming => exact ofClient
  | bidiStreaming => exact ofBidi

theorem sharedTypes_ensures_of (style : Style) (context : Context) :
    Ensures I (sharedTypes style context) fun decls => ∀ decl ∈ decls, MadeShared context R decl := by
  cases style with
  | node =>
    refine Ensures.bind (interfaceNames_ensures_of interface) fun interfaces named => Ensures.pure ?_
    intro decl member
    obtain ⟨shape, _, rfl⟩ := List.mem_map.mp member
    exact .callInterface (named shape) shape
  | web => exact Ensures.pure (by simp)
  | typesOnly => exact Ensures.pure (by simp)

omit interface in
include server in
theorem server?_ensures_of (style : Style) (context : Context) :
    Ensures I (server? style context service) fun decl? =>
      ∀ decl ∈ decl?.toList, MadeFor context service R style decl := by
  cases style with
  | node =>
    refine Ensures.bind server fun name named => ?_
    refine Ensures.bind (Ensures.liftM fun _ => id) fun methods spelled => Ensures.pure ?_
    exact List.forall_mem_singleton.mpr (.nodeServer named spelled)
  | web => exact Ensures.pure (by simp)
  | typesOnly => exact Ensures.pure (by simp)

include server client unaware

/-- A client has its name as it is declared; for `@grpc/grpc-js` it also names the server and the call
interfaces. -/
theorem client?_ensures_of (style : Style) (context : Context) :
    Ensures I (client? style context service) fun decl? =>
      ∀ decl ∈ decl?.toList, MadeFor context service R style decl := by
  cases style with
  | node =>
    refine Ensures.bind ?_ fun decl made => Ensures.pure (List.forall_mem_singleton.mpr made)
    refine Ensures.bind client fun name named => ?_
    refine Ensures.bind (Ensures.liftM fun _ => id) fun methods spelled => ?_
    refine Ensures.bind server fun server serverNamed => ?_
    refine Ensures.bind (interfaceNames_ensures_of interface) fun interfaces interfacesNamed => ?_
    exact Ensures.pure (.nodeClient named spelled serverNamed interfacesNamed)
  | web =>
    refine Ensures.bind ?_ fun decl made => Ensures.pure (List.forall_mem_singleton.mpr made)
    refine Ensures.bind (Ensures.liftM fun _ => id) fun methods spelled => ?_
    rw [List.partition_eq_filter_filter]
    refine Ensures.bind (warn_ensures_of unaware _) fun _ _ => ?_
    refine Ensures.bind client fun name named => ?_
    exact Ensures.pure (.webClient named spelled)
  | typesOnly => exact Ensures.pure (by simp)

omit server client in
/-- Everything that is made for services is shared or made for one of them, under names as they are declared. -/
theorem declareServices_ensures_of (style : Style) (context : Context)
    (server : ∀ service ∈ context.file.services, Ensures I (serverName service) R)
    (client : ∀ service ∈ context.file.services, Ensures I (clientName service) R) :
    Ensures I (declareServices style context) fun decls => ∀ decl ∈ decls,
      MadeShared context R decl ∨ ∃ service ∈ context.file.services, MadeFor context service R style decl := by
  refine Ensures.bind (sharedTypes_ensures_of interface style context) fun shared ofShared => ?_
  -- The invariant passes from one service to the next, and within a service from server to client.
  have each : ∀ service ∈ context.file.services, Ensures I (do
      let server ← server? style context service
      let client ← client? style context service
      return server.toList ++ client.toList : Declaring (List Declaration)) fun decls =>
      ∀ decl ∈ decls, ∃ service ∈ context.file.services, MadeFor context service R style decl := by
    intro service member
    refine Ensures.bind (server?_ensures_of (server service member) style context) fun made ofServer => ?_
    refine Ensures.bind (client?_ensures_of interface (server service member) (client service member) unaware
      style context) fun made ofClient => Ensures.pure ?_
    exact fun decl inPart => ⟨service, member, List.forall_mem_append.mpr ⟨ofServer, ofClient⟩ decl inPart⟩
  refine Ensures.bind (Ensures.mapM each) fun classes ofClasses => Ensures.pure ?_
  refine List.forall_mem_append.mpr ⟨fun decl member => .inl (ofShared decl member), fun decl member => ?_⟩
  obtain ⟨part, inClasses, inPart⟩ := List.mem_flatten.mp member
  exact .inr (ofClasses part inClasses decl inPart)

end Made

/-! ### Free names -/

/-- A declaration beside the types, under a free name; the class of a service has the methods that the
style supports. -/
structure ServiceDeclared (style : Style) (context : Context) (start : NamePool) (decl : Declaration) :
    Prop where
  isBeside : decl.isBeside = true
  free : ∀ name, decl.ownName? = some name → name ∉ start.taken
  methods : ∀ made, decl.serviceClass? = some made → ∃ service ∈ context.file.services,
    made.serviceName = service.name ∧
    List.Forall₂ (SpelledFrom context service)
      (service.methods.filter style.supports) made.methods

/-- The class of a service with its methods, under a free name. -/
theorem ServiceDeclared.of_class {decl : Declaration} {made : ServiceClass}
    (isClass : decl.serviceClass? = some made) (free : made.name ∉ start.taken)
    {service : Schema.Service} (member : service ∈ context.file.services)
    (isFor : made.serviceName = service.name)
    (spelled : List.Forall₂ (SpelledFrom context service)
      (service.methods.filter style.supports) made.methods) :
    ServiceDeclared style context start decl := by
  have isBeside : decl.isBeside = true := by
    cases decl <;> simp_all [Declaration.serviceClass?, Declaration.isBeside]
  have ownName : decl.ownName? = some made.name := by
    cases decl <;> simp_all [Declaration.serviceClass?, Declaration.ownName?]
  refine ⟨isBeside, ?_, ?_⟩
  · intro name isName
    rw [ownName, Option.some.injEq] at isName
    exact isName ▸ free
  · intro other isOther
    obtain rfl : made = other := Option.some.inj (isClass.symm.trans isOther)
    exact ⟨service, member, isFor, spelled⟩

theorem ServiceDeclared.of_shared {decl : Declaration} (made : MadeShared context (· ∉ start.taken) decl) :
    ServiceDeclared style context start decl := by
  cases made with
  | callInterface free shape =>
    refine ⟨rfl, ?_, ?_⟩
    · intro name isName
      exact Option.some.inj isName ▸ free
    · intro made isClass
      cases isClass

theorem supported_node {service : Schema.Service} {methods : List Method}
    (spelled : spellMethods context service = .ok methods) :
    List.Forall₂ (SpelledFrom context service) (service.methods.filter (Style.supports .node)) methods := by
  have all : service.methods.filter (Style.supports .node) = service.methods :=
    List.filter_eq_self.mpr fun _ _ => rfl
  rw [all]
  exact spellMethods_eq_ok spelled

/-- Spelling keeps the shape of a method, so leaving out shapes before or after comes to the same. -/
theorem supported_web {service : Schema.Service} {methods : List Method}
    (spelled : spellMethods context service = .ok methods) :
    List.Forall₂ (SpelledFrom context service) (service.methods.filter (Style.supports .web))
      (methods.filter fun method => isWebShape method.shape) := by
  refine List.rel_filter ?_ (spellMethods_eq_ok spelled)
  intro method made isSpelled
  obtain ⟨_, _, _, _, rfl⟩ := spellMethod_eq_ok isSpelled
  exact Iff.rfl

/-- What is made for a service of the file under a free name has the methods that its style supports. -/
theorem ServiceDeclared.of_madeFor {service : Schema.Service} (member : service ∈ context.file.services)
    {decl : Declaration} (made : MadeFor context service (· ∉ start.taken) style decl) :
    ServiceDeclared style context start decl := by
  cases made with
  | nodeServer free spelled => exact .of_class rfl free member rfl (supported_node spelled)
  | nodeClient free spelled => exact .of_class rfl free member rfl (supported_node spelled)
  | webClient free spelled => exact .of_class rfl free member rfl (supported_web spelled)

/-- Everything that is made for services stands beside the types under free names. -/
theorem declareServices_ensures (style : Style) (context : Context) :
    Ensures (Fresh start) (declareServices style context) fun decls =>
      ∀ decl ∈ decls, ServiceDeclared style context start decl := by
  have unaware : ∀ (naming : Naming) warnings, Fresh start naming → Fresh start { naming with warnings } :=
    fun _ _ fresh => ⟨fresh.kept, fresh.free⟩
  refine (declareServices_ensures_of (fun _ => declare_ensures _ _) unaware style context
    (fun _ _ => declare_ensures _ _) (fun _ _ => declare_ensures _ _)).imp fun decls made decl member => ?_
  rcases made decl member with shared | ⟨service, isService, forService⟩
  · exact .of_shared shared
  · exact .of_madeFor isService forService

end Rpc

end Typewire
