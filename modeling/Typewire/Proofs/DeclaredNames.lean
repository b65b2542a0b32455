import Typewire.Proofs.Counting
import Typewire.Proofs.DistinctNames
import Typewire.Proofs.LocalPaths
import Typewire.Proofs.PackageCapture

/-!
# Names declared for services

The same name is asked for at different times: that of a server when the server is made and again for its
client, those of the call interfaces before all services and again for each client. A name is remembered
under its key when it is first asked for. Types of the schema may have pushed it to a numbered form by then,
and whoever asks later gets the same form.

## Main result

`declared_names_wire_services`: in any series of requests, names correspond one to one to keys and avoid all
names that a file has already. So every client refers to the server right before it, and to call interfaces
that are declared once.

## Proof strategy

The names at the end of a series hold the answers to all its requests, each under its key, since no key ever
changes its name. Two answers under different keys differ because each was free when it was given.
-/
namespace Typewire

open Schema (Enum File Message WellNamed declaredTypes fullName)
open Code

namespace Rpc

/-! ### Series of requests -/

/-- The names declared for requests that are made one after the other, each a preferred name and a key. -/
def Naming.declareAll (naming : Naming) : List (String × String) → List String × Naming
  | [] => ([], naming)
  | request :: requests =>
    let first := naming.declare request.1 request.2
    let others := declareAll first.2 requests
    (first.1 :: others.1, others.2)

/-- A series of requests loses no declared name. -/
theorem Naming.declareAll_extends (naming : Naming) (requests : List (String × String)) :
    naming.Extends (naming.declareAll requests).2 := by
  induction requests generalizing naming with
  | nil => exact refl_of Naming.Extends naming
  | cons request requests ih =>
    exact trans_of Naming.Extends (naming.declare_extends request.1 request.2).1 (ih _)

/-- At the end every answer is found under the key of its request. -/
theorem Naming.declareAll_found {naming : Naming} (apart : naming.Apart)
    (requests : List (String × String)) :
    List.Forall₂ (fun request answer =>
      (naming.declareAll requests).2.declared.get? (keyFor request.1 request.2) = some answer)
      requests (naming.declareAll requests).1 := by
  induction requests generalizing naming with
  | nil => exact .nil
  | cons request requests ih =>
    obtain ⟨extended, found⟩ := naming.declare_extends request.1 request.2
    have apartAfter := (extended apart).1
    -- The requests that follow keep the name of this one.
    exact .cons ((declareAll_extends _ requests apartAfter).2 _ _ found) (ih apartAfter)

/-- A series of requests gets names that were free at the start. -/
theorem Naming.declareAll_fresh {start : NamePool} {naming : Naming} (fresh : Fresh start naming)
    (requests : List (String × String)) :
    ∀ answer ∈ (naming.declareAll requests).1, answer ∉ start.taken := by
  induction requests generalizing naming with
  | nil => exact fun answer member => nomatch member
  | cons request requests ih =>
    obtain ⟨freshAfter, free⟩ := Naming.declare_fresh fresh request.1 request.2
    exact List.forall_mem_cons.mpr ⟨free, ih freshAfter⟩

/-- Where declared names are distinct, a name belongs to one key. -/
theorem Naming.Apart.key_eq {naming : Naming} (apart : naming.Apart) {key other given : String}
    (found : naming.declared.get? key = some given) (foundOther : naming.declared.get? other = some given) :
    key = other := by
  have sameEntry : (key, given) = (other, given) := List.inj_on_of_nodup_map apart.distinct
    (OrderedMap.mem_of_get? found) (OrderedMap.mem_of_get? foundOther) rfl
  exact congrArg Prod.fst sameEntry

/-- Answers correspond one to one to the keys of their requests. -/
theorem Naming.declareAll_eq_map {naming : Naming} (apart : naming.Apart)
    (requests : List (String × String)) :
    ∃ nameOf : String → String,
      (naming.declareAll requests).1 = requests.map (fun request => nameOf (keyFor request.1 request.2)) ∧
      ∀ first ∈ requests, ∀ second ∈ requests,
        nameOf (keyFor first.1 first.2) = nameOf (keyFor second.1 second.2) →
          keyFor first.1 first.2 = keyFor second.1 second.2 := by
  have found := naming.declareAll_found apart requests
  have apartAfter := (naming.declareAll_extends requests apart).1
  refine ⟨fun key => ((naming.declareAll requests).2.declared.get? key).getD "", ?_, ?_⟩
  · exact eq_map_of_forall₂ found fun request answer isFound => by
      simp only [isFound, Option.getD_some]
  · intro first isFirst second isSecond same
    obtain ⟨answer, _, isFound⟩ := exists_right_of_forall₂ found isFirst
    obtain ⟨other, _, isFoundOther⟩ := exists_right_of_forall₂ found isSecond
    simp only [isFound, isFoundOther, Option.getD_some] at same
    exact apartAfter.key_eq isFound (same ▸ isFoundOther)

/-! ### Servers and clients -/

theorem CallInterfaces.ext_get {first second : CallInterfaces}
    (same : ∀ shape, first.get shape = second.get shape) : first = second := by
  cases first
  cases second
  have unary := same .unary
  have server := same .serverStreaming
  have client := same .clientStreaming
  have bidi := same .bidiStreaming
  simp only [CallInterfaces.get] at unary server client bidi
  rw [unary, server, client, bidi]

/-- What is declared for services: the call interfaces, then each server with its client right behind it. The
client has the name of that server and the names of those interfaces. -/
def wired (rpc : String) (interfaces : CallInterfaces) (pairs : List (ServiceClass × ServiceClass)) :
    List Declaration :=
  MethodShape.all.map (fun shape => .callInterface (interfaces.get shape) shape rpc) ++
    pairs.flatMap fun pair => [.nodeServer pair.1, .nodeClient pair.2 pair.1.name interfaces]

/-- For a service its server and client are declared, and the client has the names that were declared for
the server and for the call interfaces. -/
theorem nodePart_during {context : Context} {service : Schema.Service} {start finish : Naming}
    {interfaces : CallInterfaces} {part : List Declaration} (apart : start.Apart)
    (isInterface : ∀ shape,
      finish.declared.get? (preferredInterfaces.get shape) = some (interfaces.get shape))
    (made : ∃ server client, part = server.toList ++ client.toList ∧
      During Naming.Extends start finish (server? .node context service) server ∧
      During Naming.Extends start finish (client? .node context service) client) :
    ∃ pair : ServiceClass × ServiceClass,
      part = [.nodeServer pair.1, .nodeClient pair.2 pair.1.name interfaces] ∧
      pair.1.serviceName = service.name ∧ pair.2.serviceName = service.name := by
  obtain ⟨_, _, rfl, serverMade, clientMade⟩ := made
  obtain ⟨server, rfl, isServer, serverFound⟩ := nodeServer_during apart serverMade
  obtain ⟨decl, declMade, last⟩ := clientMade.bind (nodeClient_moves context service) fun _ => Moves.pure _
  obtain ⟨client, name, others, rfl, isClient, _, nameFound, othersFound⟩ :=
    nodeClient_during apart declMade
  -- The client found its names under the keys that the server and the interfaces were declared with.
  obtain rfl : server.name = name := Option.some.inj (serverFound.symm.trans nameFound)
  obtain rfl : interfaces = others := CallInterfaces.ext_get fun shape =>
    Option.some.inj ((isInterface shape).symm.trans (othersFound shape))
  exact ⟨(server, client), by rw [← last.pure]; rfl, isServer, isClient⟩

/-- Every client names the server of its service and the call interfaces of the file. -/
theorem declareServices_wired {style : Style} (isNode : style = .node) {context : Context} {pool : NamePool}
    {naming : Naming} {decls : List Declaration}
    (declared : (declareServices style context).run { pool } = (.ok decls, naming)) :
    ∃ interfaces pairs, decls = wired context.imports.rpc interfaces pairs ∧
      List.Forall₂ (fun (service : Schema.Service) (pair : ServiceClass × ServiceClass) =>
        pair.1.serviceName = service.name ∧ pair.2.serviceName = service.name) context.file.services pairs ∧
      (MethodShape.all.map interfaces.get).Nodup := by
  subst isNode
  have initial := Naming.Apart.initial pool
  -- The parts were made at different times, but a key has one name in all of them.
  obtain ⟨apart, shared, parts, rfl, sharedMade, partsMade⟩ := declareServices_parts declared
  obtain ⟨interfaces, rfl, isInterface⟩ := nodeShared_during initial sharedMade
  obtain ⟨pairs, rfl, areFor⟩ := exists_map_of_forall₂ partsMade fun service part made =>
    nodePart_during initial isInterface made
  refine ⟨interfaces, pairs, ?_, areFor, ?_⟩
  · rw [wired, List.flatMap_def]
  · have found : List.Forall₂ (fun key name => naming.declared.get? key = some name)
        (MethodShape.all.map preferredInterfaces.get) (MethodShape.all.map interfaces.get) := by
      rw [List.forall₂_map_left_iff, List.forall₂_map_right_iff]
      exact List.forall₂_same.mpr fun shape _ => isInterface shape
    exact OrderedMap.nodup_of_get? apart.distinct found (sharedKeys_nodup .node)

end Rpc

namespace Code

/-! ### Declarations for services at every depth -/

def Declaration.isForServices : Declaration → Bool
  | .callInterface .. | .nodeServer .. | .nodeClient .. | .webClient .. => true
  | .enumeration .. | .messageClass .. | .namespaced .. | .secondName .. => false

/-- The declarations that are made for services, at every depth. -/
def forServices (decls : List Declaration) : List Declaration :=
  (Declaration.spreadAll decls).filter Declaration.isForServices

@[simp] theorem forServices_append (first second : List Declaration) :
    forServices (first ++ second) = forServices first ++ forServices second := by
  rw [forServices, spreadAll_append, List.filter_append, forServices, forServices]

theorem forServices_namespaced (name : String) (body : List Declaration) :
    forServices [.namespaced name body] = forServices body := by
  rw [forServices, spreadAll_namespaced, List.filter_cons_of_neg (by simp [Declaration.isForServices]),
    forServices]

theorem forServices_withNested (decl : MessageClass) (nested : List Declaration) :
    forServices (withNested decl nested) = forServices nested := by
  obtain ⟨around, shape, spread⟩ := spreadAll_withNested decl nested
  rw [forServices, spread]
  rcases shape with rfl | rfl <;> rfl

theorem forServices_of_flat {decls : List Declaration}
    (flat : ∀ decl ∈ decls, decl.ownName?.isSome = true) :
    forServices decls = decls.filter Declaration.isForServices := by
  have noNamespace : ∀ name body, .namespaced name body ∉ decls := fun name body member => by
    cases flat _ member
  rw [forServices, spreadAll_of_flat noNamespace]

theorem forServices_flatten {parts : List (List Declaration)} (none : ∀ part ∈ parts, forServices part = []) :
    forServices parts.flatten = [] := by
  induction parts with
  | nil => rfl
  | cons part parts ih =>
    rw [List.forall_mem_cons] at none
    rw [List.flatten_cons, forServices_append, none.1, ih none.2, List.nil_append]

section Types

variable (context : Context)

theorem buildScope_forServices_of {scope : String} (enums : List Enum) {messages : List Message}
    (each : ∀ message ∈ messages, Ensures (fun _ => True) (buildMessage context scope message) fun decls =>
      forServices decls = []) :
    Ensures (fun _ => True) (buildScope context scope enums messages) fun body => forServices body = [] := by
  refine Ensures.bind (Ensures.liftM fun decls built => ?_) fun decls (none : forServices decls = []) => ?_
  · have enumeration := enumerations_of_ok ((except_mapM_eq_ok_iff _ _ _).mp built)
    rw [forServices_of_flat, List.filter_eq_nil_iff]
    · intro decl member
      cases decl with
      | enumeration => simp [Declaration.isForServices]
      | _ => cases enumeration _ member
    · intro decl member
      cases decl with
      | namespaced => cases enumeration _ member
      | _ => rfl
  · rw [buildMessages_eq, bind_assoc]
    refine Ensures.bind (Ensures.mapM each) fun parts ofParts => ?_
    rw [pure_bind]
    refine Ensures.pure ?_
    rw [forServices_append, none, forServices_flatten ofParts, List.nil_append]

/-- Nothing that is built for a message is made for services. -/
theorem buildMessage_forServices (message : Message) :
    ∀ scope, Ensures (fun _ => True) (buildMessage context scope message) fun decls =>
      forServices decls = [] := by
  induction message using Message.nested_induction with
  | step message nested =>
    intro scope
    cases entry : message.mapEntry with
    | true =>
      rw [buildMessage_of_entry entry]
      exact Ensures.pure rfl
    | false =>
      have ofScope := buildScope_forServices_of context message.nestedEnums
        fun other isNested => nested other isNested (fullName scope message.name)
      refine (buildMessage_ensures entry ofScope).imp ?_
      rintro _ ⟨decl, body, _, none, rfl⟩
      rw [forServices_withNested, none]

/-- Among the types of a file nothing is made for services. -/
theorem buildTypes_forServices {types : List Declaration} {uses : RootUses}
    (built : (buildTypes context).run [] = (.ok types, uses)) : forServices types = [] := by
  rw [buildTypes_eq] at built
  exact (buildScope_forServices_of context _
    (fun message _ => buildMessage_forServices context message _) _ _ _ trivial built).2

end Types

end Code

namespace Generator

/-- A namespace around the body holds the same declarations for services. -/
theorem forServices_wrap (style : Style) (file : File) (body : List Declaration) :
    forServices (wrap style file body) = forServices body := by
  rw [wrap]
  split
  · split
    · exact forServices_namespaced _ _
    · rfl
  · rfl

/-- All that a generated file declares for services is what was made for them. -/
theorem Compilation.forServices_eq {generator : Generator} {file : File}
    (compilation : Compilation generator file)
    (areForServices : ∀ decl ∈ compilation.services, decl.isForServices = true) :
    forServices compilation.source.body = compilation.services := by
  have services : forServices compilation.services = compilation.services := by
    rw [forServices_of_flat, List.filter_eq_self.mpr areForServices]
    intro decl member
    have isFor := areForServices decl member
    cases decl <;> first | rfl | cases isFor
  have seconds : forServices (secondNames compilation.uses) = [] := by
    rw [forServices_of_flat, List.filter_eq_nil_iff]
    all_goals
      intro decl member
      obtain ⟨entry, _, rfl⟩ := mem_secondNames.mp member
      simp [Declaration.isForServices, Declaration.ownName?]
  rw [source, forServices_wrap, body, Translation.body, forServices_append, forServices_append,
    buildTypes_forServices _ compilation.built, services, seconds, List.nil_append, List.append_nil]

/-- Names declared in a fresh file avoid all names that the file has already. -/
theorem answer_free {table : SymbolTable} {file : File} {imports : Imports}
    (resolved : Imports.resolve table file = .ok imports) {requests : List (String × String)} {answer : String}
    (isAnswer : answer ∈ (Rpc.Naming.declareAll { pool := imports.pool } requests).1) :
    answer ∉ imports.moduleNames ∧ answer ∉ imports.roots.map Prod.snd ∧
      answer ∉ Imports.reserved table file := by
  have free := Rpc.Naming.declareAll_fresh (Rpc.Fresh.initial imports.pool) requests answer isAnswer
  rw [(Imports.resolve_eq_ok resolved).gives.taken, not_or] at free
  obtain ⟨notGiven, notReserved⟩ := free
  refine ⟨fun isModule => notGiven ?_, fun isRoot => notGiven ?_, notReserved⟩
  · simp only [Imports.moduleNames, List.mem_cons] at isModule
    simp only [List.mem_append, List.mem_cons]
    tauto
  · exact List.mem_append_right _ (List.mem_append_right _ isRoot)

/-- The name of every type of a file is reserved before anything else in it is named. -/
theorem typeName_reserved {files : List File} {file : File} {imports : Imports} (named : WellNamed files)
    (member : file ∈ files) (resolved : Imports.resolve (.ofFiles files) file = .ok imports)
    {scope : String} {enums : List Enum} {messages : List Message} (has : file.HasScope scope enums messages)
    {type name : String} (declared : type ∈ declaredTypes enums messages)
    (calls : (SymbolTable.ofFiles files).Calls (fullName scope type) name) :
    name ∈ Imports.reserved (.ofFiles files) file := by
  have settled : Context.Settled { file, symbols := .ofFiles files, imports, wraps := fun _ => false } files :=
    ⟨named, member, rfl, resolved⟩
  obtain ⟨path, site⟩ := has.exists_site
  obtain ⟨given, isGiven, callsGiven⟩ :=
    exists_right_of_forall₂ (SymbolTable.callsAll_at named member site) declared
  obtain rfl := calls.unique callsGiven
  exact settled.mem_reserved site isGiven

/-- The declarations for services in a generated file are wired, with one pair for each service in order. -/
theorem Compilation.wired {generator : Generator} {file : File} (compilation : Compilation generator file)
    (isNode : generator.style = .node) :
    ∃ interfaces pairs,
      forServices compilation.source.body = Rpc.wired compilation.context.imports.rpc interfaces pairs ∧
      List.Forall₂ (fun (service : Schema.Service) (pair : ServiceClass × ServiceClass) =>
        pair.1.serviceName = service.name ∧ pair.2.serviceName = service.name) file.services pairs ∧
      (MethodShape.all.map interfaces.get).Nodup := by
  obtain ⟨interfaces, pairs, services, areFor, distinct⟩ :=
    Rpc.declareServices_wired isNode compilation.declared
  have isFile : compilation.context.file = file := by
    obtain ⟨imports, _, shape⟩ := context_eq_ok.mp compilation.resolved
    rw [shape]
  refine ⟨interfaces, pairs, ?_, isFile ▸ areFor, distinct⟩
  rw [← services]
  -- What was made for services stands flat, outside all namespaces of types.
  apply compilation.forServices_eq
  intro decl member
  rw [services, Rpc.wired, List.mem_append, List.mem_map, List.mem_flatMap] at member
  rcases member with ⟨shape, _, rfl⟩ | ⟨pair, _, inPair⟩
  · rfl
  · rcases List.mem_pair.mp inPair with rfl | rfl <;> rfl

/-- In every series of requests for names, the answers are a function of the keys that gives different keys
different names. No answer is the name of an import, a second name, a name that the table has for the file, at
its top or inside a message, or the first part of the package. In well-named files the names of the table are
those of all types that the file declares, at any depth.

So in every file generated for `@grpc/grpc-js`, the declarations for services at all depths are the four call
interfaces, under distinct names, and then for each service its server and right behind it its client. The
client refers to this server and to these interfaces by their names. -/
theorem declared_names_wire_services :
    (∀ table file imports, Imports.resolve table file = .ok imports →
      ∀ requests : List (String × String),
        let answers := (Rpc.Naming.declareAll { pool := imports.pool } requests).1
        (∃ nameOf : String → String,
          answers = requests.map (fun request => nameOf (Rpc.Naming.keyFor request.1 request.2)) ∧
          ∀ first ∈ requests, ∀ second ∈ requests,
            nameOf (Rpc.Naming.keyFor first.1 first.2) = nameOf (Rpc.Naming.keyFor second.1 second.2) →
              Rpc.Naming.keyFor first.1 first.2 = Rpc.Naming.keyFor second.1 second.2) ∧
        ∀ answer ∈ answers,
          answer ∉ imports.moduleNames ∧ answer ∉ imports.roots.map Prod.snd ∧
          answer ∉ table.topLevel file.name ∧ answer ∉ table.nested file.name ∧
          (∀ package, file.package? = some package →
            answer ≠ Name.legalize (Text.firstSegment package)) ∧
          ∀ files, table = SymbolTable.ofFiles files → WellNamed files → file ∈ files →
            ∀ scope enums messages, file.HasScope scope enums messages →
              ∀ type ∈ declaredTypes enums messages, ∀ name,
                table.Calls (fullName scope type) name → answer ≠ name) ∧
    ∀ (generator : Generator) (file : File) (output : GeneratedFile), generator.style = .node →
      (generator.generateFile file).1 = .ok output →
        ∃ compilation : Compilation generator file, compilation.output = output ∧
          ∃ interfaces pairs,
            forServices compilation.source.body =
              Rpc.wired compilation.context.imports.rpc interfaces pairs ∧
            List.Forall₂ (fun (service : Schema.Service) (pair : ServiceClass × ServiceClass) =>
              pair.1.serviceName = service.name ∧ pair.2.serviceName = service.name) file.services pairs ∧
            (MethodShape.all.map interfaces.get).Nodup := by
  constructor
  · intro table file imports resolved requests
    refine ⟨Rpc.Naming.declareAll_eq_map (Rpc.Naming.Apart.initial _) requests, fun answer isAnswer => ?_⟩
    obtain ⟨notModule, notRoot, notReserved⟩ := answer_free resolved isAnswer
    refine ⟨notModule, notRoot, ?_, ?_, ?_, ?_⟩
    -- What remains are the reserved names, by where they come from.
    · exact fun isTop => notReserved (List.mem_append_left _ (List.mem_append_left _ isTop))
    · exact fun isNested => notReserved (List.mem_append_left _ (List.mem_append_right _ isNested))
    · rintro package isPackage rfl
      exact notReserved (firstPart_reserved table isPackage)
    · rintro files rfl named member scope enums messages has type declared name calls rfl
      exact notReserved (typeName_reserved named member resolved has declared calls)
  · intro generator file output isNode generated
    obtain ⟨compilation, isOutput⟩ := exists_compilation generated
    exact ⟨compilation, isOutput, compilation.wired isNode⟩

/-- The names of `tangle` are taken by its types, so that its service is declared under numbered names. -/
theorem declared_names_wire_services_in_tangle :
    WellNamed [tangle, figures] ∧
    (∃ imports, Imports.resolve (SymbolTable.ofFiles [tangle, figures]) tangle = .ok imports ∧
      ∃ nameOf : String → String,
        (Rpc.Naming.declareAll { pool := imports.pool }
          [("EchoClient", "client:Echo"), ("EchoClient", ""), ("Echo", "client:Echo")]).1 =
            [nameOf "client:Echo", nameOf "EchoClient", nameOf "client:Echo"] ∧
        nameOf "client:Echo" ≠ nameOf "EchoClient" ∧ nameOf "EchoClient" ≠ "EchoClient_1") ∧
    ∃ compilation : Compilation (nodeGenerator [tangle, figures]) tangle,
      compilation.output = tangleCompilation.output ∧ ∃ interfaces pairs,
        forServices compilation.source.body =
          Rpc.wired compilation.context.imports.rpc interfaces pairs ∧ pairs.length = 1 := by
  have named : WellNamed [tangle, figures] := by decide +kernel
  refine ⟨named, ?_, ?_⟩
  · obtain ⟨imports, resolved⟩ := exists_ok_of_isOk
      (by decide +kernel : (Imports.resolve (SymbolTable.ofFiles [tangle, figures]) tangle).isOk = true)
    obtain ⟨⟨nameOf, answers, injective⟩, avoided⟩ := declared_names_wire_services.1 _ _ _ resolved
      [("EchoClient", "client:Echo"), ("EchoClient", ""), ("Echo", "client:Echo")]
    refine ⟨imports, resolved, nameOf, answers, fun same => ?_, ?_⟩
    · have sameKey := injective ("EchoClient", "client:Echo") (by simp) ("EchoClient", "") (by simp) same
      revert sameKey
      decide
    · have calls : (SymbolTable.ofFiles [tangle, figures]).Calls (fullName tangle.scope "EchoClient_1")
          "EchoClient_1" := by
        have found : ((SymbolTable.ofFiles [tangle, figures]).lookup?
            (fullName tangle.scope "EchoClient_1")).any (fun symbol =>
              symbol.isMapEntry == false && Text.lastSegment symbol.localPath == "EchoClient_1") = true := by
          decide +kernel
        simpa [SymbolTable.Calls, Option.any_eq_true] using found
      have isAnswer : nameOf "EchoClient" ∈ (Rpc.Naming.declareAll { pool := imports.pool }
          [("EchoClient", "client:Echo"), ("EchoClient", ""), ("Echo", "client:Echo")]).1 := by
        rw [answers]
        exact List.mem_cons_of_mem _ List.mem_cons_self
      obtain ⟨_, _, _, _, _, notTypes⟩ := avoided _ isAnswer
      exact notTypes _ rfl named List.mem_cons_self _ _ _ .top "EchoClient_1" (by decide) _ calls
  · obtain ⟨compilation, isOutput, interfaces, pairs, wired, areFor, _⟩ := declared_names_wire_services.2 _ _ _
      rfl (congrArg Prod.fst tangleCompilation.generateFile_eq)
    exact ⟨compilation, isOutput, interfaces, pairs, wired, areFor.length_eq.symm⟩

end Generator

end Typewire
