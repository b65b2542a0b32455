import Typewire.Proofs.Services

/-!
# Names of service classes

A name for services is declared under a key, and the same key leads to the same name for the rest of the
run. Different keys lead to different names, because each name was free when its key was first used. The
declarations made for services are named by a list of keys that depends on the style and the services
alone; where services have different names the keys differ, and so do the names of the declarations.
-/
namespace Typewire

open Code

/-! ### Maps without repeated values -/

namespace OrderedMap

variable {α β : Type} [DecidableEq α]

/-- A new key goes to the end. -/
theorem put_of_get?_eq_none {map : OrderedMap α β} {key : α} (absent : get? map key = none) (value : β) :
    put map key value = map ++ [(key, value)] := by
  induction map with
  | nil => rfl
  | cons entry rest ih =>
    have differs : entry.1 ≠ key := by
      intro equal
      simp [get?, equal] at absent
    have later : get? rest key = none := by
      simpa [get?, differs] using absent
    rw [put, if_neg differs, ih later, List.cons_append]

/-- Where values are distinct, different keys have different values. -/
theorem nodup_of_get? {map : OrderedMap α β} (distinct : (map.map Prod.snd).Nodup) {keys : List α}
    {values : List β} (found : List.Forall₂ (fun key value => get? map key = some value) keys values)
    (keysDistinct : keys.Nodup) : values.Nodup := by
  induction found with
  | nil => exact List.nodup_nil
  | @cons key value keys values here others ih =>
    rw [List.nodup_cons] at keysDistinct ⊢
    refine ⟨fun again => keysDistinct.1 ?_, ih keysDistinct.2⟩
    obtain ⟨other, member, there⟩ := exists_left_of_forall₂ others again
    -- Two entries of one value are the same entry, so their keys are equal.
    have same : (key, value) = (other, value) :=
      List.inj_on_of_nodup_map distinct (mem_of_get? here) (mem_of_get? there) rfl
    obtain rfl : key = other := congrArg Prod.fst same
    exact member

end OrderedMap

namespace Rpc

/-! ### Declared names -/

/-- The declared names are distinct, and all of them are taken. -/
structure Naming.Apart (naming : Naming) : Prop where
  distinct : (naming.declared.map Prod.snd).Nodup
  taken : ∀ entry ∈ naming.declared, entry.2 ∈ naming.pool.taken

/-- Declared names stay apart, and every key keeps its name. -/
def Naming.Extends (before after : Naming) : Prop :=
  before.Apart → after.Apart ∧ ∀ key given, before.declared.get? key = some given →
    after.declared.get? key = some given

theorem Naming.Apart.initial (pool : NamePool) : Naming.Apart { pool } :=
  ⟨List.nodup_nil, by simp⟩

instance : Std.Refl Naming.Extends :=
  ⟨fun _ apart => ⟨apart, fun _ _ found => found⟩⟩

instance : IsTrans Naming Naming.Extends where
  trans := by
    intro first second third toSecond toThird apart
    obtain ⟨apartSecond, keptSecond⟩ := toSecond apart
    obtain ⟨apartThird, keptThird⟩ := toThird apartSecond
    exact ⟨apartThird, fun key given found => keptThird key given (keptSecond key given found)⟩

variable {start finish : Naming} {context : Context} {style : Style}

/-- Declaring a name extends the naming, and the name is found under its key afterwards. -/
theorem Naming.declare_extends (naming : Naming) (name key : String) :
    naming.Extends (naming.declare name key).2 ∧
      (naming.declare name key).2.declared.get? (keyFor name key) = some (naming.declare name key).1 := by
  rw [Naming.declare]
  split
  next given known => exact ⟨refl_of Naming.Extends naming, known⟩
  next unknown =>
    have grown := OrderedMap.put_of_get?_eq_none unknown (naming.pool.claim name).1
    refine ⟨fun apart => ⟨⟨?_, ?_⟩, ?_⟩, ?_⟩
    · -- The names declared before were taken, so the new one is none of them.
      have fresh : (naming.pool.claim name).1 ∉ naming.declared.map Prod.snd := by
        intro again
        obtain ⟨entry, member, same⟩ := List.mem_map.mp again
        exact naming.pool.claim_fresh name (same ▸ apart.taken entry member)
      dsimp only
      rw [grown, List.map_append, List.map_singleton, ← List.concat_eq_append]
      exact (List.nodup_concat _ _).mpr ⟨fresh, apart.distinct⟩
    · intro entry member
      rcases OrderedMap.mem_put member with rfl | before
      · simp
      · simp [apart.taken entry before]
    · intro other given found
      have differs : other ≠ keyFor name key := by
        rintro rfl
        rw [unknown] at found
        cases found
      simp only [OrderedMap.get?_put, if_neg differs, found]
    · simp only [OrderedMap.get?_put, if_pos]

theorem declare_moves (name key : String) : Moves Naming.Extends (declare name key) := by
  intro before outcome after ran
  cases ran
  exact (before.declare_extends name key).1

theorem warn_moves (warnings : List Warning) : Moves Naming.Extends (warn warnings) := by
  intro before outcome after ran
  cases ran
  exact fun apart => ⟨⟨apart.distinct, apart.taken⟩, fun _ _ found => found⟩

/-- A name that was declared in the course of a run is found under its key at the end. -/
theorem declare_during (apart : start.Apart) {name key given : String}
    (made : During Naming.Extends start finish (declare name key) given) :
    finish.declared.get? (Naming.keyFor name key) = some given := by
  obtain ⟨before, after, begins, ran, ends⟩ := made
  cases ran
  obtain ⟨extended, found⟩ := before.declare_extends name key
  have apartBefore := (begins apart).1
  exact (ends (extended apartBefore).1).2 _ _ found

theorem interfaceNames_moves : Moves Naming.Extends interfaceNames := by
  refine Moves.bind (declare_moves _ _) fun unary => Moves.bind (declare_moves _ _) fun server => ?_
  exact Moves.bind (declare_moves _ _) fun client => Moves.bind (declare_moves _ _) fun bidi =>
    Moves.pure _

/-- Every call interface is declared under its preferred name as the key. -/
theorem interfaceNames_during (apart : start.Apart) {interfaces : CallInterfaces}
    (made : During Naming.Extends start finish interfaceNames interfaces) (shape : MethodShape) :
    finish.declared.get? (preferredInterfaces.get shape) = some (interfaces.get shape) := by
  -- Each of the four is declared at its own time and keeps its name to the end of the run.
  have lastMoves : ∀ unary server client, Moves Naming.Extends (do
      let bidi ← declare preferredInterfaces.bidiStreaming ""
      return ⟨unary, server, client, bidi⟩ : Declaring CallInterfaces) :=
    fun unary server client => Moves.bind (declare_moves _ _) fun bidi => Moves.pure _
  obtain ⟨unary, unaryMade, rest⟩ := made.bind (declare_moves _ _) fun unary =>
    Moves.bind (declare_moves _ _) fun server => Moves.bind (declare_moves _ _) fun client =>
      lastMoves unary server client
  obtain ⟨server, serverMade, rest⟩ := rest.bind (declare_moves _ _) fun server =>
    Moves.bind (declare_moves _ _) fun client => lastMoves unary server client
  obtain ⟨client, clientMade, rest⟩ := rest.bind (declare_moves _ _) fun client =>
    lastMoves unary server client
  obtain ⟨bidi, bidiMade, last⟩ := rest.bind (declare_moves _ _) fun bidi => Moves.pure _
  rw [← last.pure]
  cases shape with
  | unary => exact declare_during apart unaryMade
  | serverStreaming => exact declare_during apart serverMade
  | clientStreaming => exact declare_during apart clientMade
  | bidiStreaming => exact declare_during apart bidiMade

/-! ### Keys of declarations -/

/-- The keys of what a style declares once in a file. -/
def sharedKeys : Style → List String
  | .node => MethodShape.all.map preferredInterfaces.get
  | .web | .typesOnly => []

/-- The key of the server of a service, if the style has servers. -/
def serverKeys (style : Style) (service : Schema.Service) : List String :=
  match style with
  | .node => ["server:" ++ service.name]
  | .web | .typesOnly => []

def clientKeys (style : Style) (service : Schema.Service) : List String :=
  match style with
  | .node | .web => ["client:" ++ service.name]
  | .typesOnly => []

/-- The keys of everything that is declared for services, in order. -/
def declarationKeys (style : Style) (services : List Schema.Service) : List String :=
  sharedKeys style ++ services.flatMap fun service => serverKeys style service ++ clientKeys style service

/-- A declaration has the name that is declared under a key. -/
def NamedBy (naming : Naming) (key : String) (decl : Declaration) : Prop :=
  ∃ name, decl.ownName? = some name ∧ naming.declared.get? key = some name

theorem spellMethods_moves (context : Context) (service : Schema.Service) :
    Moves Naming.Extends (liftM (spellMethods context service) : Declaring (List Method)) :=
  Moves.liftM _

theorem sharedTypes_moves (style : Style) (context : Context) :
    Moves Naming.Extends (sharedTypes style context) := by
  cases style with
  | node => exact Moves.bind interfaceNames_moves fun _ => Moves.pure _
  | web => exact Moves.pure _
  | typesOnly => exact Moves.pure _

/-- The call interfaces that are shared are declared under their names. -/
theorem nodeShared_during (apart : start.Apart) {decls : List Declaration}
    (made : During Naming.Extends start finish (sharedTypes .node context) decls) :
    ∃ interfaces : CallInterfaces,
      decls = MethodShape.all.map
        (fun shape => .callInterface (interfaces.get shape) shape context.imports.rpc) ∧
      ∀ shape, finish.declared.get? (preferredInterfaces.get shape) = some (interfaces.get shape) := by
  obtain ⟨interfaces, interfacesMade, last⟩ := made.bind interfaceNames_moves fun _ => Moves.pure _
  exact ⟨interfaces, last.pure.symm, interfaceNames_during apart interfacesMade⟩

/-- What is shared in a file has the names of its keys. -/
theorem sharedTypes_during (apart : start.Apart) {decls : List Declaration}
    (made : During Naming.Extends start finish (sharedTypes style context) decls) :
    List.Forall₂ (NamedBy finish) (sharedKeys style) decls := by
  cases style with
  | node =>
    obtain ⟨interfaces, rfl, found⟩ := nodeShared_during apart made
    rw [sharedKeys, List.forall₂_map_left_iff, List.forall₂_map_right_iff]
    exact List.forall₂_same.mpr fun shape _ => ⟨_, rfl, found shape⟩
  | web =>
    rw [← made.pure]
    exact .nil
  | typesOnly =>
    rw [← made.pure]
    exact .nil

theorem nodeClient_moves (context : Context) (service : Schema.Service) :
    Moves Naming.Extends (nodeClient context service) := by
  refine Moves.bind (declare_moves _ _) fun _ => Moves.bind (spellMethods_moves _ _) fun _ => ?_
  exact Moves.bind (declare_moves _ _) fun _ => Moves.bind interfaceNames_moves fun _ => Moves.pure _

theorem webClient_moves (context : Context) (service : Schema.Service) :
    Moves Naming.Extends (webClient context service) := by
  refine Moves.bind (spellMethods_moves _ _) fun _ => Moves.bind (warn_moves _) fun _ => ?_
  exact Moves.bind (declare_moves _ _) fun _ => Moves.pure _

theorem server?_moves (style : Style) (context : Context) (service : Schema.Service) :
    Moves Naming.Extends (server? style context service) := by
  cases style with
  | node =>
    exact Moves.bind (declare_moves _ _) fun _ => Moves.bind (spellMethods_moves _ _) fun _ =>
      Moves.pure _
  | web => exact Moves.pure _
  | typesOnly => exact Moves.pure _

theorem client?_moves (style : Style) (context : Context) (service : Schema.Service) :
    Moves Naming.Extends (client? style context service) := by
  cases style with
  | node => exact Moves.bind (nodeClient_moves context service) fun _ => Moves.pure _
  | web => exact Moves.bind (webClient_moves context service) fun _ => Moves.pure _
  | typesOnly => exact Moves.pure _

/-- A server is declared under the name of its key. -/
theorem nodeServer_during (apart : start.Apart) {service : Schema.Service} {server : Option Declaration}
    (made : During Naming.Extends start finish (server? .node context service) server) :
    ∃ decl : ServiceClass, server = some (.nodeServer decl) ∧ decl.serviceName = service.name ∧
      finish.declared.get? ("server:" ++ service.name) = some decl.name := by
  obtain ⟨name, nameMade, rest⟩ := made.bind (declare_moves _ _) fun _ =>
    Moves.bind (spellMethods_moves _ _) fun _ => Moves.pure _
  obtain ⟨methods, _, last⟩ := rest.bind (spellMethods_moves _ _) fun _ => Moves.pure _
  exact ⟨_, last.pure.symm, rfl, declare_during apart nameMade⟩

/-- The server of a service has the name of its key. -/
theorem server?_during (apart : start.Apart) {service : Schema.Service} {server : Option Declaration}
    (made : During Naming.Extends start finish (server? style context service) server) :
    List.Forall₂ (NamedBy finish) (serverKeys style service) server.toList := by
  cases style with
  | node =>
    obtain ⟨decl, rfl, _, found⟩ := nodeServer_during apart made
    exact .cons ⟨_, rfl, found⟩ .nil
  | web =>
    rw [← made.pure]
    exact .nil
  | typesOnly =>
    rw [← made.pure]
    exact .nil

/-- A client is declared under the name of its key, and so are its server and the call interfaces under the
names that it has for them. -/
theorem nodeClient_during (apart : start.Apart) {service : Schema.Service} {decl : Declaration}
    (made : During Naming.Extends start finish (nodeClient context service) decl) :
    ∃ (client : ServiceClass) (server : String) (interfaces : CallInterfaces),
      decl = .nodeClient client server interfaces ∧ client.serviceName = service.name ∧
      finish.declared.get? ("client:" ++ service.name) = some client.name ∧
      finish.declared.get? ("server:" ++ service.name) = some server ∧
      ∀ shape, finish.declared.get? (preferredInterfaces.get shape) = some (interfaces.get shape) := by
  obtain ⟨name, nameMade, rest⟩ := made.bind (declare_moves _ _) fun _ =>
    Moves.bind (spellMethods_moves _ _) fun _ => Moves.bind (declare_moves _ _) fun _ =>
      Moves.bind interfaceNames_moves fun _ => Moves.pure _
  obtain ⟨methods, _, rest⟩ := rest.bind (spellMethods_moves _ _) fun _ =>
    Moves.bind (declare_moves _ _) fun _ => Moves.bind interfaceNames_moves fun _ => Moves.pure _
  obtain ⟨server, serverMade, rest⟩ := rest.bind (declare_moves _ _) fun _ =>
    Moves.bind interfaceNames_moves fun _ => Moves.pure _
  obtain ⟨interfaces, interfacesMade, last⟩ := rest.bind interfaceNames_moves fun _ => Moves.pure _
  exact ⟨_, server, interfaces, last.pure.symm, rfl, declare_during apart nameMade,
    declare_during apart serverMade, interfaceNames_during apart interfacesMade⟩

theorem webClient_during (apart : start.Apart) {service : Schema.Service} {decl : Declaration}
    (made : During Naming.Extends start finish (webClient context service) decl) :
    NamedBy finish ("client:" ++ service.name) decl := by
  obtain ⟨methods, _, rest⟩ := made.bind (spellMethods_moves _ _) fun _ =>
    Moves.bind (warn_moves _) fun _ => Moves.bind (declare_moves _ _) fun _ => Moves.pure _
  obtain ⟨_, _, rest⟩ := rest.bind (warn_moves _) fun _ =>
    Moves.bind (declare_moves _ _) fun _ => Moves.pure _
  obtain ⟨name, nameMade, last⟩ := rest.bind (declare_moves _ _) fun _ => Moves.pure _
  rw [← last.pure]
  exact ⟨name, rfl, declare_during apart nameMade⟩

theorem client?_during (apart : start.Apart) {service : Schema.Service} {client : Option Declaration}
    (made : During Naming.Extends start finish (client? style context service) client) :
    List.Forall₂ (NamedBy finish) (clientKeys style service) client.toList := by
  cases style with
  | node =>
    obtain ⟨decl, declMade, last⟩ := made.bind (nodeClient_moves context service) fun _ => Moves.pure _
    obtain ⟨client, _, _, rfl, _, found, _⟩ := nodeClient_during apart declMade
    rw [← last.pure]
    exact .cons ⟨_, rfl, found⟩ .nil
  | web =>
    obtain ⟨decl, declMade, last⟩ := made.bind (webClient_moves context service) fun _ => Moves.pure _
    rw [← last.pure]
    exact .cons (webClient_during apart declMade) .nil
  | typesOnly =>
    rw [← made.pure]
    exact .nil

/-- What is made for services: the shared types, then for each service the server and the client. -/
theorem declareServices_parts {pool : NamePool} {naming : Naming} {decls : List Declaration}
    (declared : (declareServices style context).run { pool } = (.ok decls, naming)) :
    naming.Apart ∧ ∃ shared parts, decls = shared ++ parts.flatten ∧
      During Naming.Extends { pool } naming (sharedTypes style context) shared ∧
      List.Forall₂ (fun service part => ∃ server client, part = server.toList ++ client.toList ∧
        During Naming.Extends { pool } naming (server? style context service) server ∧
        During Naming.Extends { pool } naming (client? style context service) client)
        context.file.services parts := by
  -- Every stage only adds names, so what one of them declared is still there at the end.
  have classMoves : ∀ service, Moves Naming.Extends (do
      let server ← server? style context service
      let client ← client? style context service
      return server.toList ++ client.toList : Declaring (List Declaration)) := fun service =>
    Moves.bind (server?_moves style context service) fun _ =>
      Moves.bind (client?_moves style context service) fun _ => Moves.pure _
  have allMoves : Moves Naming.Extends (declareServices style context) :=
    Moves.bind (sharedTypes_moves style context) fun _ =>
      Moves.bind (Moves.mapM fun service _ => classMoves service) fun _ => Moves.pure _
  refine ⟨(allMoves _ _ _ declared (Naming.Apart.initial pool)).1, ?_⟩
  have made : During Naming.Extends { pool } naming (declareServices style context) decls :=
    ⟨_, _, refl_of _ _, declared, refl_of _ _⟩
  obtain ⟨shared, sharedMade, rest⟩ := made.bind (sharedTypes_moves style context) fun _ =>
    Moves.bind (Moves.mapM fun service _ => classMoves service) fun _ => Moves.pure _
  obtain ⟨parts, partsMade, last⟩ := rest.bind
    (Moves.mapM fun service _ => classMoves service) fun _ => Moves.pure _
  refine ⟨shared, parts, last.pure.symm, sharedMade, ?_⟩
  refine (partsMade.mapM fun service _ => classMoves service).imp fun service part partMade => ?_
  obtain ⟨server, serverMade, rest⟩ := partMade.bind (server?_moves style context service) fun _ =>
    Moves.bind (client?_moves style context service) fun _ => Moves.pure _
  obtain ⟨client, clientMade, last⟩ := rest.bind (client?_moves style context service) fun _ =>
    Moves.pure _
  exact ⟨server, client, last.pure.symm, serverMade, clientMade⟩

/-- Everything made for services has the name that was declared under its key. -/
theorem declareServices_namedBy {pool : NamePool} {naming : Naming} {decls : List Declaration}
    (declared : (declareServices style context).run { pool } = (.ok decls, naming)) :
    naming.Apart ∧
      List.Forall₂ (NamedBy naming) (declarationKeys style context.file.services) decls := by
  have initial := Naming.Apart.initial pool
  obtain ⟨apart, shared, parts, rfl, sharedMade, partsMade⟩ := declareServices_parts declared
  rw [declarationKeys, List.flatMap_def]
  refine ⟨apart, List.rel_append (sharedTypes_during initial sharedMade) (List.rel_flatten ?_)⟩
  rw [List.forall₂_map_left_iff]
  refine partsMade.imp ?_
  rintro service _ ⟨server, client, rfl, serverMade, clientMade⟩
  exact List.rel_append (server?_during initial serverMade) (client?_during initial clientMade)

/-! ### Distinct keys -/

theorem serverKey_ne_clientKey (service other : String) : "server:" ++ service ≠ "client:" ++ other := by
  intro equal
  have first := congrArg (fun text => text.toList.head?) equal
  simp at first

/-- The key of an interface starts with another letter than the keys of classes. -/
theorem interfaceKey_ne (shape : MethodShape) (service : String) :
    preferredInterfaces.get shape ≠ "server:" ++ service ∧
      preferredInterfaces.get shape ≠ "client:" ++ service := by
  constructor <;> intro equal <;> have first := congrArg (fun text => text.toList.head?) equal <;>
    cases shape <;> simp [preferredInterfaces, CallInterfaces.get] at first

theorem mem_serviceKeys {service : Schema.Service} {key : String}
    (isKey : key ∈ serverKeys style service ++ clientKeys style service) :
    key = "server:" ++ service.name ∨ key = "client:" ++ service.name := by
  cases style <;> simp_all [serverKeys, clientKeys]

theorem serviceKeys_nodup (style : Style) (service : Schema.Service) :
    (serverKeys style service ++ clientKeys style service).Nodup := by
  cases style <;> simp [serverKeys, clientKeys]

theorem sharedKeys_nodup (style : Style) : (sharedKeys style).Nodup := by
  cases style with
  | node => decide
  | web => exact List.nodup_nil
  | typesOnly => exact List.nodup_nil

/-- Services of different names share no key. -/
theorem serviceKeys_disjoint {service other : Schema.Service} (differ : service.name ≠ other.name) :
    List.Disjoint (serverKeys style service ++ clientKeys style service)
      (serverKeys style other ++ clientKeys style other) := by
  intro key ofService ofOther
  rcases mem_serviceKeys ofService with rfl | rfl <;> rcases mem_serviceKeys ofOther with same | same
  · exact differ (String.append_right_inj _ |>.mp same)
  · exact serverKey_ne_clientKey _ _ same
  · exact serverKey_ne_clientKey _ _ same.symm
  · exact differ (String.append_right_inj _ |>.mp same)

/-- Services of different names have different keys. -/
theorem declarationKeys_nodup (style : Style) {services : List Schema.Service}
    (distinct : (services.map (·.name)).Nodup) : (declarationKeys style services).Nodup := by
  rw [declarationKeys, List.nodup_append']
  refine ⟨sharedKeys_nodup style, ?_, ?_⟩
  · rw [List.nodup_flatMap]
    refine ⟨fun service _ => serviceKeys_nodup style service, ?_⟩
    exact (List.pairwise_map.mp distinct).imp fun differ => serviceKeys_disjoint differ
  · intro key isShared isClass
    obtain ⟨service, _, ofService⟩ := List.mem_flatMap.mp isClass
    cases style with
    | node =>
      obtain ⟨shape, _, rfl⟩ := List.mem_map.mp isShared
      rcases mem_serviceKeys ofService with same | same
      · exact (interfaceKey_ne shape service.name).1 same
      · exact (interfaceKey_ne shape service.name).2 same
    | web => cases isShared
    | typesOnly => cases isShared

theorem ownNames_of_namedBy {naming : Naming} {keys : List String} {decls : List Declaration}
    (named : List.Forall₂ (NamedBy naming) keys decls) :
    List.Forall₂ (fun key name => naming.declared.get? key = some name) keys
      (decls.filterMap Declaration.ownName?) := by
  induction named with
  | nil => exact .nil
  | cons here _ ih =>
    obtain ⟨name, isNamed, found⟩ := here
    rw [List.filterMap_cons_some isNamed]
    exact .cons found ih

/-- Where services have different names, no two declarations made for them have the same name. -/
theorem declareServices_nodup {pool : NamePool} {naming : Naming} {decls : List Declaration}
    (distinct : (context.file.services.map (·.name)).Nodup)
    (declared : (declareServices style context).run { pool } = (.ok decls, naming)) :
    (decls.filterMap Declaration.ownName?).Nodup := by
  obtain ⟨apart, named⟩ := declareServices_namedBy declared
  exact OrderedMap.nodup_of_get? apart.distinct (ownNames_of_namedBy named)
    (declarationKeys_nodup style distinct)

end Rpc

end Typewire
