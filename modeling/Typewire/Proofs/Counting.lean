import Typewire.Proofs.Loading
import Typewire.Proofs.LocalReferences
import Typewire.Proofs.Output
import Typewire.Summary

/-!
# What a summary counts

A summary counts in the schema, without looking at the generated code. The classes of a file, through all
its namespaces, stand for its messages in the same order: each message that is no map entry has one class,
with one member for each field and one group for each oneof that is not synthetic. Enumerations are as many
as in the schema. So the counts of a summary are the counts of what is generated.

A summary tells a map field by its key, the class by its value; in a loaded file a field has both or none.

Main result: `summary_counts_generated`.
-/
namespace Typewire

open Schema (Enum File Message)

namespace Schema

/-! ### Counted messages -/

theorem Message.declared_of_entry {message : Message} (entry : message.mapEntry = true) :
    message.declared = [] := by
  cases message
  subst entry
  rfl

/-- A message counts once, before the messages inside it. -/
theorem Message.declared_of_class {message : Message} (declared : message.mapEntry = false) :
    message.declared = message :: Message.allDeclared message.nestedMessages := by
  cases message
  subst declared
  rfl

theorem Message.allDeclared_eq_flatMap (messages : List Message) :
    Message.allDeclared messages = messages.flatMap Message.declared := by
  induction messages with
  | nil => rfl
  | cons message messages ih => rw [allDeclared, ih, List.flatMap_cons]

theorem Message.declared_subset_family (message : Message) : message.declared ⊆ message.family := by
  induction message using Message.nested_induction with
  | step message nested =>
    intro other isDeclared
    cases entry : message.mapEntry with
    | true =>
      rw [declared_of_entry entry] at isDeclared
      cases isDeclared
    | false =>
      rw [declared_of_class entry, allDeclared_eq_flatMap] at isDeclared
      rw [family_eq, families_eq_flatMap]
      rcases List.mem_cons.mp isDeclared with rfl | below
      · exact List.mem_cons_self
      · obtain ⟨inner, isNested, inInner⟩ := List.mem_flatMap.mp below
        exact List.mem_cons_of_mem _ (List.mem_flatMap.mpr ⟨inner, isNested, nested inner isNested inInner⟩)

theorem Field.IsLoaded.isMap_eq {field : Field} (loaded : field.IsLoaded) :
    field.isMap = field.parts?.isSome := by
  cases loaded with
  | single simple => simp [isMap, parts?, simple.noKey]
  | map hasKey hasValue _ _ => simp [isMap, parts?, hasKey, hasValue]

/-- In a loaded file the fields that are marked as maps are those with a key and a value. -/
theorem File.isMap_of_loaded {descriptor : Descriptor.File} {file : File}
    (loaded : File.load descriptor = .ok file) :
    ∀ message ∈ Message.allDeclared file.messages, ∀ field ∈ message.fields,
      field.isMap = field.parts?.isSome := by
  intro message isDeclared field isField
  have member : message ∈ file.allMessages := by
    rw [Message.allDeclared_eq_flatMap] at isDeclared
    obtain ⟨top, isTop, inTop⟩ := List.mem_flatMap.mp isDeclared
    exact Message.family_subset isTop (Message.declared_subset_family top inTop)
  exact (File.load_isLoaded loaded member isField).isMap_eq

end Schema

namespace Code

/-! ### Declarations at every depth -/

mutual

/-- A declaration, followed by what is declared in it at every depth. -/
def Declaration.spread : Declaration → List Declaration
  | .namespaced name body => .namespaced name body :: Declaration.spreadAll body
  | decl => [decl]

/-- All declarations of a file at every depth. -/
def Declaration.spreadAll : List Declaration → List Declaration
  | [] => []
  | decl :: decls => decl.spread ++ Declaration.spreadAll decls

end

def Declaration.class? : Declaration → Option MessageClass
  | .messageClass decl => some decl
  | .enumeration .. | .namespaced .. | .secondName .. | .callInterface .. => none
  | .nodeServer .. | .nodeClient .. | .webClient .. => none

def classes (decls : List Declaration) : List MessageClass :=
  (Declaration.spreadAll decls).filterMap Declaration.class?

def enumerations (decls : List Declaration) : List Declaration :=
  (Declaration.spreadAll decls).filter Declaration.isEnumeration

theorem spreadAll_eq_flatMap (decls : List Declaration) :
    Declaration.spreadAll decls = decls.flatMap Declaration.spread := by
  induction decls with
  | nil => rfl
  | cons decl decls ih => rw [Declaration.spreadAll, ih, List.flatMap_cons]

theorem spreadAll_append (first second : List Declaration) :
    Declaration.spreadAll (first ++ second) = Declaration.spreadAll first ++ Declaration.spreadAll second := by
  simp only [spreadAll_eq_flatMap, List.flatMap_append]

theorem spreadAll_namespaced (name : String) (body : List Declaration) :
    Declaration.spreadAll [.namespaced name body] = .namespaced name body :: Declaration.spreadAll body := by
  rw [Declaration.spreadAll, Declaration.spread, Declaration.spreadAll, List.append_nil]

/-- Between a class and what is nested in it there is at most the namespace of the class. -/
theorem spreadAll_withNested (decl : MessageClass) (nested : List Declaration) :
    ∃ around, (around = [] ∨ around = [.namespaced decl.name nested]) ∧
      Declaration.spreadAll (withNested decl nested) =
        .messageClass decl :: (around ++ Declaration.spreadAll nested) := by
  rw [withNested]
  split
  next empty => exact ⟨[], .inl rfl, by rw [List.isEmpty_iff.mp empty]; rfl⟩
  next =>
    refine ⟨_, .inr rfl, ?_⟩
    rw [← List.singleton_append, spreadAll_append, spreadAll_namespaced]
    rfl

@[simp] theorem classes_append (first second : List Declaration) :
    classes (first ++ second) = classes first ++ classes second := by
  rw [classes, spreadAll_append, List.filterMap_append, classes, classes]

@[simp] theorem enumerations_append (first second : List Declaration) :
    enumerations (first ++ second) = enumerations first ++ enumerations second := by
  rw [enumerations, spreadAll_append, List.filter_append, enumerations, enumerations]

@[simp] theorem classes_namespaced (name : String) (body : List Declaration) :
    classes [.namespaced name body] = classes body := by
  rw [classes, spreadAll_namespaced, List.filterMap_cons_none rfl, classes]

@[simp] theorem enumerations_namespaced (name : String) (body : List Declaration) :
    enumerations [.namespaced name body] = enumerations body := by
  rw [enumerations, spreadAll_namespaced, List.filter_cons_of_neg (by simp [Declaration.isEnumeration]),
    enumerations]

/-- Without namespaces the declarations at every depth are those at the top. -/
theorem spreadAll_of_flat {decls : List Declaration}
    (flat : ∀ name body, .namespaced name body ∉ decls) : Declaration.spreadAll decls = decls := by
  have each : ∀ decl ∈ decls, decl.spread = [decl] := by
    intro decl member
    refine Declaration.spread.eq_2 decl ?_
    rintro name body rfl
    exact flat name body member
  rw [spreadAll_eq_flatMap, List.flatMap_congr each, List.flatMap_singleton']

theorem classes_withNested (decl : MessageClass) (nested : List Declaration) :
    classes (withNested decl nested) = decl :: classes nested := by
  obtain ⟨around, shape, spread⟩ := spreadAll_withNested decl nested
  rw [classes, spread]
  rcases shape with rfl | rfl <;> rfl

theorem enumerations_withNested (decl : MessageClass) (nested : List Declaration) :
    enumerations (withNested decl nested) = enumerations nested := by
  obtain ⟨around, shape, spread⟩ := spreadAll_withNested decl nested
  rw [enumerations, spread]
  rcases shape with rfl | rfl <;> rfl

/-- Beside the types there are no classes of messages and no enumerations. -/
theorem counted_of_isBeside {decls : List Declaration} (beside : ∀ decl ∈ decls, decl.isBeside = true) :
    classes decls = [] ∧ enumerations decls = [] := by
  have flat : ∀ name body, .namespaced name body ∉ decls := fun name body member => by
    cases beside _ member
  rw [classes, enumerations, spreadAll_of_flat flat, List.filterMap_eq_nil_iff, List.filter_eq_nil_iff]
  constructor
  · intro decl member
    cases decl with
    | messageClass decl => cases beside _ member
    | _ => rfl
  · intro decl member
    cases decl with
    | enumeration name members => cases beside _ member
    | _ => simp [Declaration.isEnumeration]

theorem counted_of_isEnumeration {decls : List Declaration}
    (each : ∀ decl ∈ decls, decl.isEnumeration = true) :
    classes decls = [] ∧ enumerations decls = decls := by
  have flat : ∀ name body, .namespaced name body ∉ decls := fun name body member => by
    cases each _ member
  rw [classes, enumerations, spreadAll_of_flat flat, List.filterMap_eq_nil_iff, List.filter_eq_self]
  refine ⟨fun decl member => ?_, each⟩
  cases decl with
  | messageClass decl => cases each _ member
  | _ => rfl

/-! ### Classes and their messages -/

/-- A class has a member for each field of a message and a group for each of its declared oneofs. -/
structure SameShape (message : Message) (decl : MessageClass) : Prop where
  members : List.Forall₂ (fun field member => member.isMap = field.parts?.isSome) message.fields decl.members
  oneofs : decl.oneofs.length = (message.oneofs.filter (!·.synthetic)).length

/-- Declarations have the classes of some messages, in order, and the enumerations nested in them on top of
some others. -/
structure Covers (enums : List Enum) (messages : List Message) (decls : List Declaration) : Prop where
  classes : List.Forall₂ SameShape messages (classes decls)
  enumerations : (enumerations decls).length = enums.length + (messages.flatMap (·.nestedEnums)).length

/-- What covers two groups of types covers them together. -/
theorem Covers.append {enums others : List Enum} {messages more : List Message}
    {first second : List Declaration} (ofFirst : Covers enums messages first)
    (ofSecond : Covers others more second) :
    Covers (enums ++ others) (messages ++ more) (first ++ second) := by
  constructor
  · rw [classes_append]
    exact List.rel_append ofFirst.classes ofSecond.classes
  · simp only [enumerations_append, List.length_append, List.flatMap_append, ofFirst.enumerations,
      ofSecond.enumerations]
    omega

theorem Covers.congr {enums : List Enum} {messages : List Message} {first second : List Declaration}
    (covers : Covers enums messages first) (sameClasses : Code.classes second = Code.classes first)
    (sameEnumerations : Code.enumerations second = Code.enumerations first) :
    Covers enums messages second :=
  ⟨sameClasses ▸ covers.classes, sameEnumerations ▸ covers.enumerations⟩

/-- Parts that each cover a message with everything inside it cover all messages together. -/
theorem Covers.flatten {messages : List Message} {parts : List (List Declaration)}
    (each : List.Forall₂ (fun message part => Covers [] message.declared part) messages parts) :
    Covers [] (Message.allDeclared messages) parts.flatten := by
  induction each with
  | nil => exact ⟨.nil, rfl⟩
  | @cons message part messages parts first others ih =>
    rw [Message.allDeclared, List.flatten_cons]
    exact first.append ih

variable (context : Context)

theorem buildField_isMap (scope : String) (field : Schema.Field) :
    Ensures (fun _ => True) (buildField context scope field) fun member =>
      member.isMap = field.parts?.isSome := by
  cases parts : field.parts? with
  | none =>
    rw [buildField_of_single parts]
    exact Ensures.bind (Ensures.anything _) fun element _ => Ensures.pure rfl
  | some both =>
    rw [buildField_of_map parts]
    exact Ensures.bind (Ensures.anything _) fun key _ =>
      Ensures.bind (Ensures.anything _) fun value _ => Ensures.pure rfl

/-- A member is a map exactly if its field has a key and a value. -/
theorem buildMember_isMap (scope full : String) (oneofs : List Schema.Oneof) (field : Schema.Field) :
    Ensures (fun _ => True) (buildMember context scope full oneofs field) fun member =>
      member.isMap = field.parts?.isSome := by
  refine Ensures.bind (buildField_isMap context scope field) fun member agrees => Ensures.liftM ?_
  intro result joined
  obtain ⟨_, _, sameValue⟩ := joinGroup_eq_ok joined
  rw [Field.isMap, sameValue]
  exact agrees

theorem buildEnums_counted {scope : String} {enums : List Enum} {decls : List Declaration}
    (built : buildEnums context scope enums = .ok decls) : Covers enums [] decls := by
  have related := (except_mapM_eq_ok_iff _ _ _).mp built
  obtain ⟨noClasses, all⟩ := counted_of_isEnumeration (enumerations_of_ok related)
  refine ⟨by rw [noClasses]; exact .nil, ?_⟩
  rw [all, related.length_eq]
  rfl

/-- The declarations of a scope, as soon as each message of it has its class and what is nested in it. -/
theorem buildScope_counted_of {messages : List Message}
    (each : ∀ message ∈ messages, ∀ scope, Ensures (fun _ => True) (buildMessage context scope message)
      (Covers [] message.declared)) (scope : String) (enums : List Enum) :
    Ensures (fun _ => True) (buildScope context scope enums messages)
      (Covers enums (Message.allDeclared messages)) := by
  rw [buildScope, buildMessages_eq]
  refine Ensures.bind (Ensures.liftM fun decls => buildEnums_counted context) fun decls ofEnums => ?_
  have parts := Ensures.mapM_forall₂ (I := fun _ => True) fun message member => each message member scope
  refine Ensures.bind (P := Covers [] (Message.allDeclared messages)) ?_ fun decls' ofMessages => ?_
  · exact Ensures.bind parts fun parts related => Ensures.pure (Covers.flatten related)
  · apply Ensures.pure
    simpa using ofEnums.append ofMessages

/-- What is built for a message covers it with everything inside it. -/
theorem buildMessage_counted (message : Message) :
    ∀ scope, Ensures (fun _ => True) (buildMessage context scope message)
      (Covers [] message.declared) := by
  induction message using Message.nested_induction with
  | step message nested =>
    intro scope
    cases entry : message.mapEntry with
    | true =>
      rw [buildMessage_of_entry entry, Message.declared_of_entry entry]
      exact Ensures.pure ⟨.nil, rfl⟩
    | false =>
      rw [buildMessage_of_declared entry, Message.declared_of_class entry]
      refine Ensures.bind (Ensures.anything _) fun symbol _ => ?_
      refine Ensures.bind (buildScope_counted_of context nested _ _) fun inside ofInside => ?_
      have members := Ensures.mapM_forall₂ (I := fun _ => True) fun field (_ : field ∈ message.fields) =>
        buildMember_isMap context scope (Schema.fullName scope message.name) message.oneofs field
      refine Ensures.bind members fun members related => Ensures.pure ⟨?_, ?_⟩
      · rw [classes_withNested]
        refine .cons ⟨related, ?_⟩ ofInside.classes
        simp [classOf, oneofGroups, declaredOneofs]
      · rw [enumerations_withNested, ofInside.enumerations, List.flatMap_cons, List.length_append]
        simp

theorem buildTypes_counted :
    Ensures (fun _ => True) (buildTypes context)
      (Covers context.file.enums (Message.allDeclared context.file.messages)) := by
  rw [buildTypes_eq]
  exact buildScope_counted_of context (fun message _ => buildMessage_counted context message) _ _

/-! ### Counts -/

/-- The counts of a summary are those of declarations, through all namespaces. -/
structure CountedBy (decls : List Declaration) (summary : Summary) : Prop where
  enums : (enumerations decls).length = summary.enums
  messages : (classes decls).length = summary.messages
  fields : ((classes decls).flatMap (·.members)).length = summary.fields
  maps : (((classes decls).flatMap (·.members)).filter (·.isMap)).length = summary.maps
  oneofs : ((classes decls).flatMap (·.oneofs)).length = summary.oneofs

theorem length_flatMap_of_forall₂ {α β γ δ : Type} {R : α → β → Prop} {xs : List α} {ys : List β}
    (related : List.Forall₂ R xs ys) {f : α → List γ} {g : β → List δ}
    (agree : ∀ x y, R x y → (f x).length = (g y).length) :
    (xs.flatMap f).length = (ys.flatMap g).length := by
  induction related with
  | nil => rfl
  | cons here _ ih =>
    rw [List.flatMap_cons, List.flatMap_cons, List.length_append, List.length_append, agree _ _ here, ih]

/-- The summary of a file counts whatever covers the types of the file. -/
theorem countedBy_of_covers {file : File} {decls : List Declaration}
    (covers : Covers file.enums (Message.allDeclared file.messages) decls)
    (loaded : ∀ message ∈ Message.allDeclared file.messages, ∀ field ∈ message.fields,
      field.isMap = field.parts?.isSome) : CountedBy decls (Summary.ofFile file) := by
  -- The fields of all messages against the members of all classes.
  have fields : List.Forall₂ (fun (field : Schema.Field) (member : Field) => field.isMap = member.isMap)
      ((Message.allDeclared file.messages).flatMap (·.fields)) ((classes decls).flatMap (·.members)) := by
    refine List.rel_flatMap (forall₂_mem covers.classes) ?_
    rintro message decl ⟨member, _, shape⟩
    refine (forall₂_mem shape.members).imp ?_
    rintro field made ⟨isField, _, agrees⟩
    rw [loaded message member field isField, agrees]
  have oneofs := length_flatMap_of_forall₂ covers.classes fun message decl shape => shape.oneofs.symm
  constructor
  · exact covers.enumerations
  · exact covers.classes.length_eq.symm
  · exact fields.length_eq.symm
  · refine (List.Forall₂.length_eq (List.rel_filter ?_ fields)).symm
    intro field member agree
    simp only [agree]
  · exact oneofs.symm.trans (congrArg List.length List.filter_flatMap.symm)

end Code

namespace Generator

open Code

/-- A namespace around the body changes no count. -/
theorem counted_wrap (style : Style) (file : File) (body : List Declaration) :
    classes (wrap style file body) = classes body ∧
      enumerations (wrap style file body) = enumerations body := by
  rw [wrap]
  split
  · split
    · exact ⟨classes_namespaced _ body, enumerations_namespaced _ body⟩
    · exact ⟨rfl, rfl⟩
  · exact ⟨rfl, rfl⟩

/-- What stands around the types of a file adds nothing to the counts. -/
theorem counted_body {symbols : SymbolTable} {style : Style} {file : File}
    (translation : Translation symbols style file) {services : List Declaration}
    (serves : translation.Serves services) :
    classes (wrap style file (translation.body services)) = classes translation.types ∧
      enumerations (wrap style file (translation.body services)) = enumerations translation.types := by
  have beside : ∀ decl ∈ services ++ secondNames translation.uses, decl.isBeside = true := by
    intro decl member
    rcases List.mem_append.mp member with isService | isSecond
    · exact (serves.declared decl isService).isBeside
    · obtain ⟨entry, _, rfl⟩ := mem_secondNames.mp isSecond
      rfl
  obtain ⟨noClass, noEnumeration⟩ := counted_of_isBeside beside
  obtain ⟨sameClasses, sameEnumerations⟩ := counted_wrap style file (translation.body services)
  rw [sameClasses, sameEnumerations, Translation.body, classes_append, enumerations_append, noClass,
    noEnumeration, List.append_nil, List.append_nil]
  exact ⟨rfl, rfl⟩

/-- The counts of the summary of a loaded file are those of its classes and enumerations through all
namespaces, both among its types alone and in the whole body that is generated for it. -/
theorem summary_counts_generated {descriptor : Descriptor.File} {file : File}
    (loaded : File.load descriptor = .ok file) {symbols : SymbolTable} {style : Style}
    (translation : Translation symbols style file) :
    CountedBy translation.types (Summary.ofFile file) ∧
    ∀ services, translation.Serves services →
      CountedBy (wrap style file (translation.body services)) (Summary.ofFile file) := by
  have isFile : translation.context.file = file := by
    obtain ⟨imports, _, shape⟩ := context_eq_ok.mp translation.resolved
    rw [shape]
  have covers : Covers file.enums (Message.allDeclared file.messages) translation.types := by
    have built := (buildTypes_counted translation.context _ _ _ trivial translation.built).2
    rwa [isFile] at built
  have isMap := File.isMap_of_loaded loaded
  refine ⟨countedBy_of_covers covers isMap, fun services serves => countedBy_of_covers ?_ isMap⟩
  obtain ⟨sameClasses, sameEnumerations⟩ := counted_body translation serves
  exact covers.congr sameClasses sameEnumerations

/-- The descriptor of a file with types inside a message, a map, a oneof with two alternatives and a field
that is optional on its own. -/
def fleetDescriptor : Descriptor.File :=
  { name := Wire.encodeText "fleet.proto"
    package := Wire.encodeText "fleet"
    dialect := Wire.encodeText "proto3"
    enums := [{ name := Wire.encodeText "Flag", values := [{ name := Wire.encodeText "NONE" }] }]
    messages :=
      [{ name := Wire.encodeText "Ship"
         fields :=
           [{ name := Wire.encodeText "crew", number := 1, label := .repeated, kind := .message
              typeName := Wire.encodeText ".fleet.Ship.CrewEntry" },
            { name := Wire.encodeText "oars", number := 2, kind := .uint32, oneofIndex := some 0 },
            { name := Wire.encodeText "rig", number := 3, kind := .enum, oneofIndex := some 0
              typeName := Wire.encodeText ".fleet.Ship.Rig" },
            { name := Wire.encodeText "motto", number := 4, kind := .string, oneofIndex := some 1
              isOptional := true }]
         enums := [{ name := Wire.encodeText "Rig", values := [{ name := Wire.encodeText "SLOOP" }] }]
         oneofs := [Wire.encodeText "drive", Wire.encodeText "_motto"]
         nested :=
           [{ name := Wire.encodeText "CrewEntry"
              mapEntry := true
              fields :=
                [{ name := Wire.encodeText "key", number := 1, kind := .string },
                 { name := Wire.encodeText "value", number := 2, kind := .message
                   typeName := Wire.encodeText ".fleet.Ship.Mate" }] },
            { name := Wire.encodeText "Mate"
              fields := [{ name := Wire.encodeText "rank", number := 1, kind := .int32 }] }] }]
    services :=
      [{ name := Wire.encodeText "Port"
         methods :=
           [{ name := Wire.encodeText "Dock"
              inputType := Wire.encodeText ".fleet.Ship"
              outputType := Wire.encodeText ".fleet.Ship.Mate" }] }] }

def fleet : File :=
  (File.load fleetDescriptor).toOption.getD default

def fleetCompilation : Compilation (nodeGenerator [fleet]) fleet :=
  (compile? (nodeGenerator [fleet]) fleet).get (by decide +kernel)

theorem summary_counts_generated_for_fleet :
    File.load fleetDescriptor = .ok fleet ∧
    CountedBy (wrap .node fleet fleetCompilation.body) (Summary.ofFile fleet) ∧
    (Summary.ofFile fleet).enums = 2 ∧ (Summary.ofFile fleet).messages = 2 ∧
    (Summary.ofFile fleet).fields = 5 ∧ (Summary.ofFile fleet).maps = 1 ∧
    (Summary.ofFile fleet).oneofs = 1 := by
  have loaded : File.load fleetDescriptor = .ok fleet := by
    obtain ⟨file, loaded⟩ := exists_ok_of_isOk
      (by decide +kernel : (File.load fleetDescriptor).isOk = true)
    rw [fleet, loaded]
    rfl
  have counted := summary_counts_generated loaded fleetCompilation.toTranslation
  refine ⟨loaded, counted.2 _ fleetCompilation.serves, ?_⟩
  decide +kernel

end Generator

end Typewire
