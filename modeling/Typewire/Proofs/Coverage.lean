import Typewire.Proofs.Building
import Typewire.Proofs.Loading
import Typewire.Proofs.MentionedTypes
import Typewire.Proofs.Services

/-!
# Failures after the names of a file are chosen

Choosing the names of a file visits every type that the file mentions, and fails if one is not declared. The
classes are built afterwards, by another pass over the same schema. Every type that this second pass asks for
was visited by the first: so nothing is left unresolved, no import and no second name is missing, and building
can fail only for what the first pass does not look at. `Fault` lists these failures with their reasons.
-/
namespace Typewire

open Schema (Enum File Message WellNamed fullName)

/-! ### Types that a file mentions -/

namespace Schema

/-- The type of a field that is no map is the one that the field mentions. -/
theorem Field.IsSimple.reference?_eq {field : Field} (simple : field.IsSimple) :
    field.reference? = field.typeName := by
  rw [reference?, simple.noValue]
  cases typed : field.typeName with
  | none => rfl
  | some typeName =>
    have notEmpty : typeName ≠ "" := fun empty => simple.named (empty ▸ typed)
    simp [notEmpty]

/-- The type of the values of a map field is the one that the field mentions. -/
theorem Field.reference?_of_mapValue {field value : Field} (hasValue : field.mapValue = some value)
    (simple : value.IsSimple) : field.reference? = value.typeName := by
  rw [← simple.reference?_eq, reference?, reference?, hasValue, simple.noValue]

end Schema

/-! ### Faults -/

namespace Context

/-- The failures that are left once the names of a file are chosen. -/
inductive Fault (context : Context) : Error → Prop where
  /-- The file mentions a map entry as a type. -/
  | entryReference {typeName : String} {symbol : Symbol}
      (mentioned : typeName ∈ context.file.references)
      (found : context.symbols.lookup? typeName = some symbol) (isEntry : symbol.isMapEntry = true) :
      Fault context (.entryReference typeName)
  /-- A field, or the value of a map field, needs a type and names none. -/
  | missingTypeName {full : String} {message : Message} {field part : Schema.Field}
      (declares : context.file.Declares full message) (member : field ∈ message.fields)
      (isPart : part = field ∨ field.mapValue = some part) (notScalar : part.kind.isScalar = false)
      (untyped : part.typeName = none) : Fault context (.missingTypeName part.name part.kind)
  /-- A field belongs to a oneof that its message does not declare. -/
  | oneofOutOfRange {full : String} {message : Message} {field : Schema.Field} {index : Int}
      (declares : context.file.Declares full message) (member : field ∈ message.fields)
      (joins : field.oneofIndex = some index)
      (outside : index < 0 ∨ (message.oneofs.length : Int) ≤ index) :
      Fault context (.oneofOutOfRange (fullName full field.name) index message.oneofs.length)

variable {context : Context} {files : List File} {scope typeName : String} {error : Error}

/-- A type of the file is found under its full name. -/
theorem Settled.symbol_of_mem (settled : context.Settled files) {symbol : Symbol}
    (recorded : symbol ∈ Symbol.ofFile context.file) (notEntry : symbol.isMapEntry = false) :
    context.symbol symbol.fullName = .ok symbol :=
  symbol_eq_ok.mpr ⟨settled.lookup?_of_mem recorded, notEntry⟩

theorem Settled.symbol_fault (settled : context.Settled files)
    (mentioned : typeName ∈ context.file.references)
    (failed : context.symbol typeName = .error error) : context.Fault error := by
  obtain ⟨symbol, found, _⟩ := settled.resolution.mentioned typeName mentioned
  rcases symbol_eq_error failed with ⟨absent, _⟩ | ⟨other, isFound, isEntry, rfl⟩
  · rw [found] at absent
    cases absent
  · exact .entryReference mentioned isFound isEntry

/-- A mentioned type was visited when names were chosen, so spelling it fails only by a fault. -/
theorem Settled.reference_fault (settled : context.Settled files) (place : context.IsPlace scope)
    (mentioned : typeName ∈ context.file.references)
    (failed : context.reference typeName scope = .error error) : context.Fault error := by
  obtain ⟨symbol, found, isEntry, rfl⟩ := settled.reference_eq_error place mentioned failed
  exact .entryReference mentioned found isEntry

end Context

/-! ### Types -/

namespace Code

variable {context : Context} {files : List File} {scope full : String} {message : Message}
  {field : Schema.Field}

theorem qualify_onlyFails (settled : context.Settled files) (place : context.IsPlace scope)
    {typeName : String} (mentioned : typeName ∈ context.file.references) :
    OnlyFails context.Fault (qualify context typeName scope) := by
  intro before failure after failed
  rw [qualify_run] at failed
  split at failed
  next error notSpelled =>
    cases failed
    exact settled.reference_fault place mentioned notSpelled
  next => cases failed

theorem referenceInitial_fault (settled : context.Settled files) {typeName typeRef : String}
    (mentioned : typeName ∈ context.file.references) {error : Error}
    (failed : referenceInitial context field typeName typeRef = .error error) :
    context.Fault error := by
  rw [referenceInitial] at failed
  split at failed
  next =>
    rcases except_bind_eq_error failed with noSymbol | ⟨symbol, _, last⟩
    · exact settled.symbol_fault mentioned noSymbol
    · cases last
  next => cases failed

theorem elementType_onlyFails (settled : context.Settled files) (place : context.IsPlace scope)
    (declares : context.file.Declares full message) (member : field ∈ message.fields)
    {part : Schema.Field} (isPart : part = field ∨ field.mapValue = some part)
    (mentions : field.reference? = part.typeName) :
    OnlyFails context.Fault (elementType context scope part) := by
  cases scalar : part.kind.scalarType? with
  | some typeRef =>
    rw [elementType_of_scalar scalar]
    exact OnlyFails.pure _
  | none =>
    cases typed : part.typeName with
    | none =>
      rw [elementType_of_untyped scalar typed]
      refine OnlyFails.liftM fun failure failed => ?_
      cases failed
      exact .missingTypeName declares member isPart (isScalar_eq_false_iff.mpr scalar) typed
    | some typeName =>
      -- The first pass saw this name: it is what the field mentions.
      have mentioned := declares.mem_references member (mentions.trans typed)
      rw [elementType_of_reference scalar typed]
      refine OnlyFails.bind (qualify_onlyFails settled place mentioned) fun typeRef => ?_
      exact OnlyFails.bind (OnlyFails.liftM fun _ => referenceInitial_fault settled mentioned)
        fun initial => OnlyFails.pure _

theorem buildField_of_simple (simple : field.IsSimple) (context : Context) (scope : String) :
    buildField context scope field = (do
      let element ← elementType context scope field
      return singleMember field element) := by
  refine buildField_of_single ?_ context scope
  rw [Schema.Field.parts?, simple.noKey]

/-- The type of a field and that of the values of a map were both visited when names were chosen. -/
theorem buildField_onlyFails (settled : context.Settled files) (place : context.IsPlace scope)
    (declares : context.file.Declares full message) (member : field ∈ message.fields)
    (loaded : field.IsLoaded) (scalarKey : ∀ key ∈ field.mapKey, key.kind.isScalar = true) :
    OnlyFails context.Fault (buildField context scope field) := by
  cases loaded with
  | single simple =>
    rw [buildField_of_simple simple]
    have elementFails := elementType_onlyFails settled place declares member (.inl rfl)
      simple.reference?_eq
    exact OnlyFails.bind elementFails fun element => OnlyFails.pure _
  | @map key value hasKey hasValue simpleKey simpleValue =>
    rw [buildField_of_map (Schema.Field.parts?_eq_some.mpr ⟨hasKey, hasValue⟩),
      buildField_of_simple simpleKey, buildField_of_simple simpleValue]
    -- The key is a scalar, so only the type of the value is ever looked up.
    have keyFails : OnlyFails context.Fault (elementType context scope key) := by
      cases scalar : key.kind.scalarType? with
      | some typeRef =>
        rw [elementType_of_scalar scalar]
        exact OnlyFails.pure _
      | none =>
        have isScalar := scalarKey key hasKey
        rw [isScalar_eq_false_iff.mpr scalar] at isScalar
        cases isScalar
    have valueFails := elementType_onlyFails settled place declares member (.inr hasValue)
      (Schema.Field.reference?_of_mapValue hasValue simpleValue)
    refine OnlyFails.bind (OnlyFails.bind keyFails fun _ => OnlyFails.pure _) fun keyMember => ?_
    refine OnlyFails.bind (OnlyFails.bind valueFails fun _ => OnlyFails.pure _) fun valueMember => ?_
    exact OnlyFails.pure _

/-- A field fails to join its group only if its message does not declare the oneof. -/
theorem joinGroup_fault (declares : context.file.Declares full message)
    (member : field ∈ message.fields) {result : Field} {error : Error}
    (failed : joinGroup full message.oneofs field result = .error error) : context.Fault error := by
  obtain ⟨index, joins, outside, rfl⟩ := joinGroup_eq_error.mp failed
  exact .oneofOutOfRange declares member joins outside

/-- The fields of a file have the form that loading gives them, and the keys of maps are scalars. -/
structure Regular (file : File) : Prop where
  loaded : ∀ message ∈ file.allMessages, ∀ field ∈ message.fields, field.IsLoaded
  scalarKeys : ∀ message ∈ file.allMessages, ∀ field ∈ message.fields, ∀ key ∈ field.mapKey,
    key.kind.isScalar = true

theorem buildMember_onlyFails (settled : context.Settled files) (regular : Regular context.file)
    (place : context.IsPlace scope) (declares : context.file.Declares full message)
    (member : field ∈ message.fields) :
    OnlyFails context.Fault (buildMember context scope full message.oneofs field) := by
  have inFile := declares.mem_allMessages
  have fieldFails := buildField_onlyFails settled place declares member
    (regular.loaded message inFile field member) (regular.scalarKeys message inFile field member)
  exact OnlyFails.bind fieldFails fun result =>
    OnlyFails.liftM fun _ => joinGroup_fault declares member

variable {enums : List Enum} {messages : List Message}

/-- The enumerations of a scope are always recorded, so building them does not fail. -/
theorem exists_buildEnum (settled : context.Settled files)
    (has : context.file.HasScope scope enums messages) {enum : Enum} (member : enum ∈ enums) :
    ∃ decl, buildEnum context scope enum = .ok decl := by
  obtain ⟨symbol, recorded, isNamed, notEntry⟩ := has.enum_symbol settled.plain member
  rw [buildEnum, ← isNamed, settled.symbol_of_mem recorded notEntry]
  exact ⟨_, rfl⟩

/-- What may fail in building a file fails as allowed: the enumerations of its scopes, the names of its
messages and the members of their classes. -/
structure Allows (context : Context) (allowed : Error → Prop) : Prop where
  enumeration : ∀ {scope enums messages}, context.file.HasScope scope enums messages →
    ∀ enum ∈ enums, FailsOnly allowed (buildEnum context scope enum)
  name : ∀ {scope enums messages}, context.file.HasScope scope enums messages →
    ∀ message ∈ messages, message.mapEntry = false →
      FailsOnly allowed (context.symbol (fullName scope message.name))
  member : ∀ {scope enums messages}, context.file.HasScope scope enums messages →
    ∀ message ∈ messages, message.mapEntry = false → ∀ field ∈ message.fields,
      OnlyFails allowed (buildMember context scope (fullName scope message.name) message.oneofs field)

namespace Allows

variable {allowed : Error → Prop}

theorem buildScope_of (allows : Allows context allowed)
    (has : context.file.HasScope scope enums messages)
    (each : ∀ message ∈ messages, OnlyFails allowed (buildMessage context scope message)) :
    OnlyFails allowed (buildScope context scope enums messages) := by
  rw [buildScope, buildMessages_eq]
  have enumsFail : FailsOnly allowed (buildEnums context scope enums) :=
    FailsOnly.mapM fun enum member => allows.enumeration has enum member
  exact OnlyFails.bind (OnlyFails.liftM enumsFail) fun decls =>
    OnlyFails.bind (OnlyFails.bind (OnlyFails.mapM each) fun _ => OnlyFails.pure _) fun _ =>
      OnlyFails.pure _

theorem buildMessage (allows : Allows context allowed) (message : Message) :
    ∀ {scope enums messages}, context.file.HasScope scope enums messages → message ∈ messages →
      OnlyFails allowed (buildMessage context scope message) := by
  induction message using Message.nested_induction with
  | step message nested =>
    intro scope enums messages has member
    cases entry : message.mapEntry with
    | true =>
      rw [buildMessage_of_entry entry]
      exact OnlyFails.pure _
    | false =>
      have inside := has.inside member entry
      rw [buildMessage_of_declared entry]
      refine OnlyFails.bind (OnlyFails.liftM (allows.name has message member entry)) fun symbol => ?_
      refine OnlyFails.bind (allows.buildScope_of inside fun inner isInner =>
        nested inner isInner inside isInner) fun _ => ?_
      exact OnlyFails.bind (OnlyFails.mapM (allows.member has message member entry)) fun _ =>
        OnlyFails.pure _

/-- Failures that are allowed in every scope are the only ones of the file. -/
theorem buildTypes (allows : Allows context allowed) : OnlyFails allowed (buildTypes context) := by
  rw [buildTypes_eq]
  exact allows.buildScope_of .top fun message member => allows.buildMessage message .top member

end Allows

/-- Once the names of a file are chosen, building it fails with faults only. -/
theorem allows_fault (settled : context.Settled files) (regular : Regular context.file) :
    Allows context context.Fault where
  enumeration := by
    -- The enumerations of a scope are recorded, so a failure can only come from its messages.
    intro scope enums messages has enum member failure failed
    obtain ⟨decl, built⟩ := exists_buildEnum settled has member
    rw [built] at failed
    cases failed
  name := by
    -- A declared message is recorded, and not as a map entry.
    intro scope enums messages has message member entry failure failed
    obtain ⟨symbol, recorded, isNamed, names, isMessage⟩ :=
      has.message_symbol settled.plain member entry
    have notEntry : symbol.isMapEntry = false := by
      rw [Symbol.isMapEntry, isMessage]
      rfl
    rw [← isNamed, settled.symbol_of_mem recorded notEntry] at failed
    cases failed
  member := by
    intro scope enums messages has message member entry field isField
    have declares : context.file.Declares (fullName scope message.name) message :=
      ⟨scope, enums, messages, has, member, entry, rfl⟩
    exact buildMember_onlyFails settled regular (.inr ⟨enums, messages, has⟩) declares isField

theorem buildMessage_onlyFails (settled : context.Settled files) (regular : Regular context.file)
    (message : Message) :
    ∀ {scope enums messages}, context.file.HasScope scope enums messages → message ∈ messages →
      OnlyFails context.Fault (buildMessage context scope message) :=
  (allows_fault settled regular).buildMessage message

theorem buildTypes_onlyFails (settled : context.Settled files) (regular : Regular context.file) :
    OnlyFails context.Fault (buildTypes context) :=
  (allows_fault settled regular).buildTypes

end Code

/-! ### Services -/

namespace Rpc

variable {context : Context} {files : List File} {service : Schema.Service} {allowed : Error → Prop}

theorem declare_onlyFails (name key : String) : OnlyFails allowed (declare name key) := by
  intro before failure after failed
  cases failed

theorem warn_onlyFails (warnings : List Warning) : OnlyFails allowed (warn warnings) := by
  intro before failure after failed
  cases failed

theorem interfaceNames_onlyFails : OnlyFails allowed interfaceNames := by
  refine OnlyFails.bind (declare_onlyFails _ _) fun _ => OnlyFails.bind (declare_onlyFails _ _) fun _ => ?_
  refine OnlyFails.bind (declare_onlyFails _ _) fun _ => OnlyFails.bind (declare_onlyFails _ _) fun _ => ?_
  exact OnlyFails.pure _

theorem sharedTypes_onlyFails (style : Style) (context : Context) :
    OnlyFails allowed (sharedTypes style context) := by
  cases style with
  | node => exact OnlyFails.bind interfaceNames_onlyFails fun _ => OnlyFails.pure _
  | web => exact OnlyFails.pure _
  | typesOnly => exact OnlyFails.pure _

section Methods

variable (methods : OnlyFails allowed
  (liftM (spellMethods context service) : Declaring (List Code.Method)))
include methods

/-- A server fails only where the methods of its service do. -/
theorem server?_onlyFails_of (style : Style) : OnlyFails allowed (server? style context service) := by
  cases style with
  | node =>
    exact OnlyFails.bind (declare_onlyFails _ _) fun _ => OnlyFails.bind methods fun _ => OnlyFails.pure _
  | web => exact OnlyFails.pure _
  | typesOnly => exact OnlyFails.pure _

theorem client?_onlyFails_of (style : Style) : OnlyFails allowed (client? style context service) := by
  cases style with
  | node =>
    refine OnlyFails.bind (OnlyFails.bind (declare_onlyFails _ _) fun _ => ?_) fun _ => OnlyFails.pure _
    exact OnlyFails.bind methods fun _ => OnlyFails.bind (declare_onlyFails _ _) fun _ =>
      OnlyFails.bind interfaceNames_onlyFails fun _ => OnlyFails.pure _
  | web =>
    refine OnlyFails.bind (OnlyFails.bind methods fun _ => ?_) fun _ => OnlyFails.pure _
    exact OnlyFails.bind (warn_onlyFails _) fun _ =>
      OnlyFails.bind (declare_onlyFails _ _) fun _ => OnlyFails.pure _
  | typesOnly => exact OnlyFails.pure _

end Methods

/-- Declaring services fails only where the methods of a service cannot be spelled. -/
theorem declareServices_onlyFails_of (methods : ∀ service ∈ context.file.services,
      OnlyFails allowed (liftM (spellMethods context service) : Declaring (List Code.Method)))
    (style : Style) : OnlyFails allowed (declareServices style context) := by
  refine OnlyFails.bind (sharedTypes_onlyFails style context) fun _ =>
    OnlyFails.bind (OnlyFails.mapM fun service declared => ?_) fun _ => OnlyFails.pure _
  exact OnlyFails.bind (server?_onlyFails_of (methods service declared) style) fun _ =>
    OnlyFails.bind (client?_onlyFails_of (methods service declared) style) fun _ => OnlyFails.pure _

/-- What methods take and give was visited when names were chosen. -/
theorem spellMethods_onlyFails (settled : context.Settled files)
    (declared : service ∈ context.file.services) :
    OnlyFails context.Fault (liftM (spellMethods context service) : Declaring (List Code.Method)) := by
  refine OnlyFails.liftM fun failure failed => ?_
  obtain ⟨method, member, fails⟩ := except_mapM_eq_error failed
  have inputMentioned := Schema.File.method_mem_references declared member List.mem_cons_self
  have outputMentioned :=
    Schema.File.method_mem_references declared member (List.mem_cons_of_mem _ List.mem_cons_self)
  rcases except_bind_eq_error fails with noInput | ⟨input, _, rest⟩
  · exact settled.reference_fault (.inl rfl) inputMentioned noInput
  · rcases except_bind_eq_error rest with noOutput | ⟨output, _, last⟩
    · exact settled.reference_fault (.inl rfl) outputMentioned noOutput
    · cases last

theorem server?_onlyFails (settled : context.Settled files) (style : Style)
    (declared : service ∈ context.file.services) :
    OnlyFails context.Fault (server? style context service) :=
  server?_onlyFails_of (spellMethods_onlyFails settled declared) style

theorem client?_onlyFails (settled : context.Settled files) (style : Style)
    (declared : service ∈ context.file.services) :
    OnlyFails context.Fault (client? style context service) :=
  client?_onlyFails_of (spellMethods_onlyFails settled declared) style

theorem declareServices_onlyFails (settled : context.Settled files) (style : Style) :
    OnlyFails context.Fault (declareServices style context) :=
  declareServices_onlyFails_of (fun _ declared => spellMethods_onlyFails settled declared) style

end Rpc

/-! ### Files -/

namespace Generator

/-- A fault is a fault of the schema: every type is found, every file has a name and every root that needs
a second name has one. -/
theorem fault_of_schema {context : Context} {error : Error} (fault : context.Fault error) :
    error.category = .schema ∧ (∀ typeName, error ≠ .unresolvedType typeName) ∧
      (∀ fileName dependency, error ≠ .notImported fileName dependency) ∧
      ∀ root, error ≠ .missingRootAlias root := by
  cases fault <;> exact ⟨rfl, nofun, nofun, nofun⟩

/-- Once the names of a file are chosen, nothing that is built for it asks for a type, an import or a second
name that is missing: what is left to fail are the faults. -/
theorem only_faults_after_resolution (descriptors : List Descriptor.File) (files : List File)
    (loaded : descriptors.mapM File.load = .ok files) (named : WellNamed files)
    (scalarKeys : ∀ file ∈ files, ∀ message ∈ file.allMessages, ∀ field ∈ message.fields,
      ∀ key ∈ field.mapKey, key.kind.isScalar = true)
    (style : Style) (file : File) (member : file ∈ files) (imports : Imports)
    (resolved : Imports.resolve (SymbolTable.ofFiles files) file = .ok imports) :
    let context : Context :=
      { file, symbols := SymbolTable.ofFiles files, imports, wraps := style.wraps }
    (∀ enum ∈ file.enums, ∃ decl, Code.buildEnum context file.scope enum = .ok decl) ∧
    (∀ message ∈ file.messages,
      OnlyFails context.Fault (Code.buildMessage context file.scope message)) ∧
    (∀ service ∈ file.services, OnlyFails context.Fault (Rpc.server? style context service) ∧
      OnlyFails context.Fault (Rpc.client? style context service)) ∧
    OnlyFails (fun _ => False) (Rpc.sharedTypes style context) ∧
    OnlyFails context.Fault (Code.buildTypes context) ∧
    OnlyFails context.Fault (Rpc.declareServices style context) ∧
    ∀ error, context.Fault error →
      error.category = .schema ∧ (∀ typeName, error ≠ .unresolvedType typeName) ∧
        (∀ fileName dependency, error ≠ .notImported fileName dependency) ∧
        ∀ root, error ≠ .missingRootAlias root := by
  intro context
  have settled : context.Settled files := ⟨named, member, rfl, resolved⟩
  obtain ⟨descriptor, _, fileLoaded⟩ :=
    exists_left_of_forall₂ ((except_mapM_eq_ok_iff _ _ _).mp loaded) member
  -- Loading gives fields their form, which rules out the other failures.
  have regular : Code.Regular context.file :=
    ⟨fun message inFile field isField => Schema.File.load_isLoaded fileLoaded inFile isField,
      scalarKeys file member⟩
  refine ⟨fun enum isEnum => Code.exists_buildEnum settled .top isEnum,
    fun message isMessage => Code.buildMessage_onlyFails settled regular message .top isMessage,
    fun service isService => ?_, Rpc.sharedTypes_onlyFails style context,
    Code.buildTypes_onlyFails settled regular, Rpc.declareServices_onlyFails settled style,
    fun error => fault_of_schema⟩
  exact ⟨Rpc.server?_onlyFails settled style isService, Rpc.client?_onlyFails settled style isService⟩

/-- The descriptor of a single field that refers to a type. -/
def referring (name : String) (number : Int) (typeName : String) : Descriptor.Field :=
  { name := Wire.encodeText name, number, kind := .message, typeName := Wire.encodeText typeName }

/-- Descriptors of two files. The second one has a map whose values are declared in the first, a message
that declares its own name again inside, and a direct reference to the entry of the map. -/
def storeDescriptors : List Descriptor.File :=
  [{ name := Wire.encodeText "item.proto"
     package := Wire.encodeText "store"
     messages := [{ name := Wire.encodeText "Item" }] },
   { name := Wire.encodeText "shelf.proto"
     package := Wire.encodeText "store"
     dependencies := [Wire.encodeText "item.proto"]
     messages :=
       [{ name := Wire.encodeText "Shelf"
          fields := [{ referring "items" 1 ".store.Shelf.ItemsEntry" with label := .repeated }]
          nested :=
            [{ name := Wire.encodeText "ItemsEntry"
               mapEntry := true
               fields :=
                 [{ name := Wire.encodeText "key", number := 1, kind := .string },
                  referring "value" 2 ".store.Item"] },
             { name := Wire.encodeText "Shelf", fields := [referring "outer" 1 ".store.Shelf"] }] },
        { name := Wire.encodeText "Label"
          fields := [referring "entry" 1 ".store.Shelf.ItemsEntry"] }]
     services :=
       [{ name := Wire.encodeText "Store"
          methods :=
            [{ name := Wire.encodeText "Find"
               inputType := Wire.encodeText ".store.Item"
               outputType := Wire.encodeText ".store.Shelf" }] }] }]

def storeFiles : List File :=
  (storeDescriptors.mapM File.load).toOption.getD []

def shelfFile : File :=
  storeFiles.getLastD default

def shelfImports : Imports :=
  (Imports.resolve (SymbolTable.ofFiles storeFiles) shelfFile).toOption.getD default

def shelfContext : Context :=
  { file := shelfFile, symbols := SymbolTable.ofFiles storeFiles, imports := shelfImports
    wraps := Style.wraps .node }

theorem only_faults_after_resolution_for_shelf :
    WellNamed storeFiles ∧ shelfFile.services ≠ [] ∧
    OnlyFails shelfContext.Fault (Rpc.declareServices .node shelfContext) ∧
    ∃ error, ((Code.buildTypes shelfContext).run []).1 = .error error ∧ shelfContext.Fault error := by
  have loaded : storeDescriptors.mapM File.load = .ok storeFiles := by
    obtain ⟨files, loaded⟩ := exists_ok_of_isOk
      (by decide +kernel : (storeDescriptors.mapM File.load).isOk = true)
    rw [storeFiles, loaded]
    rfl
  have resolved : Imports.resolve (SymbolTable.ofFiles storeFiles) shelfFile = .ok shelfImports := by
    obtain ⟨imports, resolved⟩ := exists_ok_of_isOk
      (by decide +kernel : (Imports.resolve (SymbolTable.ofFiles storeFiles) shelfFile).isOk = true)
    rw [shelfImports, resolved]
    rfl
  have named : WellNamed storeFiles := by decide +kernel
  have notEmpty : storeFiles ≠ [] := by
    intro empty
    have two : storeFiles.length = 2 := by decide +kernel
    simp [empty] at two
  have member : shelfFile ∈ storeFiles := by
    rw [shelfFile, List.getLastD_eq_getLast?, List.getLast?_eq_some_getLast notEmpty]
    exact List.getLast_mem notEmpty
  obtain ⟨_, _, _, _, ofTypes, ofServices, _⟩ := only_faults_after_resolution storeDescriptors storeFiles
    loaded named (by decide +kernel) .node shelfFile member shelfImports resolved
  have fails : ((Code.buildTypes shelfContext).run []).1.isOk = false := by decide +kernel
  refine ⟨named, by decide +kernel, ofServices, ?_⟩
  cases ran : (Code.buildTypes shelfContext).run [] with
  | mk outcome uses =>
    cases outcome with
    | error error => exact ⟨error, rfl, ofTypes [] error uses ran⟩
    | ok decls =>
      rw [ran] at fails
      cases fails

end Generator

end Typewire
