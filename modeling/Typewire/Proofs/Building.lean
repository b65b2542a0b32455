import Typewire.Proofs.Spelling

/-!
# Building the types of a file

What is known of the classes and enumerations of a file once they were built. Uses of second names only
grow, and each is recorded with the root it stands for; so a reference that was spelled at any point of the
run is still accounted for at its end. `During` states facts about a step in the course of the run, and the
lemmas here take the building of a scope apart down to its single references.
-/
namespace Typewire

namespace Schema.Field

def parts? (field : Field) : Option (Field × Field) :=
  match field.mapKey, field.mapValue with
  | some mapKey, some mapValue => some (mapKey, mapValue)
  | _, _ => none

theorem parts?_eq_some {field mapKey mapValue : Field} :
    field.parts? = some (mapKey, mapValue) ↔
      field.mapKey = some mapKey ∧ field.mapValue = some mapValue := by
  cases hasKey : field.mapKey <;> cases hasValue : field.mapValue <;>
    simp [parts?, hasKey, hasValue]

/-- A property of fields passes from the parts of a map field to the field. -/
theorem parts_induction {P : Field → Prop} (single : ∀ field : Field, field.parts? = none → P field)
    (map : ∀ field mapKey mapValue : Field, field.parts? = some (mapKey, mapValue) →
      P mapKey → P mapValue → P field) (field : Field) : P field := by
  induction field using Code.buildField.induct with
  | case1 name number cardinality kind typeName oneofIndex jsonName packed isOptional
      explicitPresence defaultValue mapKey mapValue ofKey ofValue =>
    exact map _ mapKey mapValue rfl ofKey ofValue
  | case2 field noMap =>
    cases parts : field.parts? with
    | none => exact single field parts
    | some both =>
      obtain ⟨hasKey, hasValue⟩ := parts?_eq_some.mp parts
      cases field
      cases hasKey
      cases hasValue
      exact (noMap _ _ _ _ _ _ _ _ _ _ _ _ _ rfl).elim

end Schema.Field

namespace Context.Settled

open Schema (File)

/-- A second name stands for one root. -/
theorem root_unique {context : Context} {files : List File} (settled : context.Settled files)
    {name first second : String} (firstNamed : context.imports.roots.get? first = some name)
    (secondNamed : context.imports.roots.get? second = some name) : first = second := by
  -- All names of a resolution are different, those of roots among them.
  have distinct : (context.imports.roots.map Prod.snd).Nodup :=
    settled.resolution.gives.distinct.of_append_right.of_append_right
  have same := List.inj_on_of_nodup_map distinct (OrderedMap.mem_of_get? firstNamed)
    (OrderedMap.mem_of_get? secondNamed) rfl
  exact congrArg Prod.fst same

end Context.Settled

namespace Code

open Schema (Enum File Message fullName)

/-! ### Uses of second names -/

/-- Every recorded use gives the second name of its root, and each second name is recorded once. -/
structure Recorded (context : Context) (uses : RootUses) : Prop where
  distinct : uses.keys.Nodup
  isRoot : ∀ entry ∈ uses, context.imports.roots.get? entry.2 = some entry.1

/-- Recorded uses stay recorded, and none is lost. -/
def Grows (context : Context) (before after : RootUses) : Prop :=
  Recorded context before → Recorded context after ∧ before ⊆ after

instance (context : Context) : Std.Refl (Grows context) :=
  ⟨fun _ recorded => ⟨recorded, List.Subset.refl _⟩⟩

instance (context : Context) : IsTrans RootUses (Grows context) where
  trans := by
    intro first second third toSecond toThird recorded
    obtain ⟨recordedSecond, keptSecond⟩ := toSecond recorded
    obtain ⟨recordedThird, keptThird⟩ := toThird recordedSecond
    exact ⟨recordedThird, List.Subset.trans keptSecond keptThird⟩

def noteUse (uses : RootUses) : Reference → RootUses
  | .throughRoot name root _ => uses.put name root
  | _ => uses

/-- The text of a type at a place, with its second name accounted for. -/
def Spells (context : Context) (scope : String) (uses : RootUses) (typeName text : String) : Prop :=
  ∃ reference, context.reference typeName scope = .ok reference ∧ text = reference.text ∧
    ∀ name root rest, reference = .throughRoot name root rest → (name, root) ∈ uses

variable {context : Context} {files : List File} {scope : String} {start finish : RootUses}

/-- Spelling a reference fails and leaves the uses alone, or succeeds and notes what it uses. -/
theorem qualify_run (context : Context) (typeName scope : String) (uses : RootUses) :
    (qualify context typeName scope).run uses =
      match context.reference typeName scope with
      | .error failure => (.error failure, uses)
      | .ok reference => (.ok reference.text, noteUse uses reference) := by
  unfold qualify
  cases context.reference typeName scope with
  | error failure => rfl
  | ok reference => cases reference <;> rfl

theorem noteUse_grows (settled : context.Settled files) {typeName : String} {reference : Reference}
    (spelled : context.reference typeName scope = .ok reference) (uses : RootUses) :
    Grows context uses (noteUse uses reference) := by
  intro recorded
  obtain ⟨symbol, _, ⟨_, _, rfl⟩ | ⟨_, _, name, named, rfl⟩ | ⟨_, name, _, rfl⟩⟩ :=
    Context.reference_eq_ok spelled
  · exact ⟨recorded, List.Subset.refl _⟩
  · refine ⟨⟨?_, ?_⟩, ?_⟩
    · rw [noteUse, OrderedMap.keys_put]
      split
      next => exact recorded.distinct
      next absent =>
        rw [← List.concat_eq_append]
        exact (List.nodup_concat _ _).mpr ⟨absent, recorded.distinct⟩
    · intro entry member
      rcases OrderedMap.mem_put member with rfl | before
      · exact named
      · exact recorded.isRoot entry before
    · intro entry member
      by_cases again : entry.1 = name
      · -- An earlier use of this name was for the same root.
        have sameRoot : entry.2 = Text.firstSegment symbol.localPath :=
          settled.root_unique (again ▸ recorded.isRoot entry member) named
        have same : entry = (name, Text.firstSegment symbol.localPath) := Prod.ext again sameRoot
        exact same ▸ OrderedMap.mem_put_self _ _ _
      · exact OrderedMap.mem_put_of_ne member again
  · exact ⟨recorded, List.Subset.refl _⟩

theorem qualify_moves (settled : context.Settled files) (typeName scope : String) :
    Moves (Grows context) (qualify context typeName scope) := by
  intro before outcome after ran
  rw [qualify_run] at ran
  split at ran
  next =>
    cases ran
    exact refl_of (Grows context) before
  next reference spelled =>
    cases ran
    exact noteUse_grows settled spelled before

/-- A reference that was spelled in the course of a run is accounted for at its end. -/
theorem qualify_during (settled : context.Settled files) (recorded : Recorded context start)
    {typeName text : String}
    (made : During (Grows context) start finish (qualify context typeName scope) text) :
    Spells context scope finish typeName text := by
  obtain ⟨before, after, begins, ran, ends⟩ := made
  rw [qualify_run] at ran
  split at ran
  next => cases ran
  next reference spelled =>
    cases ran
    refine ⟨reference, spelled, rfl, ?_⟩
    rintro name root rest rfl
    -- The use was noted when the reference was spelled, and later steps keep it.
    have recordedBefore := (begins recorded).1
    have recordedAfter := (noteUse_grows settled spelled before recordedBefore).1
    exact (ends recordedAfter).2 (OrderedMap.mem_put_self before name root)

/-! ### Fields -/

/-- What is required of a field holds of it, or for a map field of its key and of its value. The field
is taken with its member in the class. -/
inductive EachPart (P : Schema.Field → String → Prop) : Schema.Field → Field → Prop where
  | single {field : Schema.Field} {member : Field} (single : field.parts? = none)
      (holds : P field member.typeRef) : EachPart P field member
  | map {field mapKey mapValue : Schema.Field} {member key value : Field}
      (parts : field.parts? = some (mapKey, mapValue)) (hasKey : member.key = some key)
      (hasValue : member.value = some value) (ofKey : EachPart P mapKey key)
      (ofValue : EachPart P mapValue value) : EachPart P field member

/-- A field that refers to a type has the text of that type as its own. -/
def FieldSpells (context : Context) (scope : String) (uses : RootUses) (field : Schema.Field)
    (text : String) : Prop :=
  field.kind.isScalar = false → ∀ typeName, field.typeName = some typeName →
    Spells context scope uses typeName text

theorem EachPart.imp {P Q : Schema.Field → String → Prop}
    (stronger : ∀ field text, P field text → Q field text) {field : Schema.Field} {member : Field}
    (each : EachPart P field member) : EachPart Q field member := by
  induction each with
  | single single holds => exact .single single (stronger _ _ holds)
  | map parts hasKey hasValue _ _ ofKey ofValue => exact .map parts hasKey hasValue ofKey ofValue

/-- Only the type and the parts of a member matter. -/
theorem EachPart.congr {P : Schema.Field → String → Prop} {field : Schema.Field} {member other : Field}
    (each : EachPart P field member) (sameType : other.typeRef = member.typeRef)
    (sameKey : other.key = member.key) (sameValue : other.value = member.value) :
    EachPart P field other := by
  cases each with
  | single single holds => exact .single single (sameType ▸ holds)
  | map parts hasKey hasValue ofKey ofValue =>
    exact .map parts (sameKey.trans hasKey) (sameValue.trans hasValue) ofKey ofValue

theorem isScalar_eq_false_iff {kind : Kind} : kind.isScalar = false ↔ kind.scalarType? = none := by
  cases kind <;> simp [Kind.isScalar, Kind.scalarType?]

def referenceInitial (context : Context) (field : Schema.Field) (typeName typeRef : String) :
    Except Error String :=
  if field.kind = .enum then do
    let symbol ← context.symbol typeName
    return enumInitial typeRef field.defaultValue symbol.firstMember?
  else return "undefined"

theorem elementType_of_scalar {field : Schema.Field} {typeRef : String}
    (scalar : field.kind.scalarType? = some typeRef) (context : Context) (scope : String) :
    elementType context scope field =
      pure (typeRef, scalarInitial field.kind field.defaultValue) := by
  rw [elementType, scalar]

theorem elementType_of_untyped {field : Schema.Field} (notScalar : field.kind.scalarType? = none)
    (untyped : field.typeName = none) (context : Context) (scope : String) :
    elementType context scope field =
      liftM (Except.error (Error.missingTypeName field.name field.kind)) := by
  rw [elementType, notScalar, untyped]
  rfl

/-- The type of a field that is no scalar is spelled as a reference. -/
theorem elementType_of_reference {field : Schema.Field} {typeName : String}
    (notScalar : field.kind.scalarType? = none) (typed : field.typeName = some typeName)
    (context : Context) (scope : String) :
    elementType context scope field = (do
      let typeRef ← qualify context typeName scope
      let initial ← referenceInitial context field typeName typeRef
      return (typeRef, initial)) := by
  rw [elementType, notScalar, typed]
  refine bind_congr fun typeRef => ?_
  rw [referenceInitial]
  split
  · cases context.symbol typeName <;> rfl
  · rfl

theorem elementType_moves (settled : context.Settled files) (field : Schema.Field) :
    Moves (Grows context) (elementType context scope field) := by
  cases scalar : field.kind.scalarType? with
  | some typeRef =>
    rw [elementType_of_scalar scalar]
    exact Moves.pure _
  | none =>
    cases typed : field.typeName with
    | none =>
      rw [elementType_of_untyped scalar typed]
      exact Moves.liftM _
    | some typeName =>
      rw [elementType_of_reference scalar typed]
      exact Moves.bind (qualify_moves settled typeName scope) fun typeRef =>
        Moves.bind (Moves.liftM _) fun initial => Moves.pure _

/-- A field that refers to a type gets the text of that type, wherever in the run it is built. -/
theorem elementType_during (settled : context.Settled files) (recorded : Recorded context start)
    {field : Schema.Field} {result : String × String}
    (made : During (Grows context) start finish (elementType context scope field) result) :
    FieldSpells context scope finish field result.1 := by
  intro notScalar typeName typed
  rw [elementType_of_reference (isScalar_eq_false_iff.mp notScalar) typed] at made
  obtain ⟨typeRef, spelled, rest⟩ := made.bind (qualify_moves settled typeName scope) fun typeRef =>
    Moves.bind (Moves.liftM _) fun initial => Moves.pure _
  obtain ⟨initial, _, last⟩ := rest.bind (Moves.liftM _) fun initial => Moves.pure _
  rw [← last.pure]
  exact qualify_during settled recorded spelled

def singleMember (field : Schema.Field) (element : String × String) : Field :=
  { name := Name.memberName field.name
    number := field.number
    kind := field.kind
    typeRef := element.1
    initial := if field.isRepeated then "[]" else element.2
    repeated := field.isRepeated
    packed := field.packed
    presence := hasPresence field }

def mapMember (field : Schema.Field) (key value : Field) : Field :=
  { name := Name.memberName field.name
    number := field.number
    kind := field.kind
    typeRef := value.typeRef
    initial := "new Map()"
    repeated := true
    key := some key
    value := some value }

theorem buildField_of_single {field : Schema.Field} (single : field.parts? = none) (context : Context)
    (scope : String) :
    buildField context scope field = (do
      let element ← elementType context scope field
      return singleMember field element) := by
  refine buildField.eq_2 context scope field ?_
  rintro name number cardinality kind typeName oneofIndex jsonName packed isOptional
    explicitPresence defaultValue mapKey mapValue rfl
  cases single

/-- A map field is built from its key and its value. -/
theorem buildField_of_map {field mapKey mapValue : Schema.Field}
    (parts : field.parts? = some (mapKey, mapValue)) (context : Context) (scope : String) :
    buildField context scope field = (do
      let key ← buildField context scope mapKey
      let value ← buildField context scope mapValue
      return mapMember field key value) := by
  obtain ⟨hasKey, hasValue⟩ := Schema.Field.parts?_eq_some.mp parts
  cases field
  cases hasKey
  cases hasValue
  rw [buildField]
  rfl

theorem buildField_moves (settled : context.Settled files) (field : Schema.Field) :
    Moves (Grows context) (buildField context scope field) := by
  induction field using Schema.Field.parts_induction with
  | single field single =>
    rw [buildField_of_single single]
    exact Moves.bind (elementType_moves settled field) fun element => Moves.pure _
  | map field mapKey mapValue parts keyMoves valueMoves =>
    rw [buildField_of_map parts]
    exact Moves.bind keyMoves fun key => Moves.bind valueMoves fun value => Moves.pure _

/-- Each part of a field gets the text of the type it refers to. -/
theorem buildField_during (settled : context.Settled files) (recorded : Recorded context start)
    {field : Schema.Field} {member : Field}
    (made : During (Grows context) start finish (buildField context scope field) member) :
    EachPart (FieldSpells context scope finish) field member := by
  induction field using Schema.Field.parts_induction generalizing member with
  | single field single =>
    rw [buildField_of_single single] at made
    obtain ⟨element, built, last⟩ := made.bind (elementType_moves settled field) fun _ => Moves.pure _
    rw [← last.pure]
    exact .single single (elementType_during settled recorded built)
  | map field mapKey mapValue parts ofKey ofValue =>
    rw [buildField_of_map parts] at made
    obtain ⟨key, keyBuilt, rest⟩ := made.bind (buildField_moves settled mapKey) fun key =>
      Moves.bind (buildField_moves settled mapValue) fun value => Moves.pure _
    obtain ⟨value, valueBuilt, last⟩ := rest.bind (buildField_moves settled mapValue) fun _ =>
      Moves.pure _
    rw [← last.pure]
    exact .map parts rfl rfl (ofKey keyBuilt) (ofValue valueBuilt)

/-- What looking up a type and spelling it in a scope may fail with, a missing type included. -/
structure LookupFails (context : Context) (scope : String) (allowed : Error → Prop) : Prop where
  symbol : ∀ typeName, FailsOnly allowed (context.symbol typeName)
  reference : ∀ typeName, FailsOnly allowed (context.reference typeName scope)
  untyped : ∀ name kind, allowed (.missingTypeName name kind)

namespace LookupFails

variable {allowed : Error → Prop}

theorem qualify (fails : LookupFails context scope allowed) (typeName : String) :
    OnlyFails allowed (qualify context typeName scope) := by
  intro before failure after failed
  rw [qualify_run] at failed
  split at failed
  next error notSpelled =>
    cases failed
    exact fails.reference typeName _ notSpelled
  next => cases failed

theorem elementType (fails : LookupFails context scope allowed) (field : Schema.Field) :
    OnlyFails allowed (elementType context scope field) := by
  cases scalar : field.kind.scalarType? with
  | some typeRef =>
    rw [elementType_of_scalar scalar]
    exact OnlyFails.pure _
  | none =>
    cases typed : field.typeName with
    | none =>
      rw [elementType_of_untyped scalar typed]
      refine OnlyFails.liftM fun failure failed => ?_
      cases failed
      exact fails.untyped _ _
    | some typeName =>
      rw [elementType_of_reference scalar typed]
      refine OnlyFails.bind (fails.qualify typeName) fun typeRef => ?_
      refine OnlyFails.bind (OnlyFails.liftM ?_) fun _ => OnlyFails.pure _
      rw [referenceInitial]
      split
      · exact FailsOnly.bind (fails.symbol typeName) fun _ _ => FailsOnly.pure _
      · exact FailsOnly.pure _

/-- A field fails as the lookup of its types does. -/
theorem buildField (fails : LookupFails context scope allowed) (field : Schema.Field) :
    OnlyFails allowed (buildField context scope field) := by
  induction field using Schema.Field.parts_induction with
  | single field single =>
    rw [buildField_of_single single]
    exact OnlyFails.bind (fails.elementType field) fun _ => OnlyFails.pure _
  | map field mapKey mapValue parts ofKey ofValue =>
    rw [buildField_of_map parts]
    exact OnlyFails.bind ofKey fun _ => OnlyFails.bind ofValue fun _ => OnlyFails.pure _

end LookupFails

/-! ### Members -/

/-- A field cannot join a group exactly if its oneof is none of the message. -/
theorem joinGroup_eq_error {full : String} {oneofs : List Schema.Oneof} {field : Schema.Field}
    {member : Field} {error : Error} :
    joinGroup full oneofs field member = .error error ↔
      ∃ index, field.oneofIndex = some index ∧ (index < 0 ∨ (oneofs.length : Int) ≤ index) ∧
        error = .oneofOutOfRange (fullName full field.name) index oneofs.length := by
  rw [joinGroup]
  cases field.oneofIndex with
  | none => simp
  | some index =>
    simp only [Option.some.injEq, exists_eq_left']
    split
    next outside => simp [outside, eq_comm]
    next inside => split <;> simp [inside]

/-- A member that joins a group differs only in its place in the group. -/
theorem joinGroup_result {full : String} {oneofs : List Schema.Oneof} {field : Schema.Field}
    {member result : Field} (joined : joinGroup full oneofs field member = .ok result) :
    ∃ oneof oneofGroup, result = { member with oneof, oneofGroup } := by
  have unchanged : ∃ oneof oneofGroup, member = { member with oneof, oneofGroup } :=
    ⟨member.oneof, member.oneofGroup, by cases member; rfl⟩
  rw [joinGroup] at joined
  split at joined
  next =>
    cases joined
    exact unchanged
  next index _ =>
    split at joined
    next => cases joined
    next =>
      split at joined
      · cases joined
        exact unchanged
      · cases joined
        exact ⟨_, _, rfl⟩

/-- Joining a group changes neither the type nor the parts of a field. -/
theorem joinGroup_eq_ok {full : String} {oneofs : List Schema.Oneof} {field : Schema.Field}
    {member result : Field} (joined : joinGroup full oneofs field member = .ok result) :
    result.typeRef = member.typeRef ∧ result.key = member.key ∧ result.value = member.value := by
  obtain ⟨oneof, oneofGroup, rfl⟩ := joinGroup_result joined
  exact ⟨rfl, rfl, rfl⟩

theorem buildMember_moves (settled : context.Settled files) (full : String)
    (oneofs : List Schema.Oneof) (field : Schema.Field) :
    Moves (Grows context) (buildMember context scope full oneofs field) :=
  Moves.bind (buildField_moves settled field) fun _ => Moves.liftM _

theorem buildMember_during (settled : context.Settled files) (recorded : Recorded context start)
    {full : String} {oneofs : List Schema.Oneof} {field : Schema.Field} {member : Field}
    (made : During (Grows context) start finish (buildMember context scope full oneofs field) member) :
    EachPart (FieldSpells context scope finish) field member := by
  obtain ⟨plainMember, built, joined⟩ := made.bind (buildField_moves settled field) fun _ =>
    Moves.liftM _
  obtain ⟨sameType, sameKey, sameValue⟩ := joinGroup_eq_ok joined.liftM
  exact (buildField_during settled recorded built).congr sameType sameKey sameValue

/-! ### Messages and scopes -/

/-- The declarations of one scope: its enumerations, then its messages. -/
def buildScope (context : Context) (scope : String) (enums : List Enum) (messages : List Message) :
    Building (List Declaration) := do
  let enums ← buildEnums context scope enums
  let messages ← buildMessages context scope messages
  return enums ++ messages

def classOf (context : Context) (message : Message) (full given : String) (members : List Field) :
    MessageClass :=
  { name := given
    fullName := full
    runtime := context.imports.runtime
    members
    oneofs := oneofGroups message.oneofs members }

/-- A class, followed by the namespace of what is nested in it if there is anything. -/
def withNested (decl : MessageClass) (nested : List Declaration) : List Declaration :=
  if nested.isEmpty then [.messageClass decl] else [.messageClass decl, .namespaced decl.name nested]

theorem buildTypes_eq (context : Context) :
    buildTypes context =
      buildScope context context.file.scope context.file.enums context.file.messages := rfl

theorem buildMessage_of_entry {message : Message} (entry : message.mapEntry = true)
    (context : Context) (scope : String) : buildMessage context scope message = pure [] := by
  cases message
  subst entry
  rfl

/-- The types nested in a message are built before the members of its class. -/
theorem buildMessage_of_declared {message : Message} (declared : message.mapEntry = false)
    (context : Context) (scope : String) :
    buildMessage context scope message = (do
      let symbol ← context.symbol (fullName scope message.name)
      let nested ← buildScope context (fullName scope message.name) message.nestedEnums
        message.nestedMessages
      let members ← message.fields.mapM
        (buildMember context scope (fullName scope message.name) message.oneofs)
      return withNested
        (classOf context message (fullName scope message.name) symbol.declaredName members) nested) := by
  obtain ⟨name, fields, nestedMessages, nestedEnums, oneofs, mapEntry⟩ := message
  subst declared
  simp only [buildMessage, buildScope, bind_assoc, pure_bind]
  rfl

theorem buildMessages_eq (context : Context) (scope : String) (messages : List Message) :
    buildMessages context scope messages = (do
      let parts ← messages.mapM (buildMessage context scope)
      return parts.flatten) := by
  induction messages with
  | nil => rfl
  | cons message messages ih =>
    rw [buildMessages, ih, List.mapM_cons]
    simp only [bind_assoc, pure_bind, List.flatten_cons]

theorem buildScope_moves_of {messages : List Message}
    (each : ∀ message ∈ messages, ∀ scope, Moves (Grows context) (buildMessage context scope message))
    (scope : String) (enums : List Enum) :
    Moves (Grows context) (buildScope context scope enums messages) := by
  rw [buildScope, buildMessages_eq]
  refine Moves.bind (Moves.liftM _) fun decls => Moves.bind (Moves.bind ?_ fun parts => Moves.pure _)
    fun messages => Moves.pure _
  exact Moves.mapM fun message member => each message member scope

/-- Building a message loses no recorded use. -/
theorem buildMessage_moves (settled : context.Settled files) (message : Message) :
    ∀ scope, Moves (Grows context) (buildMessage context scope message) := by
  induction message using Message.nested_induction with
  | step message nested =>
    intro scope
    cases entry : message.mapEntry with
    | true =>
      rw [buildMessage_of_entry entry]
      exact Moves.pure _
    | false =>
      rw [buildMessage_of_declared entry]
      refine Moves.bind (Moves.liftM _) fun symbol => Moves.bind ?_ fun inside =>
        Moves.bind ?_ fun members => Moves.pure _
      · exact buildScope_moves_of nested _ _
      · exact Moves.mapM fun field _ => buildMember_moves settled _ _ field

theorem buildScope_moves (settled : context.Settled files) (scope : String) (enums : List Enum)
    (messages : List Message) : Moves (Grows context) (buildScope context scope enums messages) :=
  buildScope_moves_of (fun message _ => buildMessage_moves settled message) scope enums

/-- A class and the declarations nested in it were made for a message in the course of a run. -/
structure MadeFor (context : Context) (start finish : RootUses) (scope : String) (message : Message)
    (decl : MessageClass) (nested : List Declaration) : Prop where
  declared : message.mapEntry = false
  fullName : decl.fullName = fullName scope message.name
  named : ∃ symbol, context.symbol decl.fullName = .ok symbol ∧ decl.name = symbol.declaredName
  members : List.Forall₂ (EachPart (FieldSpells context scope finish)) message.fields decl.members
  nested : During (Grows context) start finish
    (buildScope context decl.fullName message.nestedEnums message.nestedMessages) nested

/-- A message becomes nothing if it is a map entry, and otherwise a class with what is nested in it. -/
theorem buildMessage_during (settled : context.Settled files) (recorded : Recorded context start)
    {message : Message} {part : List Declaration}
    (made : During (Grows context) start finish (buildMessage context scope message) part) :
    (message.mapEntry = true ∧ part = []) ∨
      ∃ decl nested, MadeFor context start finish scope message decl nested ∧
        part = withNested decl nested := by
  cases entry : message.mapEntry with
  | true =>
    rw [buildMessage_of_entry entry] at made
    exact .inl ⟨rfl, made.pure.symm⟩
  | false =>
    -- Each stage is made in the course of the whole run, since those before and after it only add uses.
    have scopeMoves := buildScope_moves settled (fullName scope message.name) message.nestedEnums
      message.nestedMessages
    have membersMove : Moves (Grows context) (message.fields.mapM
        (buildMember context scope (fullName scope message.name) message.oneofs)) :=
      Moves.mapM fun field _ => buildMember_moves settled _ _ field
    rw [buildMessage_of_declared entry] at made
    obtain ⟨symbol, found, rest⟩ := made.bind (Moves.liftM _) fun symbol =>
      Moves.bind scopeMoves fun nested => Moves.bind membersMove fun members => Moves.pure _
    obtain ⟨nested, nestedMade, rest⟩ := rest.bind scopeMoves fun nested =>
      Moves.bind membersMove fun members => Moves.pure _
    obtain ⟨members, membersMade, last⟩ := rest.bind membersMove fun members => Moves.pure _
    have spelled : List.Forall₂ (EachPart (FieldSpells context scope finish)) message.fields members :=
      (membersMade.mapM fun field _ => buildMember_moves settled _ _ field).imp
        fun field member built => buildMember_during settled recorded built
    let decl := classOf context message (fullName scope message.name) symbol.declaredName members
    have made : MadeFor context start finish scope message decl nested :=
      ⟨entry, rfl, ⟨symbol, found.liftM, rfl⟩, spelled, nestedMade⟩
    exact .inr ⟨decl, nested, made, last.pure.symm⟩

/-- Messages that are no map entries become classes, one after the other. -/
theorem classes_of_parts (settled : context.Settled files) (recorded : Recorded context start)
    {messages : List Message} {parts : List (List Declaration)}
    (made : List.Forall₂ (fun message part =>
      During (Grows context) start finish (buildMessage context scope message) part) messages parts) :
    ∃ classes : List (MessageClass × List Declaration),
      parts.flatten = classes.flatMap (fun made => withNested made.1 made.2) ∧
      List.Forall₂ (fun message made => MadeFor context start finish scope message made.1 made.2)
        (messages.filter fun message => !message.mapEntry) classes := by
  induction made with
  | nil => exact ⟨[], rfl, .nil⟩
  | @cons message part messages parts first others ih =>
    obtain ⟨classes, flat, related⟩ := ih
    -- An entry drops out on both sides; any other message adds one class.
    rcases buildMessage_during settled recorded first with ⟨entry, rfl⟩ | ⟨decl, nested, isMade, rfl⟩
    · refine ⟨classes, by rw [List.flatten_cons, List.nil_append, flat], ?_⟩
      rwa [List.filter_cons_of_neg (by simp [entry])]
    · refine ⟨(decl, nested) :: classes, by rw [List.flatten_cons, flat, List.flatMap_cons], ?_⟩
      rw [List.filter_cons_of_pos (by simp [isMade.declared])]
      exact .cons isMade related

/-- The declarations of a scope are its enumerations, then the classes of its messages. -/
theorem buildScope_during (settled : context.Settled files) (recorded : Recorded context start)
    {enums : List Enum} {messages : List Message} {body : List Declaration}
    (made : During (Grows context) start finish (buildScope context scope enums messages) body) :
    ∃ decls, ∃ classes : List (MessageClass × List Declaration),
      body = decls ++ classes.flatMap (fun made => withNested made.1 made.2) ∧
      List.Forall₂ (fun enum decl => buildEnum context scope enum = .ok decl) enums decls ∧
      List.Forall₂ (fun message made => MadeFor context start finish scope message made.1 made.2)
        (messages.filter fun message => !message.mapEntry) classes := by
  have each : ∀ message ∈ messages, Moves (Grows context) (buildMessage context scope message) :=
    fun message _ => buildMessage_moves settled message scope
  -- The run is taken apart into enumerations, messages and the list that they are put into.
  rw [buildScope, buildMessages_eq] at made
  obtain ⟨decls, enumsMade, rest⟩ := made.bind (Moves.liftM _) fun decls =>
    Moves.bind (Moves.bind (Moves.mapM each) fun parts => Moves.pure _) fun messages => Moves.pure _
  obtain ⟨flat, messagesMade, last⟩ := rest.bind
    (Moves.bind (Moves.mapM each) fun parts => Moves.pure _) fun messages => Moves.pure _
  obtain ⟨parts, partsMade, flattened⟩ := messagesMade.bind (Moves.mapM each) fun parts => Moves.pure _
  obtain ⟨classes, same, related⟩ := classes_of_parts settled recorded (partsMade.mapM each)
  refine ⟨decls, classes, ?_, (except_mapM_eq_ok_iff _ _ _).mp enumsMade.liftM, related⟩
  rw [← same, flattened.pure]
  exact last.pure.symm

/-- An enumeration keeps its constants and gets the name of its symbol. -/
theorem buildEnum_eq_ok {enum : Enum} {decl : Declaration}
    (built : buildEnum context scope enum = .ok decl) :
    ∃ symbol, context.symbol (fullName scope enum.name) = .ok symbol ∧
      decl = .enumeration symbol.declaredName
        (enum.values.map fun value => { name := value.name, value := value.number }) := by
  obtain ⟨symbol, found, last⟩ := except_bind_eq_ok built
  exact ⟨symbol, found, (Except.ok.inj last).symm⟩

end Code

end Typewire
