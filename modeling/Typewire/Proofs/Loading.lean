import Typewire.Proofs.Effects
import Typewire.Proofs.Scopes
import Typewire.Schema.Load

/-!
# Schemas that were loaded

Loading gives every field a regular form. It names a type or names none, but never the empty one; and it has
either both parts of a map or neither, the parts being no maps themselves. Collecting the types of a file and
building its classes look at fields in different ways, and agree on fields of this form.
-/
namespace Typewire.Schema

/-! ### Messages at every depth -/

mutual

/-- A message and the messages nested in it at every depth. -/
def Message.family : Message → List Message
  | ⟨name, fields, nestedMessages, nestedEnums, oneofs, mapEntry⟩ =>
    ⟨name, fields, nestedMessages, nestedEnums, oneofs, mapEntry⟩ :: Message.families nestedMessages

def Message.families : List Message → List Message
  | [] => []
  | message :: messages => message.family ++ Message.families messages

end

/-- The messages of a file at every depth, map entries included. -/
def File.allMessages (file : File) : List Message :=
  Message.families file.messages

theorem Message.family_eq (message : Message) :
    message.family = message :: Message.families message.nestedMessages := by
  cases message
  rfl

theorem Message.families_eq_flatMap (messages : List Message) :
    Message.families messages = messages.flatMap Message.family := by
  induction messages with
  | nil => rfl
  | cons message messages ih => rw [families, ih, List.flatMap_cons]

theorem Message.family_subset {messages : List Message} {message : Message}
    (member : message ∈ messages) : message.family ⊆ Message.families messages := by
  intro other inFamily
  rw [families_eq_flatMap]
  exact List.mem_flatMap.mpr ⟨message, member, inFamily⟩

theorem File.HasScope.families_subset {file : File} {scope : String} {enums : List Enum}
    {messages : List Message} (has : file.HasScope scope enums messages) :
    Message.families messages ⊆ file.allMessages := by
  induction has with
  | top => exact List.Subset.refl _
  | @inside scope enums messages message outer member declared ih =>
    intro nested isNested
    apply ih
    apply Message.family_subset member
    rw [Message.family_eq]
    exact List.mem_cons_of_mem _ isNested

/-- A declared message is among all messages of its file. -/
theorem File.Declares.mem_allMessages {file : File} {full : String} {message : Message}
    (declares : file.Declares full message) : message ∈ file.allMessages := by
  obtain ⟨scope, enums, messages, has, member, _, _⟩ := declares
  apply has.families_subset
  apply Message.family_subset member
  rw [Message.family_eq]
  exact List.mem_cons_self

/-! ### Loaded fields -/

/-- A field that is no map and does not name the empty type. -/
structure Field.IsSimple (field : Field) : Prop where
  named : field.typeName ≠ some ""
  noKey : field.mapKey = none
  noValue : field.mapValue = none

/-- The two forms of a loaded field. -/
inductive Field.IsLoaded (field : Field) : Prop where
  | single (simple : field.IsSimple)
  | map {key value : Field} (hasKey : field.mapKey = some key) (hasValue : field.mapValue = some value)
      (simpleKey : key.IsSimple) (simpleValue : value.IsSimple)

/-- A field that is loaded on its own is no map. -/
theorem Field.load_isSimple {dialect : Dialect} {outer : Descriptor.Features}
    {descriptor : Descriptor.Field} {field : Field}
    (loaded : Field.load dialect outer descriptor = .ok field) : field.IsSimple := by
  obtain ⟨name, _, afterName⟩ := except_bind_eq_ok loaded
  obtain ⟨typeName, _, afterTypeName⟩ := except_bind_eq_ok afterName
  obtain ⟨jsonName, _, afterJsonName⟩ := except_bind_eq_ok afterTypeName
  obtain ⟨defaultValue, _, last⟩ := except_bind_eq_ok afterJsonName
  cases last
  refine ⟨?_, rfl, rfl⟩
  -- An empty type name is loaded as none.
  by_cases empty : typeName = ""
  · simp [empty]
  · simp [empty]

theorem loadMember_isLoaded {dialect : Dialect} {features : Descriptor.Features}
    {entries : List (String × Descriptor.Message)} {descriptor : Descriptor.Field} {field : Field}
    (loaded : loadMember dialect features entries descriptor = .ok field) : field.IsLoaded := by
  obtain ⟨alone, isAlone, rest⟩ := except_bind_eq_ok loaded
  dsimp only at rest
  split at rest
  next =>
    cases rest
    exact .single (Field.load_isSimple isAlone)
  next entry _ =>
    obtain ⟨parts, _, afterParts⟩ := except_bind_eq_ok rest
    obtain ⟨key, isKey, afterKey⟩ := except_bind_eq_ok afterParts
    obtain ⟨value, isValue, last⟩ := except_bind_eq_ok afterKey
    cases last
    exact .map rfl rfl (Field.load_isSimple isKey) (Field.load_isSimple isValue)

/-! ### Loaded messages -/

theorem Message.loadAll_eq_mapM (dialect : Dialect) (outer : Descriptor.Features) (scope : String)
    (descriptors : List Descriptor.Message) :
    Message.loadAll dialect outer scope descriptors =
      descriptors.mapM (Message.load dialect outer scope) := by
  induction descriptors with
  | nil => rfl
  | cons descriptor descriptors ih => rw [loadAll, ih, List.mapM_cons]

/-- What loading a message comes to for each of its parts. -/
structure Message.LoadedFrom (dialect : Dialect) (outer : Descriptor.Features) (scope : String)
    (source : Descriptor.Message) (message : Message) : Prop where
  name : text source.name = .ok message.name
  fields : ∃ entries, entriesOf (fullName scope message.name) source.nested = .ok entries ∧
    List.Forall₂ (fun field member =>
      loadMember dialect (source.features.within outer) entries field = .ok member)
      source.fields message.fields
  oneofs : loadOneofs source.oneofs source.fields = .ok message.oneofs
  nested : Message.loadAll dialect (source.features.within outer) (fullName scope message.name)
    source.nested = .ok message.nestedMessages
  enums : List.Forall₂ (fun enum result => Enum.load enum = .ok result) source.enums message.nestedEnums
  mapEntry : message.mapEntry = source.mapEntry

/-- A message is loaded part by part. -/
theorem Message.load_eq_ok {dialect : Dialect} {outer : Descriptor.Features} {scope : String}
    {source : Descriptor.Message} {message : Message}
    (loaded : Message.load dialect outer scope source = .ok message) :
    Message.LoadedFrom dialect outer scope source message := by
  obtain ⟨name, fields, nested, enums, oneofs, mapEntry, features⟩ := source
  rw [Message.load] at loaded
  obtain ⟨ownName, named, afterName⟩ := except_bind_eq_ok loaded
  obtain ⟨entries, isEntries, afterEntries⟩ := except_bind_eq_ok afterName
  obtain ⟨members, fieldsLoaded, afterFields⟩ := except_bind_eq_ok afterEntries
  obtain ⟨groups, oneofsLoaded, afterOneofs⟩ := except_bind_eq_ok afterFields
  obtain ⟨inside, nestedLoaded, afterNested⟩ := except_bind_eq_ok afterOneofs
  obtain ⟨insideEnums, enumsLoaded, last⟩ := except_bind_eq_ok afterNested
  cases last
  exact ⟨named, ⟨entries, isEntries, (except_mapM_eq_ok_iff _ _ _).mp fieldsLoaded⟩, oneofsLoaded,
    nestedLoaded, (except_mapM_eq_ok_iff _ _ _).mp enumsLoaded, rfl⟩

/-- Loading a message loads every message nested in it. -/
theorem Message.load_isLoaded (message : Message) :
    ∀ {dialect outer scope descriptor}, Message.load dialect outer scope descriptor = .ok message →
      ∀ member ∈ message.family, ∀ field ∈ member.fields, field.IsLoaded := by
  induction message using Message.nested_induction with
  | step message nested =>
    intro dialect outer scope descriptor loaded member inFamily
    -- Features and scope change on the way inwards, so the induction is for all of them.
    have parts := Message.load_eq_ok loaded
    rw [Message.family_eq, Message.families_eq_flatMap] at inFamily
    rcases List.mem_cons.mp inFamily with rfl | below
    · intro field isField
      obtain ⟨entries, _, fieldsLoaded⟩ := parts.fields
      obtain ⟨source, _, isLoaded⟩ := exists_left_of_forall₂ fieldsLoaded isField
      exact loadMember_isLoaded isLoaded
    · obtain ⟨inside, isNested, inNested⟩ := List.mem_flatMap.mp below
      have nestedLoaded := parts.nested
      rw [loadAll_eq_mapM, except_mapM_eq_ok_iff] at nestedLoaded
      obtain ⟨source, _, insideLoaded⟩ := exists_left_of_forall₂ nestedLoaded isNested
      exact nested inside isNested insideLoaded member inNested

/-- The messages of a file are loaded in its dialect, under its features and inside its package. -/
theorem File.load_messages {descriptor : Descriptor.File} {file : File}
    (loaded : File.load descriptor = .ok file) :
    ∃ dialect, text descriptor.dialect = .ok dialect ∧
      Message.loadAll (Dialect.ofName (if dialect = "" then "proto2" else dialect))
        (descriptor.features.within Descriptor.Features.defaults) file.scope descriptor.messages =
          .ok file.messages := by
  obtain ⟨dialect, isDialect, afterDialect⟩ := except_bind_eq_ok loaded
  obtain ⟨package, _, afterPackage⟩ := except_bind_eq_ok afterDialect
  obtain ⟨name, _, afterName⟩ := except_bind_eq_ok afterPackage
  obtain ⟨dependencies, _, afterDependencies⟩ := except_bind_eq_ok afterName
  obtain ⟨enums, _, afterEnums⟩ := except_bind_eq_ok afterDependencies
  obtain ⟨messages, messagesLoaded, afterMessages⟩ := except_bind_eq_ok afterEnums
  obtain ⟨services, _, last⟩ := except_bind_eq_ok afterMessages
  cases last
  refine ⟨dialect, isDialect, ?_⟩
  by_cases unnamed : package = ""
  · simpa [File.scope, File.package?, unnamed] using messagesLoaded
  · simpa [File.scope, File.package?, Option.filter, unnamed] using messagesLoaded

/-- The fields of a loaded file have one of the two forms, at every depth. -/
theorem File.load_isLoaded {descriptor : Descriptor.File} {file : File}
    (loaded : File.load descriptor = .ok file) {message : Message} (member : message ∈ file.allMessages)
    {field : Field} (isField : field ∈ message.fields) : field.IsLoaded := by
  obtain ⟨dialect, _, messagesLoaded⟩ := File.load_messages loaded
  rw [Message.loadAll_eq_mapM, except_mapM_eq_ok_iff] at messagesLoaded
  rw [allMessages, Message.families_eq_flatMap] at member
  obtain ⟨top, isTop, inFamily⟩ := List.mem_flatMap.mp member
  obtain ⟨source, _, topLoaded⟩ := exists_left_of_forall₂ messagesLoaded isTop
  exact Message.load_isLoaded top topLoaded message inFamily field isField

end Typewire.Schema
