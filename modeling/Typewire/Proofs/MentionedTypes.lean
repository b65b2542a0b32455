import Typewire.Proofs.Scopes
import Typewire.Symbol.References

/-!
# Types that a file mentions

A field mentions its type, or the type of its values if it is a map; a method mentions what it takes and what
it gives. `File.Mentions` says this place by place, without an order. The list of references holds
exactly these types, so whoever goes through the list meets every mention.
-/
namespace Typewire.Schema

variable {file : File} {typeName : String}

/-- A field mentions a type: that of its values in a map, else its own. The empty name stands for no type. -/
inductive Field.Mentions (field : Field) (typeName : String) : Prop where
  | single (noMap : field.mapValue = none) (typed : field.typeName = some typeName)
      (nonempty : typeName ≠ "")
  | mapValue {value : Field} (isMap : field.mapValue = some value) (typed : value.typeName = some typeName)
      (nonempty : typeName ≠ "")

/-- A file mentions a type: in a field of a message that is no map entry, at whatever depth, or in a method. -/
inductive File.Mentions (file : File) (typeName : String) : Prop where
  | field {full : String} {message : Message} {field : Field} (declares : file.Declares full message)
      (isField : field ∈ message.fields) (mentions : field.Mentions typeName)
  | method {service : Service} {method : Method} (isService : service ∈ file.services)
      (isMethod : method ∈ service.methods) (isPart : typeName ∈ [method.inputType, method.outputType])

/-- The reference of a field is the type that it mentions. -/
theorem Field.reference?_eq_some_iff {field : Field} :
    field.reference? = some typeName ↔ field.Mentions typeName := by
  rw [reference?, Option.filter_eq_some_iff, decide_eq_true_eq]
  constructor
  · rintro ⟨typed, nonempty⟩
    cases hasValue : field.mapValue with
    | none => exact .single hasValue (by simpa only [hasValue] using typed) nonempty
    | some value => exact .mapValue hasValue (by simpa only [hasValue] using typed) nonempty
  · rintro (⟨noMap, typed, nonempty⟩ | ⟨isMap, typed, nonempty⟩)
    · rw [noMap]
      exact ⟨typed, nonempty⟩
    · rw [isMap]
      exact ⟨typed, nonempty⟩

theorem Message.references_of_declared {message : Message} (declared : message.mapEntry = false) :
    message.references =
      message.fields.filterMap Field.reference? ++ Message.allReferences message.nestedMessages := by
  cases message
  subst declared
  rfl

/-- A map entry mentions nothing; its value is mentioned by the field that refers to it. -/
theorem Message.references_of_entry {message : Message} (isEntry : message.mapEntry = true) :
    message.references = [] := by
  cases message
  subst isEntry
  rfl

theorem Message.allReferences_eq_flatMap (messages : List Message) :
    Message.allReferences messages = messages.flatMap Message.references := by
  induction messages with
  | nil => rfl
  | cons message messages ih => rw [allReferences, ih, List.flatMap_cons]

/-- What the messages of a scope mention is mentioned by the file. -/
theorem File.HasScope.references_subset {scope : String} {enums : List Enum} {messages : List Message}
    (has : file.HasScope scope enums messages) : Message.allReferences messages ⊆ file.references := by
  induction has with
  | top => exact List.subset_append_left _ _
  | @inside scope enums messages message outer member declared ih =>
    intro typeName mentioned
    apply ih
    rw [Message.allReferences_eq_flatMap]
    refine List.mem_flatMap.mpr ⟨message, member, ?_⟩
    rw [Message.references_of_declared declared]
    exact List.mem_append_right _ mentioned

/-- What a field of a declared message mentions is mentioned by the file. -/
theorem File.Declares.mem_references {full : String} {message : Message}
    (declares : file.Declares full message) {field : Field} (member : field ∈ message.fields)
    (mentions : field.reference? = some typeName) : typeName ∈ file.references := by
  obtain ⟨scope, enums, messages, has, isMessage, declared, _⟩ := declares
  apply has.references_subset
  rw [Message.allReferences_eq_flatMap]
  refine List.mem_flatMap.mpr ⟨message, isMessage, ?_⟩
  rw [Message.references_of_declared declared]
  exact List.mem_append_left _ (List.mem_filterMap.mpr ⟨field, member, mentions⟩)

/-- What a method takes and gives is mentioned by the file. -/
theorem File.method_mem_references {service : Service} {method : Method} (isService : service ∈ file.services)
    (isMethod : method ∈ service.methods) (isPart : typeName ∈ [method.inputType, method.outputType]) :
    typeName ∈ file.references := by
  apply List.mem_append_right
  exact List.mem_flatMap.mpr ⟨service, isService, List.mem_flatMap.mpr ⟨method, isMethod, isPart⟩⟩

/-- Whatever a message of a scope refers to is mentioned in a field, of the message or of one inside it. -/
theorem Message.mentions_of_mem_references (message : Message) :
    ∀ {scope : String} {enums : List Enum} {messages : List Message}, file.HasScope scope enums messages →
      message ∈ messages → typeName ∈ message.references → file.Mentions typeName := by
  induction message using Message.nested_induction with
  | step message ih =>
    intro scope enums messages has member refers
    cases declared : message.mapEntry with
    | true =>
      rw [references_of_entry declared] at refers
      cases refers
    | false =>
      rw [references_of_declared declared, allReferences_eq_flatMap] at refers
      rcases List.mem_append.mp refers with own | inside
      · obtain ⟨field, isField, mentions⟩ := List.mem_filterMap.mp own
        exact .field ⟨scope, enums, messages, has, member, declared, rfl⟩ isField
          (Field.reference?_eq_some_iff.mp mentions)
      · obtain ⟨nested, isNested, refers⟩ := List.mem_flatMap.mp inside
        exact ih nested isNested (has.inside member declared) isNested refers

/-- The references of a file are exactly the types that it mentions. -/
theorem File.mem_references_iff : typeName ∈ file.references ↔ file.Mentions typeName := by
  constructor
  · intro refers
    rcases List.mem_append.mp refers with inMessages | inServices
    · rw [Message.allReferences_eq_flatMap] at inMessages
      obtain ⟨message, isMessage, refers⟩ := List.mem_flatMap.mp inMessages
      exact message.mentions_of_mem_references .top isMessage refers
    · obtain ⟨service, isService, inService⟩ := List.mem_flatMap.mp inServices
      obtain ⟨method, isMethod, isPart⟩ := List.mem_flatMap.mp inService
      exact .method isService isMethod isPart
  · rintro (⟨declares, isField, mentions⟩ | ⟨isService, isMethod, isPart⟩)
    · exact declares.mem_references isField (Field.reference?_eq_some_iff.mpr mentions)
    · exact File.method_mem_references isService isMethod isPart

end Typewire.Schema
