import Typewire.Proofs.LoadedPlaces

/-!
# Requests whose texts can be read

A descriptor holds its texts as bytes, and bytes need not encode a text. `texts` collects them, at every
depth. Where all of them encode texts, loading can fail in one way only: a field refers to an entry message
that is not made of a key and a value. So the failures of a load are those of such entries, and there is none
if there are no such entries.
-/
namespace Typewire

/-! ### Texts of descriptors -/

namespace Descriptor

open Wire (Bytes)

def Field.texts (field : Field) : List Bytes :=
  [field.name, field.typeName, field.jsonName] ++ field.defaultValue.toList

def Enum.texts (enum : Enum) : List Bytes :=
  enum.name :: enum.values.map (·.name)

def Method.texts (method : Method) : List Bytes :=
  [method.name, method.inputType, method.outputType]

def Service.texts (service : Service) : List Bytes :=
  service.name :: service.methods.flatMap Method.texts

mutual

/-- The texts of a message and of everything nested in it. -/
def Message.texts : Message → List Bytes
  | ⟨name, fields, nested, enums, oneofs, _, _⟩ =>
    name :: (fields.flatMap Field.texts ++ oneofs ++ enums.flatMap Enum.texts ++ Message.allTexts nested)

def Message.allTexts : List Message → List Bytes
  | [] => []
  | message :: messages => message.texts ++ Message.allTexts messages

end

def File.texts (file : File) : List Bytes :=
  [file.dialect, file.package, file.name] ++ file.dependencies ++ file.enums.flatMap Enum.texts ++
    Message.allTexts file.messages ++ file.services.flatMap Service.texts

def Request.texts (request : Request) : List Bytes :=
  [request.compilerVersion.suffix, request.parameter] ++ request.filesToGenerate ++
    request.files.flatMap File.texts

/-- Bytes that all encode texts. -/
def Legible (texts : List Bytes) : Prop :=
  ∀ bytes ∈ texts, (Wire.Record.decodeText bytes).isSome = true

instance (texts : List Bytes) : Decidable (Legible texts) :=
  inferInstanceAs (Decidable (∀ bytes ∈ texts, _))

theorem Legible.mono {texts fewer : List Bytes} (legible : Legible texts) (subset : fewer ⊆ texts) :
    Legible fewer :=
  fun bytes member => legible bytes (subset member)

theorem Message.texts_eq (message : Message) :
    message.texts = message.name :: (message.fields.flatMap Field.texts ++ message.oneofs ++
      message.enums.flatMap Enum.texts ++ Message.allTexts message.nested) := by
  cases message
  rfl

theorem Message.texts_subset {messages : List Message} {message : Message} (member : message ∈ messages) :
    message.texts ⊆ Message.allTexts messages := by
  induction messages with
  | nil => simp at member
  | cons first others ih =>
    rw [allTexts]
    rcases List.mem_cons.mp member with rfl | later
    · exact List.subset_append_left _ _
    · exact List.Subset.trans (ih later) (List.subset_append_right _ _)

/-- What holds of a message as soon as it holds of the messages nested in it holds of all messages. -/
theorem Message.nested_induction {P : Message → Prop}
    (step : ∀ message : Message, (∀ nested ∈ message.nested, P nested) → P message)
    (message : Message) : P message :=
  step message fun nested _ => Message.nested_induction step nested
termination_by sizeOf message
decreasing_by
  rename_i member
  have smaller := List.sizeOf_lt_of_mem member
  cases message
  simp only [Message.mk.sizeOf_spec] at smaller ⊢
  omega

end Descriptor

/-- A failure that the command line reports as such. -/
def Error.Reported (error : Error) : Prop :=
  error.isReportable = true

/-! ### Loading -/

namespace Schema

open Error (Reported)

open Descriptor (Features Legible)

section Failures

variable {allowed : Error → Prop}

theorem text_failsOnly {bytes : Wire.Bytes} {texts : List Wire.Bytes} (legible : Legible texts)
    (member : bytes ∈ texts) : FailsOnly allowed (text bytes) := by
  intro failure failed
  rw [text] at failed
  split at failed
  next => cases failed
  next none =>
    have isText := legible bytes member
    rw [none] at isText
    cases isText

/-- A legible field can be loaded on its own. -/
theorem Field.load_failsOnly {field : Descriptor.Field} (legible : Legible field.texts)
    (dialect : Dialect) (outer : Features) : FailsOnly allowed (Field.load dialect outer field) := by
  refine FailsOnly.bind (text_failsOnly legible (by simp [Descriptor.Field.texts])) fun _ _ => ?_
  refine FailsOnly.bind (text_failsOnly legible (by simp [Descriptor.Field.texts])) fun _ _ => ?_
  refine FailsOnly.bind (text_failsOnly legible (by simp [Descriptor.Field.texts])) fun _ _ => ?_
  refine FailsOnly.bind ?_ fun _ _ => FailsOnly.pure _
  cases given : field.defaultValue with
  | none => exact FailsOnly.pure _
  | some bytes =>
    have isText : bytes ∈ field.texts := by simp [Descriptor.Field.texts, given]
    exact FailsOnly.bind (text_failsOnly legible isText) fun _ _ => FailsOnly.pure _

theorem entriesOf_failsOnly {nested : List Descriptor.Message} (scope : String)
    (legible : Legible (Descriptor.Message.allTexts nested)) :
    FailsOnly allowed (entriesOf scope nested) := by
  refine FailsOnly.mapM fun entry member => ?_
  have inNested := Descriptor.Message.texts_subset (List.mem_filter.mp member).1
  have isText : entry.name ∈ entry.texts := by simp [Descriptor.Message.texts_eq]
  exact FailsOnly.bind (text_failsOnly legible (inNested isText)) fun _ _ => FailsOnly.pure _

/-- Every part of a list is legible if the texts of all parts are. -/
theorem legible_of_flatMap {α : Type} {texts : α → List Wire.Bytes} {parts : List α}
    (legible : Legible (parts.flatMap texts)) : ∀ part ∈ parts, Legible (texts part) :=
  fun part member => legible.mono fun _ isText => List.mem_flatMap.mpr ⟨part, member, isText⟩

/-- The fields of an entry among legible messages are legible. -/
theorem IsEntryFor.legible {full : String} {nested : List Descriptor.Message} {typeName : String}
    {entry : Descriptor.Message} (isEntry : IsEntryFor full nested typeName entry)
    (legible : Legible (Descriptor.Message.allTexts nested)) :
    ∀ field ∈ entry.fields, Legible field.texts := by
  obtain ⟨before, after, rfl, _⟩ := isEntry
  have isNested : entry ∈ before ++ entry :: after := by simp
  have ofEntry := legible.mono (Descriptor.Message.texts_subset isNested)
  rw [Descriptor.Message.texts_eq] at ofEntry
  exact legible_of_flatMap (ofEntry.mono fun bytes member => by simp [member])

/-- A legible field is loaded unless it refers to an entry with a fault. -/
theorem loadMember_failsOnly {full : String} {nested : List Descriptor.Message}
    {entries : List (String × Descriptor.Message)} (areEntries : entriesOf full nested = .ok entries)
    (legibleNested : Legible (Descriptor.Message.allTexts nested)) {field : Descriptor.Field}
    (legible : Legible field.texts)
    (faults : ∀ entry, IsEntryFor full nested (textOf field.typeName) entry →
      FailsOnly allowed (entryParts (textOf field.typeName) entry))
    (dialect : Dialect) (features : Features) :
    FailsOnly allowed (loadMember dialect features entries field) := by
  refine FailsOnly.bind (Field.load_failsOnly legible dialect features) fun alone isAlone => ?_
  obtain rfl := Field.load_eq_ok isAlone
  dsimp only
  rw [Field.typeName_described]
  split
  next => exact FailsOnly.pure _
  next name entry found =>
    have isEntry := isEntryFor_of_found areEntries found
    refine FailsOnly.bind (faults entry isEntry) fun parts areParts => ?_
    -- The parts are fields of the entry, and its texts are among those of the nested messages.
    have legiblePart := isEntry.legible legibleNested
    have hasParts := entryParts_eq_ok.mp areParts
    have isKey : parts.1 ∈ entry.fields := by
      rcases hasParts.fields with fields | fields <;> simp [fields]
    have isValue : parts.2 ∈ entry.fields := by
      rcases hasParts.fields with fields | fields <;> simp [fields]
    refine FailsOnly.bind (Field.load_failsOnly (legiblePart _ isKey) dialect features) fun _ _ => ?_
    refine FailsOnly.bind (Field.load_failsOnly (legiblePart _ isValue) dialect features) fun _ _ => ?_
    exact FailsOnly.pure _

theorem loadOneofs_failsOnly {names : List Wire.Bytes} (legible : Legible names)
    (fields : List Descriptor.Field) : FailsOnly allowed (loadOneofs names fields) := by
  refine FailsOnly.mapM fun entry member => ?_
  have isName : entry.1 ∈ names := by
    have inNames : entry.1 ∈ names.zipIdx.map Prod.fst := List.mem_map.mpr ⟨entry, member, rfl⟩
    rwa [List.zipIdx_map_fst] at inNames
  exact FailsOnly.bind (text_failsOnly legible isName) fun _ _ => FailsOnly.pure _

theorem Enum.load_failsOnly {enum : Descriptor.Enum} (legible : Legible enum.texts) :
    FailsOnly allowed (Enum.load enum) := by
  refine FailsOnly.bind (text_failsOnly legible List.mem_cons_self) fun _ _ => ?_
  refine FailsOnly.bind (FailsOnly.mapM fun value member => ?_) fun _ _ => FailsOnly.pure _
  have isText : value.name ∈ enum.texts :=
    List.mem_cons_of_mem _ (List.mem_map.mpr ⟨value, member, rfl⟩)
  exact FailsOnly.bind (text_failsOnly legible isText) fun _ _ => FailsOnly.pure _

theorem Service.load_failsOnly {service : Descriptor.Service} (legible : Legible service.texts) :
    FailsOnly allowed (Service.load service) := by
  refine FailsOnly.bind (text_failsOnly legible List.mem_cons_self) fun _ _ => ?_
  refine FailsOnly.bind (FailsOnly.mapM fun method member => ?_) fun _ _ => FailsOnly.pure _
  have ofMethod : method.texts ⊆ service.texts := fun bytes isText =>
    List.mem_cons_of_mem _ (List.mem_flatMap.mpr ⟨method, member, isText⟩)
  have legibleMethod := legible.mono ofMethod
  refine FailsOnly.bind (text_failsOnly legibleMethod (by simp [Descriptor.Method.texts])) fun _ _ => ?_
  refine FailsOnly.bind (text_failsOnly legibleMethod (by simp [Descriptor.Method.texts])) fun _ _ => ?_
  refine FailsOnly.bind (text_failsOnly legibleMethod (by simp [Descriptor.Method.texts])) fun _ _ => ?_
  exact FailsOnly.pure _

/-- At every place of some messages, the entries that fields refer to have allowed faults only. -/
def EntriesFailOnly (allowed : Error → Prop) (scope : String) (sources : List Descriptor.Message) : Prop :=
  ∀ place source around, trail? Descriptor.Message.nested sources place = some (source :: around) →
    ∀ field ∈ source.fields, ∀ entry,
      IsEntryFor (nameAt scope (source :: around)) source.nested (textOf field.typeName) entry →
        FailsOnly allowed (entryParts (textOf field.typeName) entry)

/-- A legible message at a place fails to load only by the faults of entries there and further inside. -/
theorem Message.load_failsOnly {scope : String} {sources : List Descriptor.Message}
    (faults : EntriesFailOnly allowed scope sources) (message : Descriptor.Message) :
    ∀ {place around dialect outer},
      trail? Descriptor.Message.nested sources place = some (message :: around) → Legible message.texts →
      FailsOnly allowed (Message.load dialect outer (nameAt scope around) message) := by
  induction message using Descriptor.Message.nested_induction with
  | step message ofNested =>
    intro place around dialect outer found legible
    have ownFaults := faults place message around found
    rw [Descriptor.Message.texts_eq] at legible
    have legibleFields : Legible (message.fields.flatMap Descriptor.Field.texts) :=
      legible.mono fun bytes member => by simp [member]
    have legibleOneofs : Legible message.oneofs := legible.mono fun bytes member => by simp [member]
    have legibleEnums : Legible (message.enums.flatMap Descriptor.Enum.texts) :=
      legible.mono fun bytes member => by simp [member]
    have legibleNested : Legible (Descriptor.Message.allTexts message.nested) :=
      legible.mono fun bytes member => by simp [member]
    have named : FailsOnly allowed (text message.name) := text_failsOnly legible List.mem_cons_self
    obtain ⟨name, fields, nested, enums, oneofs, mapEntry, features⟩ := message
    rw [Message.load]
    refine FailsOnly.bind named fun own isOwn => ?_
    obtain rfl := text_eq_ok isOwn
    refine FailsOnly.bind (entriesOf_failsOnly _ legibleNested) fun entries areEntries => ?_
    refine FailsOnly.bind (FailsOnly.mapM fun field isField =>
      loadMember_failsOnly areEntries legibleNested (legible_of_flatMap legibleFields field isField)
        (ownFaults field isField) dialect _) fun _ _ => ?_
    refine FailsOnly.bind (loadOneofs_failsOnly legibleOneofs _) fun _ _ => ?_
    refine FailsOnly.bind ?_ fun _ _ => FailsOnly.bind (FailsOnly.mapM fun enum isEnum =>
      Enum.load_failsOnly (legible_of_flatMap legibleEnums enum isEnum)) fun _ _ => FailsOnly.pure _
    rw [Message.loadAll_eq_mapM]
    refine FailsOnly.mapM fun inner isInner => ?_
    -- A nested message stands at a place further inside, and the induction is for all places.
    obtain ⟨position, isAt⟩ := List.mem_iff_getElem?.mp isInner
    exact ofNested inner isInner (trail?_cons.mpr ⟨inner, _, found, isAt, rfl⟩)
      (legibleNested.mono (Descriptor.Message.texts_subset isInner))

/-- Legible messages fail to load only by the faults of their entries. -/
theorem Message.loadAll_failsOnly {scope : String} {sources : List Descriptor.Message}
    (faults : EntriesFailOnly allowed scope sources)
    (legible : Legible (Descriptor.Message.allTexts sources)) (dialect : Dialect) (outer : Features) :
    FailsOnly allowed (Message.loadAll dialect outer scope sources) := by
  rw [Message.loadAll_eq_mapM]
  refine FailsOnly.mapM fun message member => ?_
  obtain ⟨position, isAt⟩ := List.mem_iff_getElem?.mp member
  have found : trail? Descriptor.Message.nested sources [position] = some [message] :=
    trail?_cons.mpr ⟨message, [], rfl, isAt, rfl⟩
  exact Message.load_failsOnly faults message found
    (legible.mono (Descriptor.Message.texts_subset member))

end Failures

/-- A legible file that cannot be loaded is to blame on its schema. -/
theorem File.load_reported {file : Descriptor.File} (legible : Legible file.texts) :
    FailsOnly Reported (File.load file) := by
  have part : ∀ {texts : List Wire.Bytes}, texts ⊆ file.texts → Legible texts := legible.mono
  refine FailsOnly.bind (text_failsOnly legible (by simp [Descriptor.File.texts])) fun _ _ => ?_
  refine FailsOnly.bind (text_failsOnly legible (by simp [Descriptor.File.texts])) fun _ _ => ?_
  refine FailsOnly.bind (text_failsOnly legible (by simp [Descriptor.File.texts])) fun _ _ => ?_
  refine FailsOnly.bind (FailsOnly.mapM fun bytes member =>
    text_failsOnly legible (by simp [Descriptor.File.texts, member])) fun _ _ => ?_
  refine FailsOnly.bind (FailsOnly.mapM fun enum member => Enum.load_failsOnly (legible_of_flatMap
    (part fun bytes isText => by simp [Descriptor.File.texts, isText]) enum member)) fun _ _ => ?_
  refine FailsOnly.bind ?_ fun _ _ => FailsOnly.bind (FailsOnly.mapM fun service member =>
    Service.load_failsOnly (legible_of_flatMap
      (part fun bytes isText => by simp [Descriptor.File.texts, isText]) service member)) fun _ _ =>
        FailsOnly.pure _
  refine Message.loadAll_failsOnly ?_ (part fun bytes isText => by simp [Descriptor.File.texts, isText]) _ _
  intro place source around _ field _ entry _ failure failed
  simp [Reported, Error.isReportable, entryParts_category failure failed]

/-- The bytes of a request all of whose texts can be read. -/
def LegibleRequest (bytes : Wire.Bytes) : Prop :=
  ∀ request, Descriptor.decode .request Descriptor.Request.read .undecodableRequest bytes = .ok request →
    Legible request.texts

instance (bytes : Wire.Bytes) : Decidable (LegibleRequest bytes) :=
  match isDecoded : Descriptor.decode .request Descriptor.Request.read .undecodableRequest bytes with
  | .ok request => decidable_of_iff (Legible request.texts)
      ⟨fun legible _ found => Except.ok.inj (isDecoded.symm.trans found) ▸ legible,
        fun legible => legible request isDecoded⟩
  | .error _ => isTrue fun _ found => absurd (isDecoded.symm.trans found) nofun

/-- A legible request that cannot be decoded is to blame on its schema. -/
theorem Request.decode_reported {bytes : Wire.Bytes} (legible : LegibleRequest bytes) :
    FailsOnly Reported (Request.decode bytes) := by
  refine FailsOnly.bind ?_ fun request isRequest => ?_
  · intro failure failed
    -- Bytes of another shape and bytes without the fields of a request fail alike.
    have unreadable : failure = .undecodableRequest := by
      rw [Descriptor.decode] at failed
      split at failed
      · cases read : (Wire.fields bytes).bind Descriptor.Request.read with
        | none =>
          rw [read] at failed
          exact (Except.error.inj failed).symm
        | some request =>
          rw [read] at failed
          cases failed
      · exact (Except.error.inj failed).symm
    rw [unreadable]
    rfl
  · have isLegible := legible request isRequest
    refine FailsOnly.bind (FailsOnly.bind
      (text_failsOnly isLegible (by simp [Descriptor.Request.texts])) fun _ _ => FailsOnly.pure _) fun _ _ => ?_
    refine FailsOnly.bind (FailsOnly.mapM fun file member => File.load_reported ?_) fun _ _ => ?_
    · refine isLegible.mono fun bytes isText => ?_
      exact List.mem_append_right _ (List.mem_flatMap.mpr ⟨file, member, isText⟩)
    · refine FailsOnly.bind (text_failsOnly isLegible (by simp [Descriptor.Request.texts])) fun _ _ => ?_
      refine FailsOnly.bind (FailsOnly.mapM fun bytes member =>
        text_failsOnly isLegible (by simp [Descriptor.Request.texts, member])) fun _ _ => FailsOnly.pure _

end Schema

end Typewire
