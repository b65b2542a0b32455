import Typewire.Proofs.Legibility
import Typewire.Wire.Encode

/-!
# Features are inherited from the innermost scope

In editions two features decide how a field is presented: whether it can be told that it was set, and how a
repeated scalar is written. Each may be written at the field, at the messages around it and at the file, and
each by itself comes from the innermost of these places that writes it.

## Main result

`features_inherited_from_innermost`: in a file in editions, every field at every depth follows the features
so inherited, and the parts of a map follow those of the message that holds the map, not those of the entry
message. In a file in any other dialect, features make no difference: files that are the same without their
features are loaded alike.

## Proof strategy

The features that loading hands down to a place are those inside the messages on the way to it. Looking for
the first scope that writes a feature goes through the same messages from the inside, so both give one value.
For the other dialects, each step of loading gives the same outcome for a descriptor and for the descriptor
with all features left out.
-/
namespace Typewire

namespace Schema

open Descriptor (Features)

/-! ### The feature in force -/

/-- The value of a feature within some scopes, given what each of them writes, the innermost first. -/
def effective {α : Type} (feature : Features → Option α) (preset : α) (scopes : List Features) : α :=
  (scopes.findSome? feature).getD preset

/-- The scopes around the fields of a message, the innermost first: the message itself, the messages
around it and the file. -/
def scopesOf (file : Descriptor.File) (trail : List Descriptor.Message) : List Features :=
  trail.map (·.features) ++ [file.features]

section Inheritance

variable {α : Type} (feature : Features → Option α)

/-- A feature comes from the innermost message that sets it, and else from outside. -/
theorem feature_featuresAt
    (inherits : ∀ own outer, feature (own.within outer) = (feature own).or (feature outer))
    (outer : Features) (trail : List Descriptor.Message) :
    feature (featuresAt outer trail) =
      ((trail.map (·.features)).findSome? feature).or (feature outer) := by
  induction trail with
  | nil => rfl
  | cons message around ih =>
    have step : featuresAt outer (message :: around) = message.features.within (featuresAt outer around) :=
      rfl
    -- The innermost message is asked first on both sides.
    rw [step, inherits, ih, List.map_cons, List.findSome?_cons]
    cases feature message.features with
    | none => rfl
    | some value => rfl

/-- At a field, a feature has the value in force within the scopes around it. -/
theorem feature_at_field
    (inherits : ∀ own outer, feature (own.within outer) = (feature own).or (feature outer))
    {preset : α} (isPreset : feature Features.defaults = some preset) (own : Features)
    (file : Descriptor.File) (trail : List Descriptor.Message) :
    feature (own.within (featuresAt (file.features.within Features.defaults) trail)) =
      some (effective feature preset (own :: scopesOf file trail)) := by
  rw [inherits, feature_featuresAt feature inherits, inherits, isPreset, effective, scopesOf,
    List.findSome?_cons, List.findSome?_append, List.findSome?_singleton]
  cases feature own with
  | some value => rfl
  | none =>
    cases (trail.map (·.features)).findSome? feature with
    | some value => rfl
    | none =>
      cases feature file.features with
      | some value => rfl
      | none => rfl

end Inheritance

/-! ### Fields in editions -/

/-- A field is presented as the features in force at it require. The scopes are those around it. -/
structure Field.Follows (scopes : List Features) (source : Descriptor.Field) (field : Field) : Prop where
  presence : field.explicitPresence = true ↔
    source.label ≠ .repeated ∧ (source.isOptional = true ∨
      effective Features.presence .explicit (source.features :: scopes) ≠ .implicit)
  encoding : field.packed = true ↔
    source.label = .repeated ∧ source.kind.isPackable = true ∧
      effective Features.encoding .packed (source.features :: scopes) = .packed

/-- A field of a message follows the features in force, and so do the parts of the map that it may be.
These are fields of another message, but it is the scopes around the map that count. -/
structure Field.FollowsWithParts (scopes : List Features) (full : String)
    (nested : List Descriptor.Message) (source : Descriptor.Field) (field : Field) : Prop where
  own : Follows scopes source field
  parts : ∀ entry key value, IsEntryFor full nested (textOf source.typeName) entry →
    HasParts entry key value → ∃ mapKey mapValue, field.mapKey = some mapKey ∧
      field.mapValue = some mapValue ∧ Follows scopes key mapKey ∧ Follows scopes value mapValue

section Editions

variable {file : Descriptor.File} {trail : List Descriptor.Message}

/-- A field of the editions dialect follows the scopes around it. -/
theorem Field.load_follows {source : Descriptor.Field} {field : Field}
    (loaded : Field.load .editions (featuresAt (file.features.within Features.defaults) trail) source =
      .ok field) :
    field.Follows (scopesOf file trail) source := by
  obtain rfl := Field.load_eq_ok loaded
  have presence := feature_at_field Features.presence (fun _ _ => rfl) rfl source.features file trail
  have encoding := feature_at_field Features.encoding (fun _ _ => rfl) rfl source.features file trail
  constructor
  · simp [described, tracksPresence, presence, and_comm]
  · simp [described, isPacked, encoding, and_assoc]

theorem IsMember.followsWithParts {full : String} {nested : List Descriptor.Message}
    {source : Descriptor.Field} {field : Field}
    (isMember : IsMember .editions (featuresAt (file.features.within Features.defaults) trail) full nested
      source field) :
    field.FollowsWithParts (scopesOf file trail) full nested source := by
  cases isMember with
  | single noEntry loaded =>
    exact ⟨Field.load_follows loaded, fun entry _ _ isEntry => (noEntry entry isEntry).elim⟩
  | @map entry key value alone mapKey mapValue isEntry parts loaded keyLoaded valueLoaded whole =>
    subst whole
    -- Its parts leave the field as it is, and they were loaded under the same features.
    have own := Field.load_follows loaded
    refine ⟨⟨own.presence, own.encoding⟩, fun other otherKey otherValue isOther otherParts => ?_⟩
    obtain rfl := isEntry.unique isOther
    obtain ⟨rfl, rfl⟩ := parts.unique otherParts
    exact ⟨mapKey, mapValue, rfl, rfl, Field.load_follows keyLoaded, Field.load_follows valueLoaded⟩

theorem File.load_follows {result : File} (inEditions : text file.dialect = .ok "editions")
    (loaded : File.load file = .ok result) {place : List Nat} {source : Descriptor.Message}
    {around : List Descriptor.Message}
    (found : trail? Descriptor.Message.nested file.messages place = some (source :: around)) :
    ∃ message outside, trail? Message.nestedMessages result.messages place = some (message :: outside) ∧
      List.Forall₂ (fun field member => Field.FollowsWithParts (scopesOf file (source :: around))
        (nameAt result.scope (source :: around)) source.nested field member)
        source.fields message.fields := by
  obtain ⟨dialect, isDialect, messagesLoaded⟩ := File.load_messages loaded
  have sameDialect : dialect = "editions" := Except.ok.inj (isDialect.symm.trans inEditions)
  have isEditions : Dialect.ofName (if dialect = "" then "proto2" else dialect) = .editions := by
    simp [sameDialect, Dialect.ofName]
  rw [isEditions] at messagesLoaded
  obtain ⟨message, outside, isAt, fromSource⟩ := Message.load_at messagesLoaded found
  have members : List.Forall₂ (IsMember .editions
      (featuresAt (file.features.within Features.defaults) (source :: around))
      (nameAt result.scope (source :: around)) source.nested) source.fields message.fields :=
    fromSource.members
  exact ⟨message, outside, isAt, members.imp fun field member isMember => isMember.followsWithParts⟩

end Editions

end Schema

/-! ### Descriptors without features -/

namespace Descriptor

def Field.withoutFeatures (field : Field) : Field :=
  { field with features := {} }

mutual

def Message.withoutFeatures : Message → Message
  | ⟨name, fields, nested, enums, oneofs, mapEntry, _⟩ =>
    ⟨name, fields.map Field.withoutFeatures, Message.allWithoutFeatures nested, enums, oneofs, mapEntry, {}⟩

def Message.allWithoutFeatures : List Message → List Message
  | [] => []
  | message :: messages => message.withoutFeatures :: Message.allWithoutFeatures messages

end

def File.withoutFeatures (file : File) : File :=
  { file with messages := Message.allWithoutFeatures file.messages, features := {} }

theorem Message.allWithoutFeatures_eq_map (messages : List Message) :
    Message.allWithoutFeatures messages = messages.map Message.withoutFeatures := by
  induction messages with
  | nil => rfl
  | cons message messages ih => rw [allWithoutFeatures, ih, List.map_cons]

@[simp]
theorem Message.withoutFeatures_name (message : Message) : message.withoutFeatures.name = message.name := by
  cases message
  rfl

@[simp]
theorem Message.withoutFeatures_mapEntry (message : Message) :
    message.withoutFeatures.mapEntry = message.mapEntry := by
  cases message
  rfl

@[simp]
theorem Message.withoutFeatures_fields (message : Message) :
    message.withoutFeatures.fields = message.fields.map Field.withoutFeatures := by
  cases message
  rfl

end Descriptor

namespace Schema

open Descriptor (Features)

/-! ### Loading what was edited -/

section Edits

variable {onField : Descriptor.Field → Descriptor.Field} {onMessage : Descriptor.Message → Descriptor.Message}

/-- An edit of fields that keeps their numbers keeps the parts of an entry. -/
theorem entryParts_edited (sameNumber : ∀ field, (onField field).number = field.number)
    {entry edited : Descriptor.Message} (areEdited : edited.fields = entry.fields.map onField)
    (typeName : String) :
    entryParts typeName edited = (entryParts typeName entry).map fun parts =>
      (onField parts.1, onField parts.2) := by
  rw [entryParts, entryParts, areEdited]
  rcases entry.fields with _ | ⟨one, _ | ⟨two, _ | ⟨three, others⟩⟩⟩
  · rfl
  · rfl
  · -- Numbers decide which field is the key and whether both are as they should be.
    simp only [List.map_cons, List.map_nil, sameNumber]
    by_cases ordered : one.number ≤ two.number
    · simp only [if_pos ordered, sameNumber]
      split <;> rfl
    · simp only [if_neg ordered, sameNumber]
      split <;> rfl
  · rfl

/-- An edit of messages that keeps names and marks keeps the entries among them. -/
theorem entriesOf_edited (sameName : ∀ message, (onMessage message).name = message.name)
    (sameEntry : ∀ message, (onMessage message).mapEntry = message.mapEntry) (scope : String)
    (nested : List Descriptor.Message) :
    entriesOf scope (nested.map onMessage) = (entriesOf scope nested).map fun entries =>
      entries.map fun entry => (entry.1, onMessage entry.2) := by
  have sameEntries : (nested.map onMessage).filter (·.mapEntry) =
      (nested.filter (·.mapEntry)).map onMessage := by
    simp [List.filter_map, Function.comp_def, sameEntry]
  rw [entriesOf, entriesOf, sameEntries]
  refine except_mapM_map (fun entry => ?_) _
  rw [sameName]
  cases text entry.name with
  | error failure => rfl
  | ok name => rfl

theorem findRev?_edited (entries : List (String × Descriptor.Message)) (typeName : String) :
    (entries.map fun entry => (entry.1, onMessage entry.2)).findRev? (fun entry => entry.1 = typeName) =
      (entries.findRev? fun entry => entry.1 = typeName).map fun entry => (entry.1, onMessage entry.2) := by
  rw [List.findRev?_eq_find?_reverse, List.findRev?_eq_find?_reverse, ← List.map_reverse, List.find?_map]
  rfl

theorem loadOneofs_edited (sameIndex : ∀ field, (onField field).oneofIndex = field.oneofIndex)
    (sameMark : ∀ field, (onField field).isOptional = field.isOptional) (names : List Wire.Bytes)
    (fields : List Descriptor.Field) : loadOneofs names (fields.map onField) = loadOneofs names fields := by
  rw [loadOneofs, loadOneofs]
  refine congrArg (List.mapM · _) (funext fun entry => ?_)
  simp only [List.filter_map, List.all_map, List.isEmpty_map, Function.comp_def, sameIndex, sameMark]

end Edits

/-! ### The other dialects -/

section OtherDialects

variable {dialect : Dialect} (notEditions : dialect ≠ .editions) (first second : Features)

include notEditions

/-- Outside the editions dialect the features around a field make no difference. -/
theorem Field.load_withoutFeatures (field : Descriptor.Field) :
    Field.load dialect first field.withoutFeatures = Field.load dialect second field := by
  have samePresence : ∀ features others : Features,
      tracksPresence dialect features field.withoutFeatures = tracksPresence dialect others field := by
    intro features others
    cases dialect with
    | editions => exact absurd rfl notEditions
    | proto2 => rfl
    | other => rfl
  have sameEncoding : ∀ features others : Features,
      isPacked dialect features field.withoutFeatures = isPacked dialect others field := by
    intro features others
    cases dialect with
    | editions => exact absurd rfl notEditions
    | proto2 => rfl
    | other => rfl
  rw [Field.load, Field.load]
  simp only [samePresence _ (field.features.within second), sameEncoding _ (field.features.within second)]
  rfl

theorem loadMember_withoutFeatures (entries : List (String × Descriptor.Message))
    (field : Descriptor.Field) :
    loadMember dialect first (entries.map fun entry => (entry.1, entry.2.withoutFeatures))
      field.withoutFeatures = loadMember dialect second entries field := by
  -- Entries are found by their names, which stay; only the parts of the entry found are other fields.
  rw [loadMember, loadMember, Field.load_withoutFeatures notEditions first second]
  refine bind_congr fun alone => ?_
  dsimp only
  rw [findRev?_edited]
  cases entries.findRev? fun entry => entry.1 = alone.typeName.getD "" with
  | none => rfl
  | some found =>
    have sameNumber : ∀ field : Descriptor.Field, field.withoutFeatures.number = field.number := fun _ => rfl
    simp only [Option.map_some,
      entryParts_edited sameNumber (Descriptor.Message.withoutFeatures_fields found.2)]
    cases entryParts (alone.typeName.getD "") found.2 with
    | error failure => rfl
    | ok parts =>
      have sameKey := Field.load_withoutFeatures notEditions first second parts.1
      have sameValue := Field.load_withoutFeatures notEditions first second parts.2
      simp only [Except.map, bind, Except.bind, sameKey, sameValue]

/-- Apart from editions, a message is loaded as it would be without any features, whatever features hold
around it. -/
theorem Message.load_withoutFeatures (message : Descriptor.Message) :
    ∀ first second scope,
      Message.load dialect first scope message.withoutFeatures =
        Message.load dialect second scope message := by
  induction message using Descriptor.Message.nested_induction with
  | step message ofNested =>
    -- The features handed inwards differ on the two sides, so the induction is for any two.
    intro first second scope
    obtain ⟨name, fields, nested, enums, oneofs, mapEntry, features⟩ := message
    rw [Descriptor.Message.withoutFeatures, Message.load, Message.load,
      Descriptor.Message.allWithoutFeatures_eq_map]
    refine bind_congr fun own => ?_
    dsimp only
    rw [entriesOf_edited Descriptor.Message.withoutFeatures_name Descriptor.Message.withoutFeatures_mapEntry]
    cases entriesOf (fullName scope own) nested with
    | error failure => rfl
    | ok entries =>
      have sameFields : ∀ field ∈ fields, loadMember dialect (({} : Features).within first)
          (entries.map fun entry => (entry.1, entry.2.withoutFeatures)) field.withoutFeatures =
            loadMember dialect (features.within second) entries field :=
        fun field _ => loadMember_withoutFeatures notEditions _ _ entries field
      have sameNested : ∀ inner ∈ nested,
          Message.load dialect (({} : Features).within first) (fullName scope own) inner.withoutFeatures =
            Message.load dialect (features.within second) (fullName scope own) inner :=
        fun inner isInner => ofNested inner isInner _ _ _
      have sameOneofs : loadOneofs oneofs (fields.map Descriptor.Field.withoutFeatures) =
          loadOneofs oneofs fields :=
        @loadOneofs_edited Descriptor.Field.withoutFeatures (fun _ => rfl) (fun _ => rfl) oneofs fields
      simp only [Except.map, bind, Except.bind, Message.loadAll_eq_mapM, List.mapM_map, Function.comp_def,
        except_mapM_congr sameFields, except_mapM_congr sameNested, sameOneofs]

end OtherDialects

/-- Outside the editions dialect a file is loaded the same without any features. -/
theorem File.load_withoutFeatures {file : Descriptor.File}
    (notEditions : text file.dialect ≠ .ok "editions") :
    File.load file.withoutFeatures = File.load file := by
  rw [File.load, File.load, Descriptor.File.withoutFeatures]
  refine except_bind_congr fun dialect isDialect => ?_
  have notNamed : dialect ≠ "editions" := fun named => notEditions (named ▸ isDialect)
  -- A file that names no dialect is of the oldest one.
  have other : Dialect.ofName (if dialect = "" then "proto2" else dialect) ≠ .editions := by
    by_cases unnamed : dialect = ""
    · simp [unnamed, Dialect.ofName]
    · by_cases older : dialect = "proto2" <;> simp [unnamed, older, notNamed, Dialect.ofName]
  have sameMessages : ∀ scope,
      Message.loadAll (Dialect.ofName (if dialect = "" then "proto2" else dialect))
        (({} : Features).within Features.defaults) scope
        (Descriptor.Message.allWithoutFeatures file.messages) =
      Message.loadAll (Dialect.ofName (if dialect = "" then "proto2" else dialect))
        (file.features.within Features.defaults) scope file.messages := by
    intro scope
    rw [Message.loadAll_eq_mapM, Message.loadAll_eq_mapM, Descriptor.Message.allWithoutFeatures_eq_map,
      List.mapM_map]
    exact except_mapM_congr fun message _ => Message.load_withoutFeatures other message _ _ _
  simp only [sameMessages]

/-- Each feature comes from the innermost scope that writes it, in editions; in the other dialects no feature
changes anything. -/
theorem features_inherited_from_innermost (descriptor : Descriptor.File) :
    (text descriptor.dialect = .ok "editions" → ∀ file, File.load descriptor = .ok file →
      ∀ place source around,
        trail? Descriptor.Message.nested descriptor.messages place = some (source :: around) →
          ∃ message outside, trail? Message.nestedMessages file.messages place = some (message :: outside) ∧
            List.Forall₂ (fun field member => Field.FollowsWithParts (scopesOf descriptor (source :: around))
              (nameAt file.scope (source :: around)) source.nested field member)
              source.fields message.fields) ∧
    (text descriptor.dialect ≠ .ok "editions" → ∀ other : Descriptor.File,
      other.withoutFeatures = descriptor.withoutFeatures → File.load other = File.load descriptor) := by
  constructor
  · intro inEditions file loaded place source around found
    exact File.load_follows inEditions loaded found
  · intro notEditions other same
    have sameDialect : other.dialect = descriptor.dialect := by
      change other.withoutFeatures.dialect = descriptor.withoutFeatures.dialect
      rw [same]
    have otherNotEditions : text other.dialect ≠ .ok "editions" := sameDialect ▸ notEditions
    rw [← File.load_withoutFeatures notEditions, ← same, File.load_withoutFeatures otherNotEditions]

/-- A nested message whose fields write one feature each, or none. Its map has parts that inherit past the
features of their entry. -/
def berth : Descriptor.Message :=
  { name := Wire.encodeText "Berth"
    fields :=
      [{ name := Wire.encodeText "depth", number := 1, kind := .uint32 },
       { name := Wire.encodeText "fees", number := 2, label := .repeated, kind := .uint32
         features := { presence := some .explicit } },
       { name := Wire.encodeText "master", number := 3, kind := .string
         features := { encoding := some .packed } },
       { name := Wire.encodeText "cargo", number := 4, label := .repeated, kind := .message
         typeName := Wire.encodeText ".port.Pier.Berth.CargoEntry" }]
    nested :=
      [{ name := Wire.encodeText "CargoEntry"
         mapEntry := true
         features := { presence := some .explicit }
         fields :=
           [{ name := Wire.encodeText "key", number := 1, kind := .string },
            { name := Wire.encodeText "value", number := 2, kind := .uint32 }] }] }

/-- A message around the berth, with the given features. -/
def pier (features : Features) : Descriptor.Message :=
  { name := Wire.encodeText "Pier", features, nested := [berth] }

def port (dialect : String) (features : Features) : Descriptor.File :=
  { name := Wire.encodeText "port.proto"
    package := Wire.encodeText "port"
    dialect := Wire.encodeText dialect
    features := { presence := some .implicit }
    messages := [pier features] }

theorem features_inherited_in_port :
    text (port "editions" { encoding := some .expanded }).dialect = .ok "editions" ∧
    text (port "proto3" { encoding := some .expanded }).dialect ≠ .ok "editions" ∧
    (∃ file, File.load (port "editions" { encoding := some .expanded }) = .ok file ∧
      ∃ message outside, trail? Message.nestedMessages file.messages [0, 0] = some (message :: outside) ∧
        List.Forall₂ (fun field member => Field.FollowsWithParts
          (scopesOf (port "editions" { encoding := some .expanded })
            [berth, pier { encoding := some .expanded }])
          (nameAt file.scope [berth, pier { encoding := some .expanded }]) berth.nested field member)
          berth.fields message.fields) ∧
    File.load (port "proto3" {}) = File.load (port "proto3" { encoding := some .expanded }) := by
  have inEditions : text (port "editions" { encoding := some .expanded }).dialect = .ok "editions" := by
    rfl
  have notEditions : text (port "proto3" { encoding := some .expanded }).dialect ≠ .ok "editions" := by
    decide +kernel
  obtain ⟨file, loaded⟩ := exists_ok_of_isOk
    (by decide +kernel : (File.load (port "editions" { encoding := some .expanded })).isOk = true)
  refine ⟨inEditions, notEditions, ⟨file, loaded, ?_⟩, ?_⟩
  · exact (features_inherited_from_innermost _).1 inEditions file loaded [0, 0] berth [pier _] rfl
  · exact (features_inherited_from_innermost _).2 notEditions (port "proto3" {}) rfl

end Schema

end Typewire
