import Typewire.Proofs.Legibility
import Typewire.Wire.Encode

/-!
# Map entries are recognised and checked

A field whose type is an entry message nested right beside it becomes a map field. The entry must then have
exactly a key numbered one and a value numbered two; an entry that no field beside it refers to is not looked
at.

## Main result

`load_checks_map_entries`: a legible message is refused if and only if a field somewhere in
its tree refers to an entry that is not made so. Otherwise it is loaded place by place: every message stands
where it stood, with its fields, nested messages and enumerations in order, and exactly the fields that
refer to an entry are maps, with the loaded key and the loaded value of that entry.

## Proof strategy

A legible tree fails to load only by the faults of entries that are referred to, so without such a fault it is
loaded. Where there is such a fault, the tree cannot have been loaded: at its place the entry would have
had its parts.
-/
namespace Typewire.Schema

open Descriptor (Features Legible)

/-- Somewhere in the tree of a message, a field refers to an entry message beside it that does not consist of
a key numbered one and a value numbered two. -/
def HasMalformedEntry (scope : String) (root : Descriptor.Message) : Prop :=
  ∃ place source around, trail? Descriptor.Message.nested [root] place = some (source :: around) ∧
    ∃ field ∈ source.fields, ∃ entry,
      IsEntryFor (nameAt scope (source :: around)) source.nested (textOf field.typeName) entry ∧
        ∀ key value, ¬ HasParts entry key value

/-- An enumeration as its descriptor describes it: its name and its constants in order. -/
def Enum.described (enum : Descriptor.Enum) : Enum :=
  { name := textOf enum.name
    values := enum.values.map fun value => { name := textOf value.name, number := value.number } }

/-- A message was loaded with all its parts in order, under the given features and full name. -/
structure Message.StandsFor (dialect : Dialect) (features : Features) (full : String)
    (source : Descriptor.Message) (message : Message) : Prop where
  name : message.name = textOf source.name
  fields : List.Forall₂ (IsMember dialect features full source.nested) source.fields message.fields
  nested : message.nestedMessages.map (·.name) = source.nested.map fun inner => textOf inner.name
  enums : message.nestedEnums = source.enums.map Enum.described
  mapEntry : message.mapEntry = source.mapEntry

theorem Enum.load_eq_ok {source : Descriptor.Enum} {enum : Enum} (loaded : Enum.load source = .ok enum) :
    enum = described source := by
  obtain ⟨name, isName, afterName⟩ := except_bind_eq_ok loaded
  obtain ⟨values, areValues, last⟩ := except_bind_eq_ok afterName
  rw [except_mapM_eq_ok_iff] at areValues
  have constants : values = source.values.map fun value =>
      { name := textOf value.name, number := value.number } := by
    refine eq_map_of_forall₂ areValues fun value constant isLoaded => ?_
    obtain ⟨own, isOwn, made⟩ := except_bind_eq_ok isLoaded
    rw [← Except.ok.inj made, text_eq_ok isOwn]
  rw [← Except.ok.inj last, text_eq_ok isName, constants, described]

/-- A message that was loaded part by part has all its parts in order. -/
theorem Message.LoadedFrom.standsFor {dialect : Dialect} {outer : Features} {scope : String}
    {source : Descriptor.Message} {message : Message}
    (loaded : Message.LoadedFrom dialect outer scope source message) :
    Message.StandsFor dialect (source.features.within outer) (fullName scope (textOf source.name))
      source message := by
  have nested := loaded.nested
  rw [loadAll_eq_mapM, except_mapM_eq_ok_iff] at nested
  have enums := eq_map_of_forall₂ loaded.enums fun _ _ => Enum.load_eq_ok
  refine ⟨text_eq_ok loaded.name, loaded.members, ?_, enums, loaded.mapEntry⟩
  refine (map_eq_map_of_forall₂ (List.forall₂_same.mpr fun _ _ => rfl) nested ?_).symm
  rintro inner _ result rfl isLoaded
  exact (text_eq_ok (Message.load_eq_ok isLoaded).name).symm

/-- At each place stands what was loaded from there. -/
theorem Message.standsFor_at {dialect : Dialect} {outer : Features} {scope : String}
    {root : Descriptor.Message} {result : Message}
    (loaded : Message.load dialect outer scope root = .ok result) {place : List Nat}
    {source : Descriptor.Message} {around : List Descriptor.Message}
    (found : trail? Descriptor.Message.nested [root] place = some (source :: around)) :
    ∃ message outside, trail? Message.nestedMessages [result] place = some (message :: outside) ∧
      Message.StandsFor dialect (featuresAt outer (source :: around)) (nameAt scope (source :: around))
        source message := by
  have alone : Message.loadAll dialect outer scope [root] = .ok [result] := by
    rw [loadAll_eq_mapM, except_mapM_eq_ok_iff]
    exact .cons loaded .nil
  obtain ⟨message, outside, isAt, isLoaded⟩ := Message.load_at alone found
  exact ⟨message, outside, isAt, isLoaded.standsFor⟩

/-- A message that was loaded has no malformed entry that is referred to. -/
theorem not_hasMalformedEntry_of_load {dialect : Dialect} {outer : Features} {scope : String}
    {root : Descriptor.Message} {result : Message}
    (loaded : Message.load dialect outer scope root = .ok result) : ¬ HasMalformedEntry scope root := by
  rintro ⟨place, source, around, found, field, isField, entry, isEntry, malformed⟩
  obtain ⟨message, outside, _, standsFor⟩ := Message.standsFor_at loaded found
  obtain ⟨member, _, isMember⟩ := exists_right_of_forall₂ standsFor.fields isField
  cases isMember with
  | single noEntry => exact noEntry entry isEntry
  | map isOther parts =>
    obtain rfl := isEntry.unique isOther
    exact malformed _ _ parts

/-- A legible message without malformed entries that are referred to is loaded. -/
theorem exists_load_of_not_hasMalformedEntry {root : Descriptor.Message} (legible : Legible root.texts)
    {scope : String} (sound : ¬ HasMalformedEntry scope root) (dialect : Dialect) (outer : Features) :
    ∃ result, Message.load dialect outer scope root = .ok result := by
  -- Nothing is left that loading could fail with.
  have faults : EntriesFailOnly (fun _ => False) scope [root] := by
    intro place source around found field isField entry isEntry error failed
    refine sound ⟨place, source, around, found, field, isField, entry, isEntry, fun key value parts => ?_⟩
    rw [entryParts_eq_ok.mpr parts] at failed
    cases failed
  have atTop : trail? Descriptor.Message.nested [root] [0] = some [root] := rfl
  exact (Message.load_failsOnly faults root atTop legible).exists_ok

/-- Whatever a legible message is refused for is blamed on the schema. -/
theorem load_category_of_legible {root : Descriptor.Message} (legible : Legible root.texts)
    (dialect : Dialect) (outer : Features) (scope : String) :
    FailsOnly (fun error => error.category = .schema) (Message.load dialect outer scope root) := by
  have faults : EntriesFailOnly (fun error => error.category = .schema) scope [root] :=
    fun _ _ _ _ _ _ _ _ => entryParts_category
  have atTop : trail? Descriptor.Message.nested [root] [0] = some [root] := rfl
  exact Message.load_failsOnly faults root atTop legible

/-- Map entries are checked exactly where a field beside them refers to them, and the fields that refer to
one become maps. -/
theorem load_checks_map_entries {root : Descriptor.Message} (legible : Legible root.texts)
    (dialect : Dialect) (outer : Features) (scope : String) :
    ((∃ error, Message.load dialect outer scope root = .error error ∧ error.category = .schema) ↔
      HasMalformedEntry scope root) ∧
    (¬ HasMalformedEntry scope root →
      ∃ result, Message.load dialect outer scope root = .ok result ∧
        ∀ place source around, trail? Descriptor.Message.nested [root] place = some (source :: around) →
          ∃ message outside, trail? Message.nestedMessages [result] place = some (message :: outside) ∧
            Message.StandsFor dialect (featuresAt outer (source :: around))
              (nameAt scope (source :: around)) source message) := by
  -- Without a malformed entry a legible message loads, and with one it does not.
  refine ⟨⟨?_, fun malformed => ?_⟩, fun sound => ?_⟩
  · rintro ⟨error, failed, _⟩
    by_contra sound
    obtain ⟨result, loaded⟩ := exists_load_of_not_hasMalformedEntry legible sound dialect outer
    rw [loaded] at failed
    cases failed
  · cases outcome : Message.load dialect outer scope root with
    | ok result => exact (not_hasMalformedEntry_of_load outcome malformed).elim
    | error error => exact ⟨error, rfl, load_category_of_legible legible dialect outer scope error outcome⟩
  · obtain ⟨result, loaded⟩ := exists_load_of_not_hasMalformedEntry legible sound dialect outer
    exact ⟨result, loaded, fun place source around found => Message.standsFor_at loaded found⟩

/-- A message with two maps, one of them in a nested message. The first entry lists its value before its
key, the second one numbers its value as given, and a third one, which no field refers to, is empty. The
field `notes` refers to an entry of another message, and an enumeration stands beside the entries. -/
def atlas (valueNumber : Int) : Descriptor.Message :=
  { name := Wire.encodeText "Atlas"
    fields :=
      [{ name := Wire.encodeText "labels", number := 1, label := .repeated, kind := .message
         typeName := Wire.encodeText ".geo.Atlas.LabelsEntry" },
       { name := Wire.encodeText "notes", number := 2, label := .repeated, kind := .message
         typeName := Wire.encodeText ".geo.Atlas.Page.NotesEntry" }]
    nested :=
      [{ name := Wire.encodeText "LabelsEntry"
         mapEntry := true
         fields :=
           [{ name := Wire.encodeText "value", number := 2, kind := .uint64 },
            { name := Wire.encodeText "key", number := 1, kind := .string }] },
       { name := Wire.encodeText "SpareEntry", mapEntry := true },
       { name := Wire.encodeText "Page"
         fields :=
           [{ name := Wire.encodeText "notes", number := 1, label := .repeated, kind := .message
              typeName := Wire.encodeText ".geo.Atlas.Page.NotesEntry" }]
         nested :=
           [{ name := Wire.encodeText "NotesEntry"
              mapEntry := true
              fields :=
                [{ name := Wire.encodeText "key", number := 1, kind := .int32 },
                 { name := Wire.encodeText "value", number := valueNumber, kind := .string }] }] }]
    enums :=
      [{ name := Wire.encodeText "Scale"
         values :=
           [{ name := Wire.encodeText "COARSE", number := 1 },
            { name := Wire.encodeText "UNKNOWN", number := -1 }] }] }

theorem load_checks_map_entries_in_atlas :
    Legible (atlas 2).texts ∧ Legible (atlas 3).texts ∧
    (∃ result, Message.load .other {} ".geo" (atlas 2) = .ok result ∧
      ∀ place source around, trail? Descriptor.Message.nested [atlas 2] place = some (source :: around) →
        ∃ message outside, trail? Message.nestedMessages [result] place = some (message :: outside) ∧
          Message.StandsFor .other (featuresAt {} (source :: around)) (nameAt ".geo" (source :: around))
            source message) ∧
    (atlas 2).enums.map Enum.described = [⟨"Scale", [⟨"COARSE", 1⟩, ⟨"UNKNOWN", -1⟩]⟩] ∧
    ∃ error, Message.load .other {} ".geo" (atlas 3) = .error error ∧ error.category = .schema := by
  have legible : Legible (atlas 2).texts ∧ Legible (atlas 3).texts := by decide +kernel
  have outcomes : (Message.load .other {} ".geo" (atlas 2)).isOk = true ∧
      (Message.load .other {} ".geo" (atlas 3)).isOk = false := by decide +kernel
  -- Whether there is a malformed entry is read off the outcome, so no place has to be searched.
  obtain ⟨refused, loaded⟩ := load_checks_map_entries legible.1 .other {} ".geo"
  obtain ⟨tornRefused, tornLoaded⟩ := load_checks_map_entries legible.2 .other {} ".geo"
  refine ⟨legible.1, legible.2, loaded fun malformed => ?_, by decide +kernel, tornRefused.mpr ?_⟩
  · obtain ⟨error, failed, _⟩ := refused.mpr malformed
    rw [failed] at outcomes
    cases outcomes.1
  · by_contra sound
    obtain ⟨result, isLoaded, _⟩ := tornLoaded sound
    rw [isLoaded] at outcomes
    cases outcomes.2

end Typewire.Schema
