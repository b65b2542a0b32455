import Typewire.Proofs.Loading

/-!
# What is loaded at each place

A place in a tree of messages is a list of positions. Loading goes down the tree with the features and the
scope of what surrounds a message, and keeps every place: what it finds there was loaded from the message of
the descriptor at the same place, under the features and the full name that the messages around it give.

At a single place, a field is a map exactly if its type is an entry message nested beside it. Of several
entries of that name the last one counts.

Main lemmas: `Message.load_at` and `Message.LoadedFrom.members`.
-/
namespace Typewire

/-! ### Places in trees -/

section Places

variable {α : Type}

/-- What stands right inside the innermost of some elements, or at the top if there are none. -/
def insideOf (inner : α → List α) (tops : List α) : List α → List α
  | [] => tops
  | element :: _ => inner element

/-- The element at a place and the elements around it, from the inside outwards. The positions on the way
to the place are given in the same order. -/
def trail? (inner : α → List α) (tops : List α) : List Nat → Option (List α)
  | [] => some []
  | position :: place => do
    let around ← trail? inner tops place
    let element ← (insideOf inner tops around)[position]?
    return element :: around

variable {inner : α → List α} {tops : List α}

/-- One more position leads from what a place holds to something inside it. -/
theorem trail?_cons {position : Nat} {place : List Nat} {trail : List α} :
    trail? inner tops (position :: place) = some trail ↔
      ∃ element around, trail? inner tops place = some around ∧
        (insideOf inner tops around)[position]? = some element ∧ trail = element :: around := by
  rw [trail?]
  constructor
  · intro found
    obtain ⟨around, isAround, rest⟩ := Option.bind_eq_some_iff.mp found
    obtain ⟨element, isElement, last⟩ := Option.bind_eq_some_iff.mp rest
    exact ⟨element, around, isAround, isElement, (Option.some.inj last).symm⟩
  · rintro ⟨element, around, isAround, isElement, rfl⟩
    simp [isAround, isElement]

end Places

namespace Schema

open Descriptor (Features)

/-! ### Texts, features and names -/

/-- The text that bytes encode, empty where they encode none. -/
def textOf (bytes : Wire.Bytes) : String :=
  (Wire.Record.decodeText bytes).getD ""

theorem text_eq_ok {bytes : Wire.Bytes} {result : String} (isText : text bytes = .ok result) :
    result = textOf bytes := by
  rw [text] at isText
  split at isText
  next decoded =>
    cases isText
    rw [textOf, decoded, Option.getD_some]
  next => cases isText

/-- The features inside some messages, the innermost of which comes first. -/
def featuresAt (outer : Features) (trail : List Descriptor.Message) : Features :=
  trail.foldr (fun message around => message.features.within around) outer

/-- The full name of the innermost of some messages, which comes first. -/
def nameAt (scope : String) (trail : List Descriptor.Message) : String :=
  trail.foldr (fun message around => fullName around (textOf message.name)) scope

/-! ### Messages -/

section Loading

variable {dialect : Dialect} {outer : Features} {scope : String} {sources : List Descriptor.Message}
  {messages : List Message}

/-- Loading keeps places. What stands inside the messages on the way to a place is loaded under their
features and their full name. -/
theorem Message.loadAll_at (loaded : Message.loadAll dialect outer scope sources = .ok messages)
    {place : List Nat} {trail : List Descriptor.Message}
    (found : trail? Descriptor.Message.nested sources place = some trail) :
    ∃ results, trail? Message.nestedMessages messages place = some results ∧
      results.length = trail.length ∧
      Message.loadAll dialect (featuresAt outer trail) (nameAt scope trail)
        (insideOf Descriptor.Message.nested sources trail) =
          .ok (insideOf Message.nestedMessages messages results) := by
  -- The last position of a place is the outermost one, so the induction goes down the tree.
  induction place generalizing trail with
  | nil =>
    cases found
    exact ⟨[], rfl, rfl, loaded⟩
  | cons position place ih =>
    obtain ⟨source, around, isAround, isSource, rfl⟩ := trail?_cons.mp found
    obtain ⟨results, areResults, sameLength, aroundLoaded⟩ := ih isAround
    rw [loadAll_eq_mapM, except_mapM_eq_ok_iff] at aroundLoaded
    obtain ⟨message, isMessage, isLoaded⟩ := getElem?_of_forall₂ aroundLoaded isSource
    refine ⟨message :: results, trail?_cons.mpr ⟨message, results, areResults, isMessage, rfl⟩,
      congrArg Nat.succ sameLength, ?_⟩
    have parts := Message.load_eq_ok isLoaded
    rw [featuresAt, nameAt, List.foldr_cons, List.foldr_cons, ← text_eq_ok parts.name]
    exact parts.nested

/-- The message that is loaded at the place of a message of the descriptor. -/
theorem Message.load_at (loaded : Message.loadAll dialect outer scope sources = .ok messages)
    {place : List Nat} {source : Descriptor.Message} {around : List Descriptor.Message}
    (found : trail? Descriptor.Message.nested sources place = some (source :: around)) :
    ∃ message results, trail? Message.nestedMessages messages place = some (message :: results) ∧
      Message.LoadedFrom dialect (featuresAt outer around) (nameAt scope around) source message := by
  cases place with
  | nil => cases found
  | cons position place =>
    obtain ⟨source, around, isAround, isSource, same⟩ := trail?_cons.mp found
    cases same
    obtain ⟨results, areResults, _, aroundLoaded⟩ := Message.loadAll_at loaded isAround
    rw [loadAll_eq_mapM, except_mapM_eq_ok_iff] at aroundLoaded
    obtain ⟨message, isMessage, isLoaded⟩ := getElem?_of_forall₂ aroundLoaded isSource
    exact ⟨message, results, trail?_cons.mpr ⟨message, results, areResults, isMessage, rfl⟩,
      Message.load_eq_ok isLoaded⟩

end Loading

/-! ### Fields -/

/-- A field as its descriptor describes it, given the features around it. -/
def Field.described (dialect : Dialect) (outer : Features) (field : Descriptor.Field) : Field :=
  { name := textOf field.name
    number := field.number
    cardinality := cardinalityOf field
    kind := field.kind
    typeName := if textOf field.typeName = "" then none else some (textOf field.typeName)
    oneofIndex := oneofOf field
    jsonName := if textOf field.jsonName = "" then none else some (textOf field.jsonName)
    packed := isPacked dialect (field.features.within outer) field
    isOptional := field.isOptional
    explicitPresence :=
      tracksPresence dialect (field.features.within outer) field && field.label != .repeated
    defaultValue := field.defaultValue.map textOf }

/-- A loaded field is as its descriptor describes it. -/
theorem Field.load_eq_ok {dialect : Dialect} {outer : Features} {source : Descriptor.Field} {field : Field}
    (loaded : Field.load dialect outer source = .ok field) : field = described dialect outer source := by
  obtain ⟨name, isName, afterName⟩ := except_bind_eq_ok loaded
  obtain ⟨typeName, isTypeName, afterTypeName⟩ := except_bind_eq_ok afterName
  obtain ⟨jsonName, isJsonName, afterJsonName⟩ := except_bind_eq_ok afterTypeName
  obtain ⟨defaultValue, isDefault, last⟩ := except_bind_eq_ok afterJsonName
  have sameDefault : defaultValue = source.defaultValue.map textOf := by
    cases given : source.defaultValue with
    | none =>
      rw [given] at isDefault
      cases isDefault
      rfl
    | some bytes =>
      rw [given] at isDefault
      obtain ⟨decoded, isText, last⟩ := except_bind_eq_ok isDefault
      cases last
      rw [text_eq_ok isText, Option.map_some]
  cases last
  rw [described, ← text_eq_ok isName, ← text_eq_ok isTypeName, ← text_eq_ok isJsonName, ← sameDefault]

/-! ### Map entries -/

/-- The entry message among some nested ones that a type name refers to: the last one of this name. -/
def IsEntryFor (full : String) (nested : List Descriptor.Message) (typeName : String)
    (entry : Descriptor.Message) : Prop :=
  ∃ before after, nested = before ++ entry :: after ∧
    entry.mapEntry = true ∧ typeName = fullName full (textOf entry.name) ∧
    ∀ later ∈ after, later.mapEntry = true → typeName ≠ fullName full (textOf later.name)

/-- The fields of an entry are a key numbered one and a value numbered two, in either order. -/
structure HasParts (entry : Descriptor.Message) (key value : Descriptor.Field) : Prop where
  fields : entry.fields = [key, value] ∨ entry.fields = [value, key]
  keyNumber : key.number = 1
  valueNumber : value.number = 2

theorem findRev?_eq_some_iff {α : Type} {p : α → Bool} {xs : List α} {x : α} :
    xs.findRev? p = some x ↔
      ∃ before after, xs = before ++ x :: after ∧ p x = true ∧ ∀ y ∈ after, p y = false := by
  rw [List.findRev?_eq_find?_reverse, List.find?_eq_some_iff_append]
  constructor
  · rintro ⟨holds, later, earlier, split, none⟩
    refine ⟨earlier.reverse, later.reverse, ?_, holds, ?_⟩
    · rw [← List.reverse_reverse xs, split]
      simp
    · intro y member
      simpa using none y (List.mem_reverse.mp member)
  · rintro ⟨before, after, rfl, holds, none⟩
    refine ⟨holds, after.reverse, before.reverse, by simp, ?_⟩
    intro y member
    simp [none y (List.mem_reverse.mp member)]

/-- The search from the end finds the entry that a type name refers to. -/
theorem isEntryFor_iff {full : String} {nested : List Descriptor.Message} {typeName : String}
    {entry : Descriptor.Message} :
    nested.findRev? (fun message => message.mapEntry && fullName full (textOf message.name) = typeName) =
      some entry ↔ IsEntryFor full nested typeName entry := by
  rw [findRev?_eq_some_iff, IsEntryFor]
  simp only [Bool.and_eq_true, decide_eq_true_eq, Bool.and_eq_false_imp, decide_eq_false_iff_not, and_assoc,
    eq_comm (a := typeName), ne_eq]

theorem IsEntryFor.unique {full : String} {nested : List Descriptor.Message} {typeName : String}
    {entry other : Descriptor.Message} (isEntry : IsEntryFor full nested typeName entry)
    (isOther : IsEntryFor full nested typeName other) : other = entry :=
  Option.some.inj ((isEntryFor_iff.mpr isOther).symm.trans (isEntryFor_iff.mpr isEntry))

theorem entriesOf_eq_ok {full : String} {nested : List Descriptor.Message}
    {entries : List (String × Descriptor.Message)} (found : entriesOf full nested = .ok entries) :
    entries = (nested.filter (·.mapEntry)).map fun entry => (fullName full (textOf entry.name), entry) := by
  refine eq_map_of_forall₂ ((except_mapM_eq_ok_iff _ _ _).mp found) fun source entry made => ?_
  obtain ⟨name, isName, last⟩ := except_bind_eq_ok made
  cases last
  rw [text_eq_ok isName]

/-- Looking for a name among the entries is looking for the entry message of that name. -/
theorem findRev?_entriesOf {full : String} {nested : List Descriptor.Message}
    {entries : List (String × Descriptor.Message)} (areEntries : entriesOf full nested = .ok entries)
    (typeName : String) :
    (entries.findRev? fun entry => entry.1 = typeName).map Prod.snd =
      nested.findRev? fun message => message.mapEntry && fullName full (textOf message.name) = typeName := by
  -- There are lemmas for a search from the front only.
  rw [entriesOf_eq_ok areEntries, List.findRev?_eq_find?_reverse, List.findRev?_eq_find?_reverse,
    ← List.map_reverse, ← List.filter_reverse, List.find?_map, List.find?_filter, Option.map_map]
  simp [Function.comp_def]

theorem isEntryFor_of_found {full : String} {nested : List Descriptor.Message}
    {entries : List (String × Descriptor.Message)} (areEntries : entriesOf full nested = .ok entries)
    {typeName : String} {found : String × Descriptor.Message}
    (isFound : entries.findRev? (fun entry => entry.1 = typeName) = some found) :
    IsEntryFor full nested typeName found.2 := by
  rw [← isEntryFor_iff, ← findRev?_entriesOf areEntries, isFound, Option.map_some]

theorem not_isEntryFor_of_none {full : String} {nested : List Descriptor.Message}
    {entries : List (String × Descriptor.Message)} (areEntries : entriesOf full nested = .ok entries)
    {typeName : String} (none : entries.findRev? (fun entry => entry.1 = typeName) = none)
    (entry : Descriptor.Message) : ¬ IsEntryFor full nested typeName entry := by
  rw [← isEntryFor_iff, ← findRev?_entriesOf areEntries, none]
  exact nofun

theorem Field.typeName_described (dialect : Dialect) (outer : Features) (source : Descriptor.Field) :
    (Field.described dialect outer source).typeName.getD "" = textOf source.typeName := by
  simp only [Field.described]
  split
  next empty => exact empty.symm
  next => rfl

/-- The two forms in which a field of a message is loaded, given the features inside the message, its full
name and the messages nested in it. -/
inductive IsMember (dialect : Dialect) (features : Features) (full : String)
    (nested : List Descriptor.Message) (source : Descriptor.Field) (field : Field) : Prop where
  | single (noEntry : ∀ entry, ¬ IsEntryFor full nested (textOf source.typeName) entry)
      (loaded : Field.load dialect features source = .ok field)
      (noKey : field.mapKey = none) (noValue : field.mapValue = none)
  | map {entry : Descriptor.Message} {key value : Descriptor.Field} {alone mapKey mapValue : Field}
      (isEntry : IsEntryFor full nested (textOf source.typeName) entry) (parts : HasParts entry key value)
      (loaded : Field.load dialect features source = .ok alone)
      (keyLoaded : Field.load dialect features key = .ok mapKey)
      (valueLoaded : Field.load dialect features value = .ok mapValue)
      (whole : field = { alone with mapKey := some mapKey, mapValue := some mapValue })

/-- The parts of an entry are found exactly if it has a key numbered one and a value numbered two. -/
theorem entryParts_eq_ok {typeName : String} {entry : Descriptor.Message} {key value : Descriptor.Field} :
    entryParts typeName entry = .ok (key, value) ↔ HasParts entry key value := by
  constructor
  · intro found
    rw [entryParts] at found
    split at found
    next first second areFields =>
      -- The fields are put in the order of their numbers before these are checked.
      by_cases ordered : first.number ≤ second.number
      · simp only [if_pos ordered] at found
        split at found
        next numbered =>
          cases found
          exact ⟨.inl areFields, numbered.1, numbered.2⟩
        next => cases found
      · simp only [if_neg ordered] at found
        split at found
        next numbered =>
          cases found
          exact ⟨.inr areFields, numbered.1, numbered.2⟩
        next => cases found
    next => cases found
  · rintro ⟨fields | fields, keyNumber, valueNumber⟩
    · simp [entryParts, fields, keyNumber, valueNumber]
    · simp [entryParts, fields, keyNumber, valueNumber]

theorem HasParts.unique {entry : Descriptor.Message} {key value otherKey otherValue : Descriptor.Field}
    (parts : HasParts entry key value) (others : HasParts entry otherKey otherValue) :
    otherKey = key ∧ otherValue = value := by
  have same := (@entryParts_eq_ok "" _ _ _).mpr others
  rw [entryParts_eq_ok.mpr parts] at same
  exact Prod.mk.inj (Except.ok.inj same.symm)

/-- A malformed entry is blamed on the schema. -/
theorem entryParts_category {typeName : String} {entry : Descriptor.Message} :
    FailsOnly (fun error => error.category = .schema) (entryParts typeName entry) := by
  intro error failed
  rw [entryParts] at failed
  split at failed
  next first second _ =>
    generalize (if first.number ≤ second.number then (first, second) else (second, first)) = parts at failed
    dsimp only at failed
    split at failed
    next => cases failed
    next =>
      cases failed
      rfl
  next =>
    cases failed
    rfl

/-- A loaded member is a map if its type is an entry beside it, and else a single field. -/
theorem loadMember_eq_ok {dialect : Dialect} {features : Features} {full : String}
    {nested : List Descriptor.Message} {entries : List (String × Descriptor.Message)}
    (areEntries : entriesOf full nested = .ok entries) {source : Descriptor.Field} {field : Field}
    (loaded : loadMember dialect features entries source = .ok field) :
    IsMember dialect features full nested source field := by
  obtain ⟨alone, isAlone, rest⟩ := except_bind_eq_ok loaded
  obtain rfl := Field.load_eq_ok isAlone
  dsimp only at rest
  rw [Field.typeName_described] at rest
  split at rest
  next none =>
    cases rest
    exact .single (not_isEntryFor_of_none areEntries none) isAlone rfl rfl
  next name entry found =>
    obtain ⟨⟨key, value⟩, areParts, afterParts⟩ := except_bind_eq_ok rest
    obtain ⟨mapKey, isKey, afterKey⟩ := except_bind_eq_ok afterParts
    obtain ⟨mapValue, isValue, last⟩ := except_bind_eq_ok afterKey
    cases last
    exact .map (isEntryFor_of_found areEntries found) (entryParts_eq_ok.mp areParts) isAlone isKey isValue rfl

/-- The fields of a loaded message. -/
theorem Message.LoadedFrom.members {dialect : Dialect} {outer : Features} {scope : String}
    {source : Descriptor.Message} {message : Message}
    (loaded : Message.LoadedFrom dialect outer scope source message) :
    List.Forall₂ (IsMember dialect (source.features.within outer) (fullName scope (textOf source.name))
      source.nested) source.fields message.fields := by
  obtain ⟨entries, areEntries, fields⟩ := loaded.fields
  rw [text_eq_ok loaded.name] at areEntries
  exact fields.imp fun field member isLoaded => loadMember_eq_ok areEntries isLoaded

end Schema

end Typewire
