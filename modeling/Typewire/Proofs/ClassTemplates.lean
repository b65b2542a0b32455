import Typewire.Code.MessageText
import Typewire.Proofs.Templates

/-!
# Templates of message classes

The code of a class keeps to every discipline that the names, types and values in it keep to. Expressions are
texts, statements are blocks; each is a template, or one of several by the kind of the field. A bracket that is
opened in a statement is closed in it. Only the brace of the class stays open over all parts of the class.
-/
namespace Typewire.Code

open Text (Discipline Fits FitsBlock)

variable {P : String → Prop} {Q : List String → Prop} {pb : String} {field : Field}

/-! ### Fields -/

namespace Field

/-- What a field carries into the code has a property: its name, its type and the value of an unset field, and
for a map the same of its parts. -/
inductive Carries (P : String → Prop) : Field → Prop where
  | intro {field : Field} (name : P field.name) (typeRef : P field.typeRef) (initial : P field.initial)
      (key : ∀ part, field.key = some part → Carries P part)
      (value : ∀ part, field.value = some part → Carries P part) : Carries P field

theorem Carries.name (carries : field.Carries P) : P field.name := by
  cases carries
  assumption

theorem Carries.typeRef (carries : field.Carries P) : P field.typeRef := by
  cases carries
  assumption

theorem Carries.initial (carries : field.Carries P) : P field.initial := by
  cases carries
  assumption

theorem entry?_eq_some {key value : Field} :
    field.entry? = some (key, value) ↔ field.key = some key ∧ field.value = some value := by
  cases hasKey : field.key <;> cases hasValue : field.value <;> simp [ entry?, hasKey, hasValue]

/-- What a map field carries has the property in its key and in its value. -/
theorem Carries.entry (carries : field.Carries P) {key value : Field}
    (isEntry : field.entry? = some (key, value)) : key.Carries P ∧ value.Carries P := by
  obtain ⟨name, typeRef, initial, ofKey, ofValue⟩ := carries
  obtain ⟨hasKey, hasValue⟩ := entry?_eq_some.mp isEntry
  exact ⟨ofKey key hasKey, ofValue value hasValue⟩

theorem objectType_of_entry {key value : Field} (isEntry : field.entry? = some (key, value)) :
    field.objectType =
      let index := if key.typeRef = "number" then "number" else "string"
      s!"\x7b [key: {index}]: {value.objectType} \x7d" := by
  obtain ⟨hasKey, hasValue⟩ := entry?_eq_some.mp isEntry
  cases field
  cases hasKey
  cases hasValue
  rw [objectType]

theorem objectType_of_single (single : field.entry? = none) :
    field.objectType =
      let element :=
        if field.isMessage then s!"ReturnType<typeof {field.typeRef}.prototype.toObject>"
        else field.typeRef
      if field.repeated then s!"{element}[]" else element := by
  refine objectType.eq_2 field ?_
  rintro name number kind typeRef initial repeated packed presence key value oneof oneofGroup rfl
  cases single

variable (rules : Discipline P Q)

include rules

theorem methodName_kept (kind : Kind) : P kind.methodName := by
  apply rules.constant
  cases kind <;> decide

theorem objectType_kept (carries : field.Carries P) : P field.objectType := by
  induction carries with
  | @intro field name typeRef initial key value ofKey ofValue =>
    cases entry : field.entry? with
    -- In a map the values alone have a type of their own; keys become an index signature.
    | some parts =>
      obtain ⟨keyPart, valuePart⟩ := parts
      rw [objectType_of_entry entry]
      extract_lets index
      have isIndex : P index := by
        unfold index
        split <;> exact rules.text Fits.fixed (by decide)
      have isValue : P valuePart.objectType := ofValue valuePart (entry?_eq_some.mp entry).2
      exact rules.text (Fits.fixed.fill isIndex |>.lit.fill isValue |>.lit) (by decide)
    | none =>
      rw [objectType_of_single entry]
      extract_lets element
      have isElement : P element := by
        unfold element
        split
        · exact rules.text (Fits.fixed.fill typeRef |>.lit) (by decide)
        · exact typeRef
      split
      · exact rules.text (Fits.gap isElement |>.lit) (by decide)
      · exact isElement

theorem propertyType_kept (carries : field.Carries P) : P field.propertyType := by
  unfold propertyType
  split
  next key value isEntry =>
    obtain ⟨ofKey, ofValue⟩ := carries.entry isEntry
    exact rules.text (Fits.fixed.fill ofKey.typeRef |>.lit.fill ofValue.typeRef |>.lit)
      (by decide)
  next =>
    split
    · exact rules.text (Fits.gap carries.typeRef |>.lit) (by decide)
    · exact carries.typeRef

theorem getter_kept (runtime : P pb) (carries : field.Carries P) : P (field.getter pb) := by
  have ofType := propertyType_kept rules carries
  have ofNumber := rules.number field.number
  unfold getter
  extract_lets number typeRef type
  split
  · exact rules.text (Fits.gap runtime |>.lit.fill ofNumber |>.lit.fill ofType) (by decide)
  split
  · exact rules.text (Fits.gap runtime |>.lit.fill carries.typeRef |>.lit.fill ofNumber |>.lit.fill ofType)
      (by decide)
  split
  · exact rules.text (Fits.gap runtime |>.lit.fill carries.typeRef |>.lit.fill ofNumber |>.lit.fill ofType)
      (by decide)
  · exact rules.text (Fits.gap runtime |>.lit.fill ofNumber |>.lit.fill carries.initial |>.lit.fill ofType)
      (by decide)

theorem setter_kept (runtime : P pb) : P (field.setter pb) := by
  have ofNumber := rules.number field.number
  unfold setter
  extract_lets number method
  split
  · exact rules.text (Fits.gap runtime |>.lit.fill ofNumber |>.lit) (by decide)
  split
  next group _ =>
    have isMethod : P method := by
      unfold method
      split <;> exact rules.text Fits.fixed (by decide)
    exact rules.text (Fits.gap runtime |>.lit.fill isMethod |>.lit.fill ofNumber |>.lit.fill
      (rules.number group) |>.lit) (by decide)
  next =>
    split
    · exact rules.text (Fits.gap runtime |>.lit.fill ofNumber |>.lit) (by decide)
    split
    · exact rules.text (Fits.gap runtime |>.lit.fill ofNumber |>.lit) (by decide)
    · exact rules.text (Fits.gap runtime |>.lit.fill ofNumber |>.lit) (by decide)

theorem presenceCheck_kept (carries : field.Carries P) : P field.presenceCheck := by
  unfold presenceCheck
  split
  · exact rules.text (Fits.fixed.fill carries.name) (by decide)
  split
  · exact rules.text (Fits.fixed.fill carries.name |>.lit) (by decide)
  · exact rules.text (Fits.fixed.fill carries.name |>.lit) (by decide)
  · exact rules.text (Fits.fixed.fill carries.name |>.lit) (by decide)
  · exact rules.text (Fits.fixed.fill carries.name |>.lit.fill carries.initial) (by decide)
  · exact rules.text (Fits.fixed.fill carries.name |>.lit) (by decide)

/-! ### Statements that write and read a field -/

theorem writeEntryPart_kept (field : Field) (number : Nat) {value : String} (ofValue : P value) :
    P (field.writeEntryPart number value) := by
  have ofNumber := rules.natural number
  unfold writeEntryPart
  split
  · exact rules.text (Fits.fixed.fill ofNumber |>.lit.fill ofValue |>.lit.fill ofValue |>.lit)
      (by decide)
  · exact rules.text (Fits.fixed.fill (methodName_kept rules field.kind) |>.lit.fill ofNumber |>.lit.fill
      ofValue |>.lit) (by decide)

theorem writeCall_kept (carries : field.Carries P) : P field.writeCall := by
  have ofNumber := rules.number field.number
  have ofMethod := methodName_kept rules field.kind
  unfold writeCall
  extract_lets name number typeRef method
  have ofName : P name := rules.text (Fits.fixed.fill carries.name) (by decide)
  -- The ways to write a field, by its kind and by whether it is repeated; each closes its own brackets.
  split
  · split
    · exact rules.text (Fits.append (Fits.gap ofName |>.lit.fill carries.typeRef |>.lit)
        (Fits.fixed.fill ofNumber |>.lit)) (by decide)
    · exact rules.text (Fits.fixed.fill ofNumber |>.lit.fill ofName |>.lit.fill ofName |>.lit)
        (by decide)
  split
  · exact rules.text (Fits.fixed.fill ofNumber |>.lit.fill ofName |>.lit.fill carries.typeRef |>.lit)
      (by decide)
  split
  · exact rules.text (Fits.fixed.fill ofNumber |>.lit.fill ofName |>.lit.fill ofName |>.lit)
      (by decide)
  split
  · exact rules.text (Fits.fixed.fill ofMethod |>.lit.fill ofNumber |>.lit.fill ofName |>.lit)
      (by decide)
  split
  · exact rules.text (Fits.fixed.fill ofMethod |>.lit.fill ofNumber |>.lit.fill ofName |>.lit)
      (by decide)
  · exact rules.text (Fits.fixed.fill ofMethod |>.lit.fill ofNumber |>.lit.fill ofName |>.lit)
      (by decide)

/-- Keys and values of a map are written like fields of their own, so both parts keep to the discipline. -/
theorem write_kept (carries : field.Carries P) : Q field.write := by
  unfold write
  extract_lets name check
  have ofName : P name := rules.text (Fits.fixed.fill carries.name) (by decide)
  split
  next key value isEntry =>
    have ofKey : P (key.writeEntryPart 1 "key") :=
      writeEntryPart_kept rules key 1 (rules.text Fits.fixed (by decide))
    have ofValue : P (value.writeEntryPart 2 "value") :=
      writeEntryPart_kept rules value 2 (rules.text Fits.fixed (by decide))
    exact rules.block (.cons (Fits.fixed.fill ofName |>.lit) <|
      .cons (Fits.fixed.fill (rules.number field.number) |>.lit.fill ofName |>.lit) <|
      .cons (Fits.fixed.fill ofKey) <|
      .cons (Fits.fixed.fill ofValue) <|
      .cons .fixed <|
      .cons .fixed .nil) (by decide)
  next =>
    have ofCheck : P check := by
      unfold check
      split
      · exact rules.text (Fits.gap ofName |>.lit) (by decide)
      · exact presenceCheck_kept rules carries
    exact rules.block (.cons (Fits.fixed.fill ofCheck |>.lit) <|
      .cons (Fits.fixed.fill (writeCall_kept rules carries) |>.lit) .nil) (by decide)

theorem readEntryPart_kept (carries : field.Carries P) : Q field.readEntryPart := by
  unfold readEntryPart
  split
  · exact rules.block (.cons .fixed <| .cons .fixed <|
      .cons (Fits.fixed.fill carries.typeRef |>.lit) <|
      .cons .fixed <| .cons .fixed .nil) (by decide)
  · exact rules.line (rules.text (Fits.fixed.fill (methodName_kept rules field.kind)) (by decide))

theorem readSingle_kept (runtime : P pb) (carries : field.Carries P) : Q (field.readSingle pb) := by
  have ofNumber := rules.number field.number
  have ofMethod := methodName_kept rules field.kind
  unfold readSingle
  extract_lets name number typeRef method addWrapper addValue
  have ofName : P name := rules.text (Fits.fixed.fill carries.name) (by decide)
  have ofWrapper : P addWrapper := rules.text (Fits.append (Fits.gap runtime |>.lit)
    (Fits.fixed.fill ofNumber |>.lit.fill carries.typeRef |>.lit.fill carries.typeRef |>.lit))
    (by decide)
  have ofValue : P addValue := rules.text (Fits.gap runtime |>.lit.fill ofNumber |>.lit.fill ofMethod |>.lit)
    (by decide)
  -- The same cases as for writing, except that a scalar list may come packed or value by value.
  split
  · split
    · exact rules.line (rules.text (Fits.fixed.fill ofNumber |>.lit.fill ofWrapper |>.lit)
        (by decide))
    · exact rules.line (rules.text (Fits.fixed.fill ofNumber |>.lit.fill ofName |>.lit.fill ofName |>.lit.fill
        carries.typeRef |>.lit) (by decide))
  split
  · exact rules.line (rules.text (Fits.fixed.fill ofName |>.lit.fill ofWrapper |>.lit) (by decide))
  split
  · exact rules.line (rules.text (Fits.fixed.fill ofName |>.lit.fill ofName |>.lit.fill carries.typeRef |>.lit)
      (by decide))
  split
  · exact rules.block (.cons .fixed <|
      .cons (Fits.fixed.fill ofName |>.lit.fill ofMethod |>.lit) <|
      .cons .fixed <|
      .cons (Fits.fixed.fill ofValue |>.lit) .nil) (by decide)
  split
  · exact rules.line (rules.text (Fits.gap ofValue |>.lit) (by decide))
  · exact rules.line (rules.text (Fits.gap ofName |>.lit.fill ofMethod |>.lit) (by decide))

theorem read_kept (runtime : P pb) (carries : field.Carries P) : Q (field.read pb) := by
  unfold read
  split
  next key value isEntry =>
    obtain ⟨ofKey, ofValue⟩ := carries.entry isEntry
    -- The brackets of the first part are closed by the last one.
    have opening : Fits P (s!"reader.readMessage(message, () => {pb}.Map.deserializeBinary(" ++
        s!"message.{field.name} as any, reader, ") _ :=
      Fits.append (Fits.fixed.fill runtime |>.lit) (Fits.fixed.fill carries.name |>.lit)
    exact rules.block (.join (.cons opening .nil) <|
      .join (.gap (readEntryPart_kept rules ofKey)) <|
      .join (.cons .fixed .nil) <|
      .join (.gap (readEntryPart_kept rules ofValue)) <|
      .join (.cons .fixed .nil) .nil) (by decide)
  next => exact readSingle_kept rules runtime carries

/-! ### Statements for plain objects -/

theorem fromObject_kept (carries : field.Carries P) : Q field.fromObject := by
  unfold fromObject
  extract_lets source single
  have ofSource : P source := rules.text (Fits.fixed.fill carries.name) (by decide)
  split
  next value isEntry =>
    have ofValue := (carries.entry isEntry).2
    extract_lets entries
    have ofEntries : P entries := by
      unfold entries
      split
      · exact rules.text (Fits.append (Fits.fixed.fill ofSource |>.lit)
          (Fits.fixed.fill ofValue.typeRef |>.lit)) (by decide)
      · exact rules.text (Fits.fixed.fill ofSource |>.lit) (by decide)
    exact rules.block (.cons (Fits.fixed.fill ofSource |>.lit) <|
      .cons (Fits.fixed.fill carries.name |>.lit.fill ofEntries |>.lit) <|
      .cons .fixed .nil) (by decide)
  next =>
    have ofSingle : P single := by
      unfold single
      split
      · exact rules.text (Fits.gap ofSource |>.lit.fill carries.typeRef |>.lit) (by decide)
      split
      · exact rules.text (Fits.gap carries.typeRef |>.lit.fill ofSource |>.lit) (by decide)
      · exact ofSource
    exact rules.block (.cons (Fits.fixed.fill ofSource |>.lit) <|
      .cons (Fits.fixed.fill carries.name |>.lit.fill ofSingle |>.lit) <|
      .cons .fixed .nil) (by decide)

theorem toObject_kept (carries : field.Carries P) : Q field.toObject := by
  unfold toObject
  extract_lets source value
  have ofSource : P source := rules.text (Fits.fixed.fill carries.name) (by decide)
  have ofValue : P value := by
    unfold value
    split
    · split
      · exact rules.text (Fits.append (Fits.fixed.fill ofSource |>.lit) .fixed) (by decide)
      · exact rules.text (Fits.fixed.fill ofSource |>.lit) (by decide)
    split
    · exact rules.text (Fits.gap ofSource |>.lit.fill carries.typeRef |>.lit) (by decide)
    split
    · exact rules.text (Fits.gap ofSource |>.lit) (by decide)
    · exact ofSource
  exact rules.block (.cons (Fits.fixed.fill ofSource |>.lit) <|
    .cons (Fits.fixed.fill carries.name |>.lit.fill ofValue |>.lit) <|
    .cons .fixed .nil) (by decide)

end Field

/-! ### Classes -/

namespace MessageClass

/-- What a class carries into the code has a property: its name, that of the runtime, and what its members
and groups carry. -/
structure Carries (P : String → Prop) (decl : MessageClass) : Prop where
  name : P decl.name
  runtime : P decl.runtime
  members : ∀ member ∈ decl.members, member.Carries P
  oneofs : ∀ oneof ∈ decl.oneofs, P oneof.name

variable {decl : MessageClass}

/-- The alternatives of a oneof are members of its class. -/
theorem mem_of_alternatives {oneof : Oneof} {alternative : Nat × Field}
    (isAlternative : alternative ∈ decl.alternatives oneof) : alternative.2 ∈ decl.members := by
  obtain ⟨position, _, found⟩ := List.mem_filterMap.mp isAlternative
  obtain ⟨member, atPosition, rfl⟩ := Option.map_eq_some_iff.mp found
  exact List.mem_of_getElem? atPosition

variable (rules : Discipline P Q)

include rules

theorem shapeOf_kept {properties : List String} (each : ∀ property ∈ properties, P property) :
    Q (shapeOf properties) := by
  unfold shapeOf
  split
  · exact rules.block (.cons .fixed .nil) (by decide)
  · have indented : Q (properties.map ("    " ++ ·)) := rules.map fun property member =>
      rules.text (Fits.fixed.fill (each property member)) (by decide)
    exact rules.block (.append (.append (.cons .fixed .nil) (.gap indented)) (.cons .fixed .nil))
      (by decide)

theorem objectShape_kept (carries : decl.Carries P) : Q decl.objectShape := by
  apply shapeOf_kept rules
  intro property isProperty
  obtain ⟨member, isMember, rfl⟩ := List.mem_map.mp isProperty
  have ofMember := carries.members member isMember
  exact rules.text (Fits.gap ofMember.name |>.lit.fill (Field.objectType_kept rules ofMember) |>.lit)
    (by decide)

theorem variantShape_kept {alternatives : List (Nat × Field)}
    (each : ∀ alternative ∈ alternatives, alternative.2.Carries P) (chosen : Nat) :
    Q (variantShape alternatives chosen) := by
  unfold variantShape
  refine rules.block (.append (.append (.cons .fixed .nil) (.gap (rules.map ?_))) (.cons .fixed .nil))
    (by decide)
  rintro ⟨position, field⟩ member
  have ofField : field.Carries P := each _ member
  have ofType : P (if position = chosen then field.propertyType else "never") := by
    split
    · exact Field.propertyType_kept rules ofField
    · exact rules.text Fits.fixed (by decide)
  exact rules.text (Fits.fixed.fill ofField.name |>.lit.fill ofType |>.lit) (by decide)

theorem oneofShape_kept (carries : decl.Carries P) (oneof : Oneof) : Q (decl.oneofShape oneof) := by
  unfold oneofShape
  extract_lets alternatives variants
  have ofVariants : ∀ variant ∈ variants, Q variant := by
    intro variant member
    obtain ⟨alternative, _, rfl⟩ := List.mem_map.mp member
    exact variantShape_kept rules (fun other isAlternative =>
      carries.members other.2 (mem_of_alternatives isAlternative)) alternative.1
  have bar : Q [" | "] := rules.line (rules.text Fits.fixed (by decide))
  have union := rules.separated bar ofVariants
  rw [Text.inline_append, Text.inline_append, Text.inline_singleton, Text.inline_singleton]
  exact rules.block (.join (.join (.cons .fixed .nil) (.gap union)) (.cons .fixed .nil)) (by decide)

/-- The union over the alternatives of a oneof closes every brace that it opens. -/
theorem dataShape_kept (carries : decl.Carries P) : Q decl.dataShape := by
  unfold dataShape
  extract_lets plain
  have ofPlain : Q plain := by
    apply shapeOf_kept rules
    intro property isProperty
    obtain ⟨field, isPlain, rfl⟩ := List.mem_map.mp isProperty
    have ofField := carries.members field (List.mem_filter.mp isPlain).1
    exact rules.text (Fits.gap ofField.name |>.lit.fill (Field.propertyType_kept rules ofField) |>.lit)
      (by decide)
  split
  · exact ofPlain
  · have ofShapes : ∀ shape ∈ decl.oneofs.map decl.oneofShape, Q shape := by
      intro shape member
      obtain ⟨oneof, _, rfl⟩ := List.mem_map.mp member
      exact oneofShape_kept rules carries oneof
    have ampersand : Q [" & "] := rules.line (rules.text Fits.fixed (by decide))
    have shapes := rules.separated ampersand ofShapes
    rw [Text.inline_append, Text.inline_append, Text.inline_singleton]
    exact rules.block (.join (.join (.join (.cons .fixed .nil) <| .join (.gap ofPlain) <|
      .join (.cons .fixed .nil) .nil) (.gap shapes)) (.cons .fixed .nil)) (by decide)

/-! ### Parts of a class -/

theorem tableRow_kept (row : FieldRow) : Q (tableRow row) := by
  unfold tableRow
  extract_lets name kind repeated isMap packed
  have first :
      Fits P s!"        \x7b no: {row.number}, name: {name}, kind: {kind}, wire: {row.wireType}, " _ :=
    Fits.fixed.fill (rules.number row.number) |>.lit.fill (rules.literal row.name) |>.lit.fill
      (rules.literal row.kind.name) |>.lit.fill (rules.natural row.wireType) |>.lit
  exact rules.line (rules.text (first.append (Fits.fixed.fill (rules.boolLiteral row.repeated) |>.lit.fill
    (rules.boolLiteral row.isMap) |>.lit.fill (rules.boolLiteral row.packed) |>.lit)) (by decide))

theorem assignLines_kept (carries : field.Carries P) : Q (assignLines field) :=
  rules.block (.cons (Fits.fixed.fill (rules.literal field.name) |>.lit.fill carries.name |>.lit) <|
    .cons (Fits.fixed.fill carries.name |>.lit.fill carries.name |>.lit) <|
    .cons .fixed .nil) (by decide)

theorem ensureMapLines_kept (carries : field.Carries P) : Q (ensureMapLines field) :=
  rules.block (.cons (Fits.fixed.fill carries.name |>.lit) <|
    .cons (Fits.fixed.fill carries.name |>.lit) .nil) (by decide)

theorem constructorLines_kept (carries : decl.Carries P) : Q decl.constructorLines := by
  unfold constructorLines
  extract_lets repeated
  have assigned : Q (decl.members.flatMap assignLines) := rules.flatMap fun member isMember =>
    assignLines_kept rules (carries.members member isMember)
  have ensured : Q ((decl.members.filter (·.isMap)).flatMap ensureMapLines) :=
    rules.flatMap fun member isMember =>
      ensureMapLines_kept rules (carries.members member (List.mem_filter.mp isMember).1)
  have initialized : Fits P
      (s!"        {decl.runtime}.Message.initialize(this, Array.isArray(data) ? data : [], 0, -1, " ++
        s!"{repeated}, this.#one_of_decls);") _ :=
    Fits.append (Fits.fixed.fill carries.runtime |>.lit)
      (Fits.gap (rules.intArray decl.repeatedNumbers) |>.lit)
  refine rules.block (.append (.append (.append (.append (.append
    (.hang 4 .fixed (.gap (dataShape_kept rules carries)) .fixed)
    (.cons .fixed <| .cons initialized <| .cons .fixed .nil))
    (.gap assigned)) (.cons .fixed .nil)) (.gap ensured)) (.cons .fixed .nil)) ?_
  decide

theorem accessorLines_kept (runtime : P pb) (carries : field.Carries P) : Q (accessorLines pb field) := by
  unfold accessorLines
  extract_lets name
  have accessors : Q [s!"    get {name}() \x7b",
      s!"        return {field.getter pb};",
      "    \x7d",
      s!"    set {name}(value: {field.propertyType}) \x7b",
      s!"        {field.setter pb};",
      "    \x7d"] :=
    rules.block (.cons (Fits.fixed.fill carries.name |>.lit) <|
      .cons (Fits.fixed.fill (Field.getter_kept rules runtime carries) |>.lit) <|
      .cons .fixed <|
      .cons (Fits.fixed.fill carries.name |>.lit.fill (Field.propertyType_kept rules carries) |>.lit) <|
      .cons (Fits.fixed.fill (Field.setter_kept rules runtime) |>.lit) <|
      .cons .fixed .nil) (by decide)
  refine rules.append accessors ?_
  split
  · exact rules.block (.cons (Fits.fixed.fill carries.name |>.lit) <|
      .cons (Fits.fixed.fill runtime |>.lit.fill (rules.number field.number) |>.lit) <|
      .cons .fixed .nil) (by decide)
  · exact rules.nil

theorem caseLines_kept (carries : decl.Carries P) {oneof : Oneof} (isOneof : oneof ∈ decl.oneofs) :
    Q (decl.caseLines oneof) := by
  unfold caseLines
  extract_lets fields choices comma numbers
  -- Names of alternatives appear as literals only, so they may be any texts.
  have ofChoices : P choices := by
    apply rules.join
    intro choice member
    obtain ⟨field, _, rfl⟩ := List.mem_map.mp member
    exact rules.text (Fits.fixed.fill (rules.literal field.name)) (by decide)
  have ofComma : P comma := by
    unfold comma
    split <;> exact rules.text Fits.fixed (by decide)
  have ofCases : Q (Text.punctuate (fields.map fun field =>
      let name := Text.literal field.name
      [s!"            {field.number}: {name}"])) := by
    apply rules.punctuate
    intro block member
    obtain ⟨field, _, rfl⟩ := List.mem_map.mp member
    exact rules.line (rules.text (Fits.fixed.fill (rules.number field.number) |>.lit.fill
      (rules.literal field.name)) (by decide))
  exact rules.block (.append (.append
    (.cons (Fits.fixed.fill (carries.oneofs oneof isOneof) |>.lit) <|
      .cons .fixed <|
      .cons (Fits.fixed.fill ofChoices |>.lit) <|
      .cons .fixed <|
      .cons (Fits.fixed.fill ofComma) .nil)
    (.gap ofCases))
    (.cons .fixed <|
      .cons (Fits.fixed.fill carries.runtime |>.lit.fill (rules.intArray (decl.numbers oneof)) |>.lit) <|
      .cons .fixed .nil)) (by decide)

/-- The statements of all members, moved to their place. -/
theorem statements_kept (carries : decl.Carries P) {statement : Field → List String} (width : Nat)
    (each : ∀ field : Field, field.Carries P → Q (statement field)) :
    Q (decl.members.flatMap fun field => Text.indent width (statement field)) :=
  rules.flatMap fun member isMember => rules.indent width (each member (carries.members member isMember))

theorem fromObjectLines_kept (carries : decl.Carries P) : Q decl.fromObjectLines := by
  have statements := statements_kept rules carries 8 fun _ => Field.fromObject_kept rules
  exact rules.block (.append (.append (.append
    (.hang 4 .fixed (.gap (objectShape_kept rules carries)) (Fits.fixed.fill carries.name |>.lit))
    (.cons (Fits.fixed.fill carries.name |>.lit) .nil))
    (.gap statements))
    (.cons .fixed <| .cons .fixed .nil)) (by decide)

theorem toObjectLines_kept (carries : decl.Carries P) : Q decl.toObjectLines := by
  have statements := statements_kept rules carries 8 fun _ => Field.toObject_kept rules
  exact rules.block (.append (.append (.append
    (.cons .fixed .nil)
    (.hang 8 .fixed (.gap (objectShape_kept rules carries)) .fixed))
    (.gap statements))
    (.cons .fixed <| .cons .fixed .nil)) (by decide)

theorem serializeLines_kept (carries : decl.Carries P) : Q decl.serializeLines := by
  have statements := statements_kept rules carries 8 fun _ => Field.write_kept rules
  exact rules.block (.append (.append
    (.cons .fixed <|
      .cons (Fits.fixed.fill carries.runtime |>.lit) <|
      .cons (Fits.fixed.fill carries.runtime |>.lit) <|
      .cons (Fits.fixed.fill carries.runtime |>.lit) .nil)
    (.gap statements))
    (.cons .fixed <| .cons .fixed <| .cons .fixed .nil)) (by decide)

theorem readCaseLines_kept (runtime : P pb) (carries : field.Carries P) : Q (readCaseLines pb field) :=
  rules.block (.append (.append
    (.cons (Fits.fixed.fill (rules.number field.number) |>.lit) .nil)
    (.indent 20 (.gap (Field.read_kept rules runtime carries))))
    (.cons .fixed .nil)) (by decide)

theorem deserializeLines_kept (carries : decl.Carries P) : Q decl.deserializeLines := by
  unfold deserializeLines
  extract_lets pb name
  have ofCases : Q (decl.members.flatMap (readCaseLines pb)) := rules.flatMap fun member isMember =>
    readCaseLines_kept rules carries.runtime (carries.members member isMember)
  have opening : Fits P (s!"        const reader = bytes instanceof {pb}.BinaryReader ? bytes : " ++
      s!"new {pb}.BinaryReader(bytes), message = new {name}();") _ :=
    Fits.append (Fits.fixed.fill carries.runtime |>.lit)
      (Fits.fixed.fill carries.runtime |>.lit.fill carries.name |>.lit)
  exact rules.block (.append (.append
    (.cons (Fits.fixed.fill carries.runtime |>.lit.fill carries.name |>.lit) <|
      .cons opening <|
      .cons .fixed <| .cons .fixed <| .cons .fixed <| .cons .fixed .nil)
    (.gap ofCases))
    (.cons .fixed <| .cons .fixed <| .cons .fixed <| .cons .fixed <| .cons .fixed .nil)) (by decide)

theorem binaryLines_kept (carries : decl.Carries P) : Q decl.binaryLines :=
  rules.block (.cons .fixed <| .cons .fixed <| .cons .fixed <|
    .cons (Fits.fixed.fill carries.name |>.lit) <|
    .cons (Fits.fixed.fill carries.name |>.lit) <|
    .cons .fixed .nil) (by decide)

/-- The code of a class keeps to a discipline if what it carries does. -/
theorem lines_kept (carries : decl.Carries P) : Q decl.lines := by
  unfold lines headLines
  extract_lets groups
  have ofGroups : P groups := by
    apply rules.arrayLiteral
    intro group member
    obtain ⟨numbers, _, rfl⟩ := List.mem_map.mp member
    exact rules.intArray numbers
  have rows : Q (Text.punctuate (decl.fieldTable.map tableRow)) := by
    apply rules.punctuate
    intro lines member
    obtain ⟨row, _, rfl⟩ := List.mem_map.mp member
    exact tableRow_kept rules row
  have accessors : Q (decl.members.flatMap (accessorLines decl.runtime)) :=
    rules.flatMap fun member isMember =>
      accessorLines_kept rules carries.runtime (carries.members member isMember)
  have ofCases : Q (decl.oneofs.flatMap decl.caseLines) := rules.flatMap fun oneof isOneof =>
    caseLines_kept rules carries isOneof
  -- The brace of the class is opened in the head and closed in the last line.
  have head : FitsBlock P Q ([s!"export class {decl.name} extends {decl.runtime}.Message \x7b",
      s!"    #one_of_decls: number[][] = {groups};",
      "    static readonly fields = ["] ++ Text.punctuate (decl.fieldTable.map tableRow) ++
      ["    ] as const;"]) _ :=
    .append (.append (.cons (Fits.fixed.fill carries.name |>.lit.fill carries.runtime |>.lit) <|
      .cons (Fits.fixed.fill ofGroups |>.lit) <|
      .cons .fixed .nil) (.gap rows)) (.cons .fixed .nil)
  refine rules.block (.append (.append (.append (.append (.append (.append (.append (.append (.append
    head
    (.gap (constructorLines_kept rules carries)))
    (.gap accessors))
    (.gap ofCases))
    (.gap (fromObjectLines_kept rules carries)))
    (.gap (toObjectLines_kept rules carries)))
    (.gap (serializeLines_kept rules carries)))
    (.gap (deserializeLines_kept rules carries)))
    (.gap (binaryLines_kept rules carries)))
    (.cons .fixed .nil)) ?_
  decide

end MessageClass

end Typewire.Code
