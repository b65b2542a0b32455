import Typewire.Proofs.InheritedFeatures

/-!
# Repeated enumerations are not packed

The values of an enumeration are written as varints, as those of an integer are, and the rule by which
repeated varints are packed into one run does not look further. Loading looks at the kind first, and an
enumeration is not among the kinds that it packs.

## Main result

`repeated_enums_never_packed`: a repeated enumeration is never packed, while the same field as a 32-bit
integer is packed if the rule says so. The two flags agree exactly where the rule packs nothing.

## Proof strategy

Descriptors that are alike apart from the kinds of their fields fail alike or are both loaded, since each
step of loading is compared with the same step on the descriptor without kinds. What is loaded at a place
then comes from the two fields at that place, within the same scopes.
-/
namespace Typewire

/-! ### Computations that fail alike -/

section Outcomes

variable {ε α β γ δ : Type}

/-- Two computations both succeed, or fail in the same way. -/
def SameOutcome (first : Except ε α) (second : Except ε β) : Prop :=
  first.map (fun _ => ()) = second.map fun _ => ()

namespace SameOutcome

theorem pure (first : α) (second : β) : SameOutcome (.ok first : Except ε α) (.ok second : Except ε β) :=
  rfl

theorem symm {first : Except ε α} {second : Except ε β} (same : SameOutcome first second) :
    SameOutcome second first :=
  Eq.symm same

/-- Two sequences have the same outcome if their steps have. -/
theorem bind {first : Except ε α} {second : Except ε β} {next : α → Except ε γ} {other : β → Except ε δ}
    (same : SameOutcome first second)
    (rest : ∀ a b, first = .ok a → second = .ok b → SameOutcome (next a) (other b)) :
    SameOutcome (first >>= next) (second >>= other) := by
  cases first with
  | error failure =>
    cases second with
    | error otherFailure =>
      cases same
      rfl
    | ok b => cases same
  | ok a =>
    cases second with
    | error failure => cases same
    | ok b => exact rest a b rfl rfl

/-- The same first step, whose result is changed on one side. -/
theorem map_bind {step : Except ε α} {change : α → β} {next : β → Except ε γ} {other : α → Except ε δ}
    (rest : ∀ a, step = .ok a → SameOutcome (next (change a)) (other a)) :
    SameOutcome (step.map change >>= next) (step >>= other) := by
  cases step with
  | error failure => rfl
  | ok a => exact rest a rfl

theorem bind_same {step : Except ε α} {next : α → Except ε γ} {other : α → Except ε δ}
    (rest : ∀ a, step = .ok a → SameOutcome (next a) (other a)) :
    SameOutcome (step >>= next) (step >>= other) := by
  cases step with
  | error failure => rfl
  | ok a => exact rest a rfl

theorem mapM {change : α → β} {f : β → Except ε γ} {g : α → Except ε δ} {xs : List α}
    (same : ∀ x ∈ xs, SameOutcome (f (change x)) (g x)) :
    SameOutcome ((xs.map change).mapM f) (xs.mapM g) := by
  induction xs with
  | nil => rfl
  | cons x xs ih =>
    rw [List.forall_mem_cons] at same
    rw [List.map_cons, List.mapM_cons, List.mapM_cons]
    refine bind same.1 fun _ _ _ _ => ?_
    exact bind (ih same.2) fun _ _ _ _ => pure _ _

theorem isOk {first : Except ε α} {second : Except ε β} (same : SameOutcome first second)
    (succeeds : second.isOk = true) : first.isOk = true := by
  cases first with
  | error failure =>
    cases second with
    | error other => cases succeeds
    | ok b => cases same
  | ok a => rfl

end SameOutcome

end Outcomes

/-! ### Descriptors without kinds -/

/-- Changing the elements of a tree keeps its places. -/
theorem trail?_map {α β : Type} {inner : α → List α} {other : β → List β} {change : α → β}
    (sameInner : ∀ element, other (change element) = (inner element).map change) (tops : List α)
    (place : List Nat) :
    trail? other (tops.map change) place = (trail? inner tops place).map (List.map change) := by
  -- What stands inside the changed elements are the changed elements inside.
  induction place with
  | nil => rfl
  | cons position place ih =>
    rw [trail?, trail?, ih]
    cases trail? inner tops place with
    | none => rfl
    | some around =>
      have inside : insideOf other (tops.map change) (around.map change) =
          (insideOf inner tops around).map change := by
        cases around with
        | nil => rfl
        | cons element _ => exact sameInner element
      simp only [Option.map_some, bind, Option.bind_some, inside, List.getElem?_map]
      cases (insideOf inner tops around)[position]? with
      | none => rfl
      | some element => rfl

namespace Descriptor

/-- A field whose kind is left out: texts are a kind that is never packed. -/
def Field.withoutKind (field : Field) : Field :=
  { field with kind := .string }

mutual

def Message.withoutKinds : Message → Message
  | ⟨name, fields, nested, enums, oneofs, mapEntry, features⟩ =>
    ⟨name, fields.map Field.withoutKind, Message.allWithoutKinds nested, enums, oneofs, mapEntry, features⟩

def Message.allWithoutKinds : List Message → List Message
  | [] => []
  | message :: messages => message.withoutKinds :: Message.allWithoutKinds messages

end

def File.withoutKinds (file : File) : File :=
  { file with messages := Message.allWithoutKinds file.messages }

theorem Message.allWithoutKinds_eq_map (messages : List Message) :
    Message.allWithoutKinds messages = messages.map Message.withoutKinds := by
  induction messages with
  | nil => rfl
  | cons message messages ih => rw [allWithoutKinds, ih, List.map_cons]

theorem Message.withoutKinds_name (message : Message) : message.withoutKinds.name = message.name := by
  cases message
  rfl

theorem Message.withoutKinds_mapEntry (message : Message) :
    message.withoutKinds.mapEntry = message.mapEntry := by
  cases message
  rfl

theorem Message.withoutKinds_features (message : Message) :
    message.withoutKinds.features = message.features := by
  cases message
  rfl

theorem Message.withoutKinds_fields (message : Message) :
    message.withoutKinds.fields = message.fields.map Field.withoutKind := by
  cases message
  rfl

theorem Message.withoutKinds_nested (message : Message) :
    message.withoutKinds.nested = message.nested.map Message.withoutKinds := by
  cases message
  exact Message.allWithoutKinds_eq_map _

def File.fieldAt? (file : File) (place : List Nat) (position : Nat) : Option Field := do
  let trail ← trail? Message.nested file.messages place
  let message ← trail.head?
  message.fields[position]?

/-- The scopes around the fields of the message at a place, the innermost first. -/
def File.scopesAt (file : File) (place : List Nat) : List Features :=
  Schema.scopesOf file ((trail? Message.nested file.messages place).getD [])

theorem File.scopesAt_withoutKinds (file : File) (place : List Nat) :
    file.withoutKinds.scopesAt place = file.scopesAt place := by
  have sameTrail := trail?_map Message.withoutKinds_nested file.messages place
  rw [← Message.allWithoutKinds_eq_map] at sameTrail
  have sameTop : file.withoutKinds.messages = Message.allWithoutKinds file.messages := rfl
  rw [scopesAt, scopesAt, sameTop, sameTrail]
  cases trail? Message.nested file.messages place with
  | none => rfl
  | some trail =>
    simp only [Option.map_some, Option.getD_some, Schema.scopesOf, List.map_map, Function.comp_def,
      Message.withoutKinds_features]
    rfl

/-- Whether the rule of a dialect packs a repeated field of varints, given the scopes around it. -/
def Field.packsIn (dialect : Schema.Dialect) (scopes : List Features) (field : Field) : Bool :=
  match dialect with
  | .editions => Schema.effective Features.encoding .packed (field.features :: scopes) == .packed
  | .proto2 => field.packed.getD false
  | .other => field.packed.getD true

end Descriptor

namespace Schema

open Descriptor (Features)

theorem Field.load_withoutKind (dialect : Dialect) (outer : Features) (field : Descriptor.Field) :
    SameOutcome (Field.load dialect outer field.withoutKind) (Field.load dialect outer field) :=
  .bind_same fun _ _ => .bind_same fun _ _ => .bind_same fun _ _ => .bind_same fun _ _ => .pure _ _

theorem loadMember_withoutKinds (dialect : Dialect) (features : Features)
    (entries : List (String × Descriptor.Message)) (field : Descriptor.Field) :
    SameOutcome
      (loadMember dialect features (entries.map fun entry => (entry.1, entry.2.withoutKinds))
        field.withoutKind)
      (loadMember dialect features entries field) := by
  refine .bind (Field.load_withoutKind dialect features field) fun changed alone isChanged isAlone => ?_
  -- The type name decides which entry is looked up, and it stays.
  have sameType : changed.typeName.getD "" = alone.typeName.getD "" := by
    rw [Field.load_eq_ok isChanged, Field.load_eq_ok isAlone, Field.typeName_described,
      Field.typeName_described]
    rfl
  dsimp only
  rw [sameType, findRev?_edited]
  cases entries.findRev? fun entry => entry.1 = alone.typeName.getD "" with
  | none => exact .pure _ _
  | some found =>
    have sameNumber : ∀ field : Descriptor.Field, field.withoutKind.number = field.number := fun _ => rfl
    simp only [Option.map_some,
      entryParts_edited sameNumber (Descriptor.Message.withoutKinds_fields found.2)]
    refine .map_bind fun parts _ => ?_
    refine .bind (Field.load_withoutKind dialect features parts.1) fun _ _ _ _ => ?_
    exact .bind (Field.load_withoutKind dialect features parts.2) fun _ _ _ _ => .pure _ _

/-- Whether a message can be loaded does not depend on the kinds of its fields. -/
theorem Message.load_withoutKinds (dialect : Dialect) (message : Descriptor.Message) :
    ∀ outer scope, SameOutcome (Message.load dialect outer scope message.withoutKinds)
      (Message.load dialect outer scope message) := by
  induction message using Descriptor.Message.nested_induction with
  | step message ofNested =>
    intro outer scope
    obtain ⟨name, fields, nested, enums, oneofs, mapEntry, features⟩ := message
    have sameOneofs := @loadOneofs_edited Descriptor.Field.withoutKind (fun _ => rfl) (fun _ => rfl) oneofs
      fields
    rw [Descriptor.Message.withoutKinds, Message.load, Message.load,
      Descriptor.Message.allWithoutKinds_eq_map, sameOneofs]
    -- Kinds are looked at in members only, and loading a member fails for other reasons.
    refine .bind_same fun own _ => ?_
    dsimp only
    rw [entriesOf_edited Descriptor.Message.withoutKinds_name Descriptor.Message.withoutKinds_mapEntry]
    refine .map_bind fun entries _ => ?_
    refine .bind (.mapM fun field _ => loadMember_withoutKinds dialect _ entries field) fun _ _ _ _ => ?_
    refine .bind_same fun _ _ => ?_
    rw [Message.loadAll_eq_mapM, Message.loadAll_eq_mapM]
    refine .bind (.mapM fun inner isInner => ofNested inner isInner _ _) fun _ _ _ _ => ?_
    exact .bind_same fun _ _ => .pure _ _

theorem File.load_withoutKinds (file : Descriptor.File) :
    SameOutcome (File.load file.withoutKinds) (File.load file) := by
  refine .bind_same fun dialect _ => .bind_same fun package _ => .bind_same fun name _ => ?_
  refine .bind_same fun dependencies _ => .bind_same fun enums _ => ?_
  rw [Message.loadAll_eq_mapM, Message.loadAll_eq_mapM]
  have sameTop : file.withoutKinds.messages = file.messages.map Descriptor.Message.withoutKinds :=
    Descriptor.Message.allWithoutKinds_eq_map _
  rw [sameTop]
  refine .bind (.mapM fun message _ => Message.load_withoutKinds _ message _ _) fun _ _ _ _ => ?_
  exact .bind_same fun _ _ => .pure _ _

/-! ### The flag at a place -/

def File.fieldAt? (file : File) (place : List Nat) (position : Nat) : Option Field := do
  let trail ← trail? Message.nestedMessages file.messages place
  let message ← trail.head?
  message.fields[position]?

/-- Whether the field at a place is packed once the file is loaded. -/
def packedAt? (descriptor : Descriptor.File) (place : List Nat) (position : Nat) : Option Bool := do
  let file ← (File.load descriptor).toOption
  let field ← file.fieldAt? place position
  return field.packed

/-- The dialect by which a file is loaded. One that is not named is `proto2`. -/
def dialectOf (descriptor : Descriptor.File) : Dialect :=
  Dialect.ofName (if textOf descriptor.dialect = "" then "proto2" else textOf descriptor.dialect)

/-- The flag of a field comes from its own descriptor, also if the field is a map. -/
theorem IsMember.packed {dialect : Dialect} {features : Features} {full : String}
    {nested : List Descriptor.Message} {source : Descriptor.Field} {field : Field}
    (isMember : IsMember dialect features full nested source field) :
    field.packed = Field.isPacked dialect (source.features.within features) source := by
  cases isMember with
  | single _ loaded => rw [Field.load_eq_ok loaded, Field.described]
  | map _ _ loaded _ _ whole => rw [whole, Field.load_eq_ok loaded, Field.described]

/-- A field is packed if it is repeated, can be packed, and its scopes ask for it. -/
theorem Field.isPacked_eq_packsIn (dialect : Dialect) (file : Descriptor.File)
    (trail : List Descriptor.Message) (field : Descriptor.Field) :
    isPacked dialect (field.features.within (featuresAt (file.features.within Features.defaults) trail))
      field =
      (field.label == .repeated && field.kind.isPackable && field.packsIn dialect (scopesOf file trail)) := by
  have encoding := feature_at_field Features.encoding (fun _ _ => rfl) rfl field.features file trail
  cases dialect with
  | editions => simp [isPacked, Descriptor.Field.packsIn, encoding]
  | proto2 => rfl
  | other => rfl

/-- A field at a place is packed if it is repeated, of a kind that is packed, and the rule packs it. -/
theorem packedAt?_eq {descriptor : Descriptor.File} (loads : (File.load descriptor).isOk = true)
    {place : List Nat} {position : Nat} {field : Descriptor.Field}
    (isField : descriptor.fieldAt? place position = some field) :
    packedAt? descriptor place position =
      some (field.label == .repeated && field.kind.isPackable &&
        field.packsIn (dialectOf descriptor) (descriptor.scopesAt place)) := by
  obtain ⟨file, loaded⟩ := exists_ok_of_isOk loads
  obtain ⟨trail, isTrail, afterTrail⟩ := Option.bind_eq_some_iff.mp isField
  obtain ⟨source, isSource, isAt⟩ := Option.bind_eq_some_iff.mp afterTrail
  obtain ⟨around, rfl⟩ := List.head?_eq_some_iff.mp isSource
  obtain ⟨dialect, isDialect, messagesLoaded⟩ := File.load_messages loaded
  rw [text_eq_ok isDialect] at messagesLoaded
  obtain ⟨message, outside, isMessage, fromSource⟩ := Message.load_at messagesLoaded isTrail
  obtain ⟨member, isMember, loadedFrom⟩ := getElem?_of_forall₂ fromSource.members isAt
  have flag := loadedFrom.packed.trans
    (Field.isPacked_eq_packsIn (dialectOf descriptor) descriptor (source :: around) field)
  rw [Descriptor.File.scopesAt, isTrail, Option.getD_some, ← flag]
  simp [packedAt?, loaded, File.fieldAt?, isMessage, isMember, Except.toOption]

/-- A repeated enumeration is never packed. The same field declared as a 32-bit integer, in a file that may
differ in the kinds of other fields too, is packed by the rule of its dialect. So the flags are the same only
where that rule packs nothing. -/
theorem repeated_enums_never_packed {descriptor twin : Descriptor.File}
    (alike : twin.withoutKinds = descriptor.withoutKinds) (loads : (File.load descriptor).isOk = true)
    {place : List Nat} {position : Nat} {field : Descriptor.Field}
    (isField : descriptor.fieldAt? place position = some field) (isRepeated : field.label = .repeated)
    (isEnum : field.kind = .enum)
    (isTwin : twin.fieldAt? place position = some { field with kind := .int32 }) :
    let packs := field.packsIn (dialectOf descriptor) (descriptor.scopesAt place)
    packedAt? descriptor place position = some false ∧ packedAt? twin place position = some packs ∧
    (packedAt? descriptor place position = packedAt? twin place position ↔ packs = false) := by
  intro packs
  have sameDialect : twin.dialect = descriptor.dialect := by
    change twin.withoutKinds.dialect = descriptor.withoutKinds.dialect
    rw [alike]
  have sameScopes : twin.scopesAt place = descriptor.scopesAt place := by
    rw [← twin.scopesAt_withoutKinds, alike, descriptor.scopesAt_withoutKinds]
  -- The twin loads as well, since both are alike but for the kinds.
  have twinLoads : (File.load twin).isOk = true := by
    refine (File.load_withoutKinds twin).symm.isOk ?_
    rw [alike]
    exact (File.load_withoutKinds descriptor).isOk loads
  have own : packedAt? descriptor place position = some false := by
    rw [packedAt?_eq loads isField, isEnum]
    simp [Kind.isPackable, Kind.isScalar]
  have other : packedAt? twin place position = some packs := by
    rw [packedAt?_eq twinLoads isTwin, sameScopes, dialectOf, sameDialect, isRepeated]
    simp [Kind.isPackable, Kind.isScalar, packs, dialectOf, Descriptor.Field.packsIn]
  refine ⟨own, other, ?_⟩
  rw [own, other, Option.some.injEq, eq_comm]

/-- A repeated field of a given kind, declared in a message within another that has the given features. -/
def signals (dialect : String) (features : Features) (kind : Kind) : Descriptor.File :=
  { name := Wire.encodeText "signals.proto"
    dialect := Wire.encodeText dialect
    enums := [{ name := Wire.encodeText "Flag", values := [{ name := Wire.encodeText "NONE" }] }]
    messages :=
      [{ name := Wire.encodeText "Mast"
         features
         nested :=
           [{ name := Wire.encodeText "Line"
              fields :=
                [{ name := Wire.encodeText "flags", number := 1, label := .repeated, kind
                   typeName := Wire.encodeText ".Flag" }] }] }] }

/-- In editions both flags are off where a message around the field says so. -/
theorem enum_flag_within_expanded_mast :
    (File.load (signals "editions" { encoding := some .expanded } .enum)).isOk = true ∧
    packedAt? (signals "editions" { encoding := some .expanded } .enum) [0, 0] 0 =
      packedAt? (signals "editions" { encoding := some .expanded } .int32) [0, 0] 0 := by
  have loads : (File.load (signals "editions" { encoding := some .expanded } .enum)).isOk = true := by
    decide +kernel
  have alike : (signals "editions" { encoding := some .expanded } .int32).withoutKinds =
      (signals "editions" { encoding := some .expanded } .enum).withoutKinds := rfl
  have isField : (signals "editions" { encoding := some .expanded } .enum).fieldAt? [0, 0] 0 = some _ := rfl
  have flags := repeated_enums_never_packed alike loads isField rfl rfl rfl
  exact ⟨loads, flags.2.2.mpr (by decide +kernel)⟩

/-- Where packing is the rule, the enumeration is left out. -/
theorem enum_flag_differs_from_integer :
    packedAt? (signals "proto3" {} .enum) [0, 0] 0 = some false ∧
    packedAt? (signals "proto3" {} .int32) [0, 0] 0 = some true := by
  constructor <;> decide +kernel

end Schema

end Typewire
