import Mathlib.Data.List.Nodup
import Mathlib.Data.List.Pairwise
import Typewire.Proofs.DottedNames
import Typewire.Symbol.Context

/-!
# Scopes of a schema file

The types of a file form a tree of scopes: the top of the file and the inside of every message that is
no map entry. `File.HasScope` lists them with what each declares. A set of files is well named when file
names and full names of types are distinct and declared names are plain; a schema compiler guarantees it.
-/
namespace Typewire.Schema

/-- What holds of a message as soon as it holds of the messages nested in it holds of all messages. -/
theorem Message.nested_induction {P : Message → Prop}
    (step : ∀ message : Message, (∀ nested ∈ message.nestedMessages, P nested) → P message)
    (message : Message) : P message :=
  step message fun nested _ => Message.nested_induction step nested
termination_by sizeOf message
decreasing_by
  rename_i member
  have smaller := List.sizeOf_lt_of_mem member
  cases message
  simp only [Message.mk.sizeOf_spec] at smaller ⊢
  omega

/-! ### Declared types -/

/-- A declared type: the full name around it and its own name. -/
structure TypeName where
  scope : String
  name : String
  deriving Repr, DecidableEq

def TypeName.full (type : TypeName) : String :=
  fullName type.scope type.name

def Enum.typeNames (scope : String) (enums : List Enum) : List TypeName :=
  enums.map fun enum => ⟨scope, enum.name⟩

mutual

/-- A message and all types inside it, map entries included. -/
def Message.typeNames (scope : String) : Message → List TypeName
  | ⟨name, _, nestedMessages, nestedEnums, _, _⟩ =>
    ⟨scope, name⟩ :: (Enum.typeNames (fullName scope name) nestedEnums ++
      Message.allTypeNames (fullName scope name) nestedMessages)

/-- The messages of a scope and all types inside them. -/
def Message.allTypeNames (scope : String) : List Message → List TypeName
  | [] => []
  | message :: messages => message.typeNames scope ++ Message.allTypeNames scope messages

end

/-- All types that are declared in a scope or inside its messages. -/
def scopeTypeNames (scope : String) (enums : List Enum) (messages : List Message) : List TypeName :=
  Enum.typeNames scope enums ++ Message.allTypeNames scope messages

def File.typeNames (file : File) : List TypeName :=
  scopeTypeNames file.scope file.enums file.messages

def File.fullNames (file : File) : List String :=
  file.typeNames.map TypeName.full

/-- Files whose names and types can be told apart and whose types have plain names. -/
structure WellNamed (files : List File) : Prop where
  distinctFiles : (files.map File.name).Nodup
  distinctTypes : (files.flatMap File.fullNames).Nodup
  plainNames : ∀ file ∈ files, ∀ type ∈ file.typeNames, Text.IsPlain type.name

instance (files : List File) : Decidable (WellNamed files) :=
  decidable_of_iff
    ((files.map File.name).Nodup ∧ (files.flatMap File.fullNames).Nodup ∧
      ∀ file ∈ files, ∀ type ∈ file.typeNames, Text.IsPlain type.name)
    ⟨fun ⟨names, types, plain⟩ => ⟨names, types, plain⟩,
      fun named => ⟨named.distinctFiles, named.distinctTypes, named.plainNames⟩⟩

theorem Message.typeNames_eq (scope : String) (message : Message) :
    message.typeNames scope = ⟨scope, message.name⟩ ::
      scopeTypeNames (fullName scope message.name) message.nestedEnums message.nestedMessages := by
  cases message
  rfl

theorem Message.allTypeNames_eq_flatMap (scope : String) (messages : List Message) :
    Message.allTypeNames scope messages = messages.flatMap (Message.typeNames scope) := by
  induction messages with
  | nil => rfl
  | cons message messages ih => rw [allTypeNames, ih, List.flatMap_cons]

theorem enum_mem_scopeTypeNames (scope : String) {enums : List Enum} (messages : List Message)
    {enum : Enum} (member : enum ∈ enums) :
    ⟨scope, enum.name⟩ ∈ scopeTypeNames scope enums messages :=
  List.mem_append_left _ (List.mem_map.mpr ⟨enum, member, rfl⟩)

/-- A message of a scope and everything inside it are among the types of the scope. -/
theorem message_subset_scopeTypeNames (scope : String) (enums : List Enum) {messages : List Message}
    {message : Message} (member : message ∈ messages) :
    message.typeNames scope ⊆ scopeTypeNames scope enums messages := by
  intro type inside
  apply List.mem_append_right
  rw [Message.allTypeNames_eq_flatMap]
  exact List.mem_flatMap.mpr ⟨message, member, inside⟩

/-- All names declared in a scope and inside its messages are plain. -/
def PlainScope (scope : String) (enums : List Enum) (messages : List Message) : Prop :=
  ∀ type ∈ scopeTypeNames scope enums messages, Text.IsPlain type.name

namespace PlainScope

variable {scope : String} {enums : List Enum} {messages : List Message}

theorem enum (plain : PlainScope scope enums messages) {enum : Enum} (member : enum ∈ enums) :
    Text.IsPlain enum.name :=
  plain _ (enum_mem_scopeTypeNames scope messages member)

theorem message (plain : PlainScope scope enums messages) {message : Message}
    (member : message ∈ messages) : Text.IsPlain message.name := by
  have inside := message_subset_scopeTypeNames scope enums member
  rw [Message.typeNames_eq] at inside
  exact plain ⟨scope, message.name⟩ (inside List.mem_cons_self)

/-- Names inside a message of a plain scope are plain. -/
theorem inside (plain : PlainScope scope enums messages) {message : Message}
    (member : message ∈ messages) :
    PlainScope (fullName scope message.name) message.nestedEnums message.nestedMessages := by
  intro type nested
  apply plain
  apply message_subset_scopeTypeNames scope enums member
  rw [Message.typeNames_eq]
  exact List.mem_cons_of_mem _ nested

end PlainScope

/-- In well-named files a full name belongs to one file. -/
theorem WellNamed.file_eq {files : List File} (named : WellNamed files) {first second : File}
    (firstMember : first ∈ files) (secondMember : second ∈ files) {full : String}
    (inFirst : full ∈ first.fullNames) (inSecond : full ∈ second.fullNames) : first = second := by
  -- Two different files share no full name.
  by_contra differ
  have apart := (List.nodup_flatMap.mp named.distinctTypes).2
  have symmetric : Std.Symm (Function.onFun List.Disjoint File.fullNames) :=
    ⟨fun _ _ disjoint _ inSecond inFirst => disjoint inFirst inSecond⟩
  exact apart.forall firstMember secondMember differ inFirst inSecond

/-- The types of one file have distinct full names. -/
theorem WellNamed.fullNames_nodup {files : List File} (named : WellNamed files) {file : File}
    (member : file ∈ files) : file.fullNames.Nodup :=
  (List.nodup_flatMap.mp named.distinctTypes).1 file member

theorem WellNamed.eq_of_name_eq {files : List File} (named : WellNamed files) {first second : File}
    (firstMember : first ∈ files) (secondMember : second ∈ files)
    (equal : first.name = second.name) : first = second :=
  List.inj_on_of_nodup_map named.distinctFiles firstMember secondMember equal

/-! ### Scopes -/

/-- A scope of a file: its full name, its enumerations and its messages. -/
inductive File.HasScope (file : File) : String → List Enum → List Message → Prop where
  | top : file.HasScope file.scope file.enums file.messages
  | inside {scope : String} {enums : List Enum} {messages : List Message} {message : Message}
      (outer : file.HasScope scope enums messages) (member : message ∈ messages)
      (declared : message.mapEntry = false) :
      file.HasScope (fullName scope message.name) message.nestedEnums message.nestedMessages

namespace File.HasScope

variable {file : File} {scope : String} {enums : List Enum} {messages : List Message}

theorem plain (has : file.HasScope scope enums messages)
    (filePlain : ∀ type ∈ file.typeNames, Text.IsPlain type.name) :
    PlainScope scope enums messages := by
  induction has with
  | top => exact filePlain
  | inside _ member _ ih => exact ih.inside member

/-- Every scope of a file extends the scope of its top. -/
theorem length_le (has : file.HasScope scope enums messages) :
    file.scope.length ≤ scope.length := by
  induction has with
  | top => exact Nat.le_refl _
  | inside outer member declared ih =>
    simp only [fullName, String.length_append]
    omega

end File.HasScope

/-- A message that is no map entry, under its full name. -/
def File.Declares (file : File) (full : String) (message : Message) : Prop :=
  ∃ scope enums messages, file.HasScope scope enums messages ∧ message ∈ messages ∧
    message.mapEntry = false ∧ full = fullName scope message.name

end Typewire.Schema

namespace Typewire.Context

open Schema (Enum File Message fullName)

variable {context : Context} {scope : String} {enums : List Enum} {messages : List Message}

/-- No message is around the top of the file. -/
theorem enclosingMessages_top (context : Context) :
    context.enclosingMessages context.file.scope = [] := by
  obtain ⟨others, around⟩ := Text.enclosing_eq_cons context.file.scope
  simp [enclosingMessages, around]

theorem enclosingMessages_empty (context : Context) : context.enclosingMessages "" = [] := by
  obtain ⟨others, around⟩ := Text.enclosing_eq_cons ""
  simp [enclosingMessages, around]

/-- Around a name inside a scope are the name itself and what is around the scope, as soon as the scope
reaches as far as that of the file. -/
theorem enclosingMessages_fullName (covers : context.file.scope.length ≤ scope.length) {name : String}
    (dotFree : '.' ∉ name.toList) :
    context.enclosingMessages (fullName scope name) =
      fullName scope name :: context.enclosingMessages scope := by
  -- The full name is longer than the scope of the file, so it is not where the walk ends.
  have longer : context.file.scope.length < (fullName scope name).length := by
    have dot : ".".length = 1 := rfl
    simp only [fullName, String.length_append, dot]
    omega
  have notEmpty : fullName scope name ≠ "" := by
    intro empty
    simp [empty] at longer
  have notTop : fullName scope name ≠ context.file.scope := by
    intro equal
    simp [equal] at longer
  have around : Text.enclosing (fullName scope name) = fullName scope name :: Text.enclosing scope :=
    Text.enclosing_append_dot dotFree
  simp [enclosingMessages, around, notEmpty, notTop]

/-- Around the inside of a message are the message itself and what is around it. -/
theorem enclosingMessages_inside (has : context.file.HasScope scope enums messages)
    {message : Message} (plain : Text.IsPlain message.name) :
    context.enclosingMessages (fullName scope message.name) =
      fullName scope message.name :: context.enclosingMessages scope :=
  enclosingMessages_fullName has.length_le plain.2

end Typewire.Context
