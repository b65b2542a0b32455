import Typewire.Schema.Basic

/-!
# Type references of a file

Every type that the fields and methods of a file mention, in the order of declaration. A map field
mentions the type of its values; map entries themselves are left out.
-/
namespace Typewire.Schema

/-- The type that a field mentions. -/
def Field.reference? (field : Field) : Option String :=
  let mentioned := match field.mapValue with
    | some value => value.typeName
    | none => field.typeName
  mentioned.filter (· ≠ "")

mutual

/-- The types that a message mentions, then those of the messages nested in it. -/
def Message.references : Message → List String
  | ⟨_, fields, nestedMessages, _, _, mapEntry⟩ =>
    if mapEntry then [] else fields.filterMap Field.reference? ++ Message.allReferences nestedMessages

def Message.allReferences : List Message → List String
  | [] => []
  | message :: messages => message.references ++ Message.allReferences messages

end

def Service.references (service : Service) : List String :=
  service.methods.flatMap fun method => [method.inputType, method.outputType]

/-- The types that a file mentions. -/
def File.references (file : File) : List String :=
  Message.allReferences file.messages ++ file.services.flatMap Service.references

end Typewire.Schema
