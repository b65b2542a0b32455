import Typewire.Schema.Kind
import Typewire.Version

/-!
# Schemas

The types of a set of files after everything that a descriptor leaves implicit has been settled:
presence, packing, map fields and the oneofs that stand for a single optional field.
Type references are full names with a leading dot.
-/
namespace Typewire.Schema

/-- How many values a field holds. -/
inductive Cardinality where
  | singular
  | repeated
  /-- At most one among the members of a oneof. -/
  | oneof
  deriving Repr, DecidableEq, Inhabited

/-- A field of a message. A map field has the key and the value of its entries. -/
structure Field where
  name : String
  number : Int
  cardinality : Cardinality
  kind : Kind
  typeName : Option String := none
  oneofIndex : Option Int := none
  jsonName : Option String := none
  packed : Bool := false
  /-- Marked `optional` in a dialect where that is not the rule. -/
  isOptional : Bool := false
  /-- Whether it can be told if a single scalar was set. -/
  explicitPresence : Bool := false
  defaultValue : Option String := none
  mapKey : Option Field := none
  mapValue : Option Field := none
  deriving Repr, Inhabited

namespace Field

def isMap (field : Field) : Bool :=
  field.mapKey.isSome

def isRepeated (field : Field) : Bool :=
  field.cardinality == .repeated

end Field

/-- A group of fields of which one at most is set. A synthetic one stands for a single optional
field. -/
structure Oneof where
  name : String
  synthetic : Bool := false
  deriving Repr, DecidableEq, Inhabited

structure EnumValue where
  name : String
  number : Int
  deriving Repr, DecidableEq, Inhabited

/-- An enumeration. Its first constant is its default. -/
structure Enum where
  name : String
  values : List EnumValue := []
  deriving Repr, DecidableEq, Inhabited

/-- A message and the types declared inside it. -/
structure Message where
  name : String
  fields : List Field := []
  nestedMessages : List Message := []
  nestedEnums : List Enum := []
  oneofs : List Oneof := []
  /-- Whether it is the implicit entry type of a map field. -/
  mapEntry : Bool := false
  deriving Repr, Inhabited

structure Method where
  name : String
  inputType : String
  outputType : String
  clientStreaming : Bool := false
  serverStreaming : Bool := false
  deriving Repr, DecidableEq, Inhabited

structure Service where
  name : String
  methods : List Method := []
  deriving Repr, DecidableEq, Inhabited

structure File where
  name : String
  package : Option String := none
  dependencies : List String := []
  /-- Positions among the dependencies of those that are passed on. -/
  publicDependencies : List Int := []
  enums : List Enum := []
  messages : List Message := []
  services : List Service := []
  dialect : String := "proto2"
  deriving Repr, Inhabited

namespace File

/-- The package, unless it is empty. -/
def package? (file : File) : Option String :=
  file.package.filter (· ≠ "")

/-- The full name that encloses the types at the top of the file. -/
def scope (file : File) : String :=
  match file.package? with
  | some package => "." ++ package
  | none => ""

end File

/-- Everything that one run needs. -/
structure Request where
  files : List File := []
  parameter : String := ""
  compilerVersion : Version := {}
  filesToGenerate : List String := []
  deriving Repr, Inhabited

/-- The full name of a type declared in a scope. -/
def fullName (scope name : String) : String :=
  scope ++ "." ++ name

end Typewire.Schema
