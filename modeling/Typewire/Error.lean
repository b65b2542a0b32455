import Typewire.Schema.Kind
import Typewire.Text.Integer
import Typewire.Text.Template

/-!
# What can go wrong

Every failure is a cause with the data it speaks of. `message` gives the one wording of each cause and
`category` the part of the input that is to blame.
-/
namespace Typewire

/-- A reason for which a request cannot be served. -/
inductive Error where
  /-- The parameter text does not follow its grammar. -/
  | malformedParameter (text : String)
  /-- The parameter text selects no style. -/
  | missingStyle
  /-- An empty style name was looked up. -/
  | noStyleSelected
  /-- No style has this name. -/
  | unknownStyle (name : String)
  /-- The bytes are no compile request. -/
  | undecodableRequest
  /-- The bytes are no descriptor set. -/
  | undecodableSet
  /-- The bytes are no descriptor of the expected sort. -/
  | undecodableDescriptor
  /-- A map entry has a number of fields other than two. -/
  | entryFieldCount (typeName : String)
  /-- The fields of a map entry are not numbered one and two. -/
  | entryNumbering (typeName : String)
  /-- No file declares this type. -/
  | unresolvedType (typeName : String)
  /-- A type lives in a file that has no alias. -/
  | notImported (fileName dependency : String)
  /-- A map entry is used as a type. -/
  | entryReference (typeName : String)
  /-- A field of this kind needs a type and names none. -/
  | missingTypeName (field : String) (kind : Kind)
  /-- A field belongs to a oneof that its message does not declare. -/
  | oneofOutOfRange (field : String) (index : Int) (declared : Nat)
  /-- A shadowed name has no alias at the top of the file. -/
  | missingRootAlias (name : String)
  /-- The module to import has no name. -/
  | emptyPath
  /-- The text is no compiler version. -/
  | malformedVersion (text : String)
  /-- A text is no number. -/
  | badNumber (fault : Text.NumberFault)
  /-- A text of a descriptor has bytes that encode no text. -/
  | undecodableText
  /-- A replacement template is unsound. -/
  | badTemplate (fault : Text.TemplateFault)
  deriving Repr, DecidableEq

namespace Error

/-- The part of the input that a failure blames. -/
inductive Category where
  /-- The parameters of the generator. -/
  | configuration
  /-- The schema. -/
  | schema
  /-- The bytes of a single descriptor. -/
  | encoding
  /-- The alias table of a file. -/
  | lookup
  /-- A value that has the right form and is out of bounds. -/
  | value
  /-- An argument of the command line. -/
  | argument
  /-- The bytes of a text. -/
  | text
  /-- A replacement template. -/
  | template
  /-- A name that a replacement template refers to. -/
  | reference
  deriving Repr, DecidableEq

def category : Error → Category
  | malformedParameter _ | missingStyle | noStyleSelected | unknownStyle _ => .configuration
  | undecodableRequest | undecodableSet | entryFieldCount _ | entryNumbering _ | unresolvedType _
  | notImported _ _ | entryReference _ | missingTypeName _ _ | oneofOutOfRange _ _ _ => .schema
  | undecodableDescriptor => .encoding
  | missingRootAlias _ => .lookup
  | emptyPath | badNumber _ => .value
  | malformedVersion _ => .argument
  | undecodableText => .text
  | badTemplate .badEscape => .template
  | badTemplate .unknownGroup => .reference

/-- Failures that the command line reports as such, instead of breaking off. -/
def isReportable (error : Error) : Bool :=
  error.category == .configuration || error.category == .schema

def message : Error → String
  | malformedParameter text => "Malformed parameter string " ++ Text.quoted text
  | missingStyle => "Missing required option 'style'"
  | noStyleSelected => "No style selected"
  | unknownStyle name =>
    "Unknown style " ++ Text.quoted name ++ " (known styles: grpc-js, grpc-web, none)"
  | undecodableRequest => "Could not decode CodeGeneratorRequest"
  | undecodableSet => "Could not decode FileDescriptorSet"
  | undecodableDescriptor => ""
  | entryFieldCount typeName => "Map entry " ++ typeName ++ " must have exactly two fields"
  | entryNumbering typeName => "Map entry " ++ typeName ++ " must number key=1, value=2"
  | unresolvedType typeName => "Unresolved type reference " ++ typeName
  | notImported fileName dependency =>
    fileName ++ " references " ++ dependency ++ " without importing it"
  | entryReference typeName => typeName ++ " is a map entry and cannot be referenced directly"
  | missingTypeName field kind =>
    "Field " ++ field ++ " of kind " ++ kind.name ++ " has no type reference"
  | oneofOutOfRange field index declared =>
    "Field " ++ field ++ " references oneof " ++ toString index ++ ", but the message declares " ++
      toString declared
  | missingRootAlias name => Text.quoted name
  | emptyPath => "no path specified"
  | malformedVersion text => "expected MAJOR.MINOR.PATCH, got " ++ Text.quoted text
  | badNumber fault => fault.message
  | undecodableText | badTemplate _ => ""

end Error

end Typewire
