import Typewire.Wire.Encode

/-!
# Responses

The generated files as the schema compiler reads them back: the supported features, then the files,
each with its name and its content.
-/
namespace Typewire

structure GeneratedFile where
  name : String
  content : String
  deriving Repr, DecidableEq, Inhabited

namespace Response

/-- The feature bit that says that optional fields are understood. -/
def optionalFieldsFeature : Nat := 1

def encodeFile (file : GeneratedFile) : Wire.Bytes :=
  Wire.writeTextField 1 file.name ++ Wire.writeTextField 15 file.content

def encode (files : List GeneratedFile) : Wire.Bytes :=
  Wire.writeWordField 2 optionalFieldsFeature ++
    files.flatMap fun file => Wire.writeBytesField 15 (encodeFile file)

end Response

end Typewire
