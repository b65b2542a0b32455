import Typewire.Error
import Typewire.Text.Template

/-!
# File names of the generated code

The extension of a file name is its last dot with what follows, provided that something follows and
that it lies in the last component. The output of a schema file has `.ts` in place of the extension.
-/
namespace Typewire.Path

def isExtensionChar (c : Char) : Bool :=
  c != '.' && c != '/'

/-- The part before the extension, from the characters of a file name in reverse. -/
def stemOfReversed (reversed : List Char) : Option (List Char) :=
  match reversed.takeWhile isExtensionChar, reversed.dropWhile isExtensionChar with
  | _ :: _, '.' :: stem => some stem.reverse
  | _, _ => none

/-- The part of a file name before its extension, if it has one. -/
def stem? (fileName : String) : Option String :=
  (stemOfReversed fileName.toList.reverse).map String.ofList

def outputExtension : String := ".ts"

/-- A file name with another extension in place of its own; a name without one stays. -/
def replaceExtension (fileName extension : String) : String :=
  match stem? fileName with
  | some stem => stem ++ extension
  | none => fileName

/-- A file name with the text of a template in place of its extension. The template must be sound even
if the name has no extension. -/
def substituteExtension (fileName template : String) : Except Error String := do
  let parts ← match Text.Template.parts template with
    | .ok parts => pure parts
    | .error fault => throw (.badTemplate fault)
  match stem? fileName with
  | some stem => return stem ++ Text.Template.expand parts (String.ofList (fileName.toList.drop stem.length))
  | none => return fileName

def outputName (fileName : String) : String :=
  (stem? fileName).getD fileName ++ outputExtension

end Typewire.Path
