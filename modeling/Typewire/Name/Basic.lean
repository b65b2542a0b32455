import Typewire.Text.Dotted

/-!
# Identifiers of the generated code

A schema may use any name. `legalize` moves a name out of the way of reserved words and of the
globals that generated code relies on; `memberName` keeps a field clear of the methods of its class.
-/
namespace Typewire.Name

/-- Words that cannot name a declaration. -/
def reservedWords : List String :=
  ["break", "case", "catch", "class", "const", "continue", "debugger", "default", "delete", "do",
   "else", "enum", "export", "extends", "false", "finally", "for", "function", "if", "implements",
   "import", "in", "instanceof", "interface", "let", "new", "null", "package", "private",
   "protected", "public", "return", "static", "super", "switch", "this", "throw", "true", "try",
   "typeof", "var", "void", "while", "with", "yield"]

/-- Globals that generated code refers to. -/
def generatedGlobals : List String :=
  ["Array", "Buffer", "Map", "Object", "Promise", "ReturnType", "Uint8Array"]

/-- Members that every message class has. -/
def messageMembers : List String :=
  ["clone", "cloneMessage", "constructor", "getExtension", "getJsPbMessageId", "serialize",
   "serializeBinary", "setExtension", "toArray", "toObject", "toString"]

/-- Whether a name can be declared as it is. -/
def isLegal (name : String) : Bool :=
  !reservedWords.contains name && !generatedGlobals.contains name

/-- The identifier under which a name is declared. -/
def legalize (name : String) : String :=
  if isLegal name then name else name ++ "_"

/-- The accessor of a field or oneof in its class. -/
def memberName (name : String) : String :=
  if messageMembers.contains name then name ++ "_" else name

/-- The namespace of a package, each segment made legal on its own. -/
def namespacePath (package : String) : String :=
  Text.joinDots ((Text.segments package).map legalize)

theorem legalize_of_isLegal {name : String} (legal : isLegal name = true) :
    legalize name = name := by
  simp [legalize, legal]

end Typewire.Name
