import Typewire.Error
import Typewire.Symbol.Basic

/-!
# The symbol table

All files of a request with their symbols. Of two types of one full name the later one counts, and of
two files of one name the later file.
-/
namespace Typewire

/-- A file and its symbols. -/
structure FileSymbols where
  file : Schema.File
  symbols : List Symbol
  deriving Inhabited

namespace FileSymbols

def ofFile (file : Schema.File) : FileSymbols :=
  { file, symbols := Symbol.ofFile file }

def lookup? (entry : FileSymbols) (fullName : String) : Option Symbol :=
  entry.symbols.findRev? fun symbol => symbol.fullName = fullName

/-- The names inside a message of the file. -/
def children? (entry : FileSymbols) (fullName : String) : Option (List String) :=
  entry.symbols.findSomeRev? fun symbol =>
    if symbol.fullName = fullName then symbol.children? else none

/-- The names declared at the top of the file. -/
def topLevel (entry : FileSymbols) : List String :=
  (entry.file.enums.map (·.name) ++ entry.file.messages.map (·.name)).filterMap fun name =>
    (entry.lookup? (Schema.fullName entry.file.scope name)).map (·.localPath)

/-- The names declared inside the messages of the file. -/
def nested (entry : FileSymbols) : List String :=
  entry.symbols.flatMap fun symbol => symbol.children?.getD []

end FileSymbols

/-- The types of all files of a request. -/
structure SymbolTable where
  files : List FileSymbols := []
  deriving Inhabited

namespace SymbolTable

def ofFiles (files : List Schema.File) : SymbolTable :=
  { files := files.map FileSymbols.ofFile }

def file? (table : SymbolTable) (fileName : String) : Option FileSymbols :=
  table.files.findRev? fun entry => entry.file.name = fileName

def lookup? (table : SymbolTable) (fullName : String) : Option Symbol :=
  table.files.findSomeRev? fun entry => entry.lookup? fullName

/-- Whether some file declares a full name. -/
def contains (table : SymbolTable) (fullName : String) : Bool :=
  (table.lookup? fullName).isSome

/-- The symbol of a full name that must exist. -/
def lookup (table : SymbolTable) (fullName : String) : Except Error Symbol :=
  match table.lookup? fullName with
  | some symbol => .ok symbol
  | none => .error (.unresolvedType fullName)

def topLevel (table : SymbolTable) (fileName : String) : List String :=
  ((table.file? fileName).map (·.topLevel)).getD []

def nested (table : SymbolTable) (fileName : String) : List String :=
  ((table.file? fileName).map (·.nested)).getD []

/-- The names declared directly inside a message. -/
def children (table : SymbolTable) (fullName : String) : List String :=
  (table.files.findSomeRev? fun entry => entry.children? fullName).getD []

end SymbolTable

end Typewire
