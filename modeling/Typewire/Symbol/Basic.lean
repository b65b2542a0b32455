import Typewire.Name.Pool
import Typewire.Schema.Basic

/-!
# Symbols

Where each type of a file is declared in the generated code and what it is called there. The types of
one scope share a pool of names, enumerations first; a map entry is recorded but takes no name, since
nothing is declared for it.
-/
namespace Typewire

open Schema (Enum Message fullName)

/-- What a symbol stands for. -/
inductive SymbolKind where
  /-- A message, with the names declared directly inside it. -/
  | message (children : List String)
  /-- The entry type of a map field. -/
  | mapEntry
  /-- An enumeration, with its first constant. -/
  | enum (firstMember : Option String)
  deriving Repr, DecidableEq, Inhabited

/-- A type of the schema. -/
structure Symbol where
  /-- The name in the schema, with a leading dot. -/
  fullName : String
  /-- The file that declares it. -/
  fileName : String
  /-- The dotted path in the generated code, from the top of the file. -/
  localPath : String
  kind : SymbolKind
  deriving Repr, DecidableEq, Inhabited

namespace Symbol

def isMapEntry (symbol : Symbol) : Bool :=
  symbol.kind == .mapEntry

/-- The names inside a message. -/
def children? (symbol : Symbol) : Option (List String) :=
  match symbol.kind with
  | .message children => some children
  | _ => none

/-- The constant that an enumeration defaults to. -/
def firstMember? (symbol : Symbol) : Option String :=
  match symbol.kind with
  | .enum first => first
  | _ => none

/-- The name under which the type is declared in its scope. -/
def declaredName (symbol : Symbol) : String :=
  Text.lastSegment symbol.localPath

/-- A place where types are declared: the file, the enclosing full name and the enclosing path. -/
structure Site where
  fileName : String
  scope : String
  path : String

/-- The path of a name declared at a site. -/
def Site.pathOf (site : Site) (name : String) : String :=
  if site.path = "" then name else site.path ++ "." ++ name

/-- The symbols found at a site. -/
structure Found where
  /-- The names declared directly at the site. -/
  names : List String
  /-- The types at every depth, outer ones first. -/
  symbols : List Symbol
  /-- The names of the site, with those that were taken for the types. -/
  pool : NamePool

def ofEnums (site : Site) (pool : NamePool) : List Enum → Found
  | [] => { names := [], symbols := [], pool }
  | enum :: enums =>
    let (name, pool) := pool.claim enum.name
    let others := ofEnums site pool enums
    let symbol : Symbol := {
      fullName := Schema.fullName site.scope enum.name
      fileName := site.fileName
      localPath := site.pathOf name
      kind := .enum (enum.values.head?.map (·.name)) }
    { names := name :: others.names, symbols := symbol :: others.symbols, pool := others.pool }

mutual

/-- The symbols of a message and of everything nested in it. -/
def ofMessage (site : Site) (pool : NamePool) : Message → Found
  | ⟨name, _, nestedMessages, nestedEnums, _, mapEntry⟩ =>
    let full := Schema.fullName site.scope name
    if mapEntry then
      let symbol : Symbol := {
        fullName := full, fileName := site.fileName, localPath := "", kind := .mapEntry }
      { names := [], symbols := [symbol], pool }
    else
      let (given, pool) := pool.claim name
      let path := site.pathOf given
      let inside : Site := { fileName := site.fileName, scope := full, path }
      let enums := ofEnums inside {} nestedEnums
      let messages := ofMessages inside enums.pool nestedMessages
      let symbol : Symbol := {
        fullName := full
        fileName := site.fileName
        localPath := path
        kind := .message (enums.names ++ messages.names) }
      { names := [given], symbols := symbol :: (enums.symbols ++ messages.symbols), pool }

def ofMessages (site : Site) (pool : NamePool) : List Message → Found
  | [] => { names := [], symbols := [], pool }
  | message :: messages =>
    let first := ofMessage site pool message
    let others := ofMessages site first.pool messages
    { names := first.names ++ others.names
      symbols := first.symbols ++ others.symbols
      pool := others.pool }

end

def ofFile (file : Schema.File) : List Symbol :=
  let top : Site := { fileName := file.name, scope := file.scope, path := "" }
  let enums := ofEnums top {} file.enums
  enums.symbols ++ (ofMessages top enums.pool file.messages).symbols

end Symbol

end Typewire
