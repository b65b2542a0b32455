import Typewire.Symbol.References
import Typewire.Symbol.Table

/-!
# Names at the top of a generated file

A generated file imports the runtime, the RPC framework and the outputs of other files, each under a
fresh name. The other files are the declared dependencies in order, then those that are reached only
through a public import, in the order of first mention. A type at the top whose name is used again
inside a message gets a second name, so that code in there can still reach it.

All these names avoid every declaration of the file, nested ones included, and the first segment of
its package.
-/
namespace Typewire

open Schema (File)

/-- The names that one generated file uses for other modules and for shadowed types. -/
structure Imports where
  fileName : String
  /-- The name of the message runtime. -/
  runtime : String
  /-- The name of the RPC framework. -/
  rpc : String
  /-- The names of the other files. -/
  files : OrderedMap String String := []
  /-- The second names of types at the top of the file. -/
  roots : OrderedMap String String := []
  /-- All names taken at the top of the file. -/
  pool : NamePool := {}
  deriving Repr, Inhabited

namespace Imports

/-- Gives a name to a file that has none yet. -/
def nameFile (state : OrderedMap String String × NamePool) (fileName : String) :
    OrderedMap String String × NamePool :=
  let (files, pool) := state
  match files.get? fileName with
  | some _ => state
  | none =>
    let (name, pool) := pool.allocate "dependency"
    (files ++ [(fileName, name)], pool)

/-- Gives a second name to a type at the top of the file. -/
def nameRoot (state : OrderedMap String String × NamePool) (root : String) :
    OrderedMap String String × NamePool :=
  let (roots, pool) := state
  let (name, pool) := pool.allocate root
  (roots ++ [(root, name)], pool)

/-- The names that imports must avoid. -/
def reserved (table : SymbolTable) (file : File) : List String :=
  table.topLevel file.name ++ table.nested file.name ++
    match file.package? with
    | some package => [Name.legalize (Text.firstSegment package)]
    | none => []

/-- The names at the top of the file that are used again inside a message, in ascending order. -/
def shadowedRoots (table : SymbolTable) (file : File) : List String :=
  let nested := table.nested file.name
  ((table.topLevel file.name).eraseDups.filter nested.contains).mergeSort fun a b => decide (a ≤ b)

/-- The files outside a file that declare the types it mentions. -/
def mentionedFiles (table : SymbolTable) (file : File) : Except Error (List String) := do
  let symbols ← file.references.mapM table.lookup
  return (symbols.map (·.fileName)).filter (· ≠ file.name)

/-- Chooses the names of one file. It fails at the first mention of a type that nobody declares. -/
def resolve (table : SymbolTable) (file : File) : Except Error Imports := do
  let (runtime, pool) := (NamePool.reserving (reserved table file)).allocate "pb"
  let (rpc, pool) := pool.allocate "grpc"
  let mentioned ← mentionedFiles table file
  let (files, pool) := (file.dependencies ++ mentioned).foldl nameFile ([], pool)
  let (roots, pool) := (shadowedRoots table file).foldl nameRoot ([], pool)
  return { fileName := file.name, runtime, rpc, files, roots, pool }

def nameOf (imports : Imports) (dependency : String) : Except Error String :=
  match imports.files.get? dependency with
  | some name => .ok name
  | none => .error (.notImported imports.fileName dependency)

end Imports

end Typewire
