import Typewire.Code.Render
import Typewire.Code.Types
import Typewire.Path.Relative
import Typewire.Response
import Typewire.Rpc.Service
import Typewire.Schema.Load

/-!
# From requests to generated files

Options, style and symbols are settled before any file is generated. A file then declares its types,
its services and the second names that its types used, in this order, and is wrapped in the namespace
of its package if the style says so.
-/
namespace Typewire

open Schema (File Request)
open Code (Declaration Import)
open Rpc (Warning)

/-- What is common to all files of a run. -/
structure Generator where
  options : Options
  style : Style
  symbols : SymbolTable
  compilerVersion : Version

namespace Generator

def ofRequest (request : Request) : Except Error Generator := do
  let options ← Options.parse request.parameter
  let style ← Style.select options.style
  return {
    options
    style
    symbols := SymbolTable.ofFiles request.files
    compilerVersion := request.compilerVersion }

/-- What is needed to spell references in a file. -/
def context (symbols : SymbolTable) (style : Style) (file : File) : Except Error Context := do
  let imports ← Imports.resolve symbols file
  return { file, symbols, imports, wraps := style.wraps }

def fileImport (file : File) (entry : String × String) : Except Error Import :=
  match Path.importPath? file.name entry.1 with
  | some module => .ok { name := entry.2, module }
  | none => .error .emptyPath

/-- The imports of a file: other files, the message runtime and the RPC framework. -/
def importsOf (generator : Generator) (context : Context) : Except Error (List Import) := do
  let files ← context.imports.files.mapM (fileImport context.file)
  return files ++
    [{ name := context.imports.runtime, module := generator.options.runtimePackage },
     { name := context.imports.rpc, module := generator.style.package generator.options }]

/-- The second names that a file declares, in ascending order. -/
def secondNames (uses : Code.RootUses) : List Declaration :=
  (uses.mergeSort fun a b => decide (a.1 ≤ b.1)).map fun (name, root) => .secondName name root

/-- The body of a file in the namespace of its package, if it is to be wrapped. -/
def wrap (style : Style) (file : File) (body : List Declaration) : List Declaration :=
  match file.package? with
  | some package =>
    if style.wraps file then [.namespaced (Name.namespacePath package) body] else body
  | none => body

/-- The file that is written for a schema file with a given body. -/
def assemble (generator : Generator) (context : Context) (body : List Declaration) :
    Except Error GeneratedFile := do
  let imports ← generator.importsOf context
  let source : Code.Source := {
    schemaFile := context.file.name
    compilerVersion := generator.compilerVersion.text
    imports
    body := wrap generator.style context.file body }
  return { name := Path.outputName context.file.name, content := source.text }

/-- The generated file of a schema file, and the warnings given on the way. Warnings stand even if
the file cannot be completed. -/
def generateFile (generator : Generator) (file : File) :
    Except Error GeneratedFile × List Warning :=
  match context generator.symbols generator.style file with
  | .error error => (.error error, [])
  | .ok context =>
    match (Code.buildTypes context).run [] with
    | (.error error, _) => (.error error, [])
    | (.ok types, uses) =>
      let start : Rpc.Naming := { pool := context.imports.pool }
      match (Rpc.declareServices generator.style context).run start with
      | (.error error, naming) => (.error error, naming.warnings)
      | (.ok services, naming) =>
        (generator.assemble context (types ++ services ++ secondNames uses), naming.warnings)

/-- The generated files of schema files in order, up to the first failure. -/
def generateFiles (generator : Generator) : List File → Except Error (List GeneratedFile × List Warning)
  | [] => .ok ([], [])
  | file :: files => do
    let (result, warnings) := generator.generateFile file
    let first ← result
    let (others, moreWarnings) ← generator.generateFiles files
    return (first :: others, warnings ++ moreWarnings)

end Generator

/-- The generated files of a request, and the warnings given on the way. -/
def generate (request : Request) : Except Error (List GeneratedFile × List Warning) := do
  let generator ← Generator.ofRequest request
  generator.generateFiles request.files

/-- The response to a request, both as bytes. -/
def respond (bytes : Wire.Bytes) : Except Error Wire.Bytes := do
  let request ← Request.decode bytes
  let (files, _) ← generate request
  return Response.encode files

end Typewire
