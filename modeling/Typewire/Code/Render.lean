import Typewire.Code.MessageText
import Typewire.Code.ServiceText

/-!
# Generated files as text

Every declaration is a block of lines. A namespace indents the blocks of its body; apart from that,
blocks stand one below the other.
-/
namespace Typewire.Code

def enumerationLines (name : String) (members : List EnumMember) : List String :=
  [s!"export enum {name} \x7b"] ++
  Text.punctuate (members.map fun member => [s!"    {member.name} = {member.value}"]) ++
  ["\x7d"]

/-- The blocks of a body one below the other. An empty body is one empty line. -/
def stack (blocks : List (List String)) : List String :=
  if blocks.isEmpty then [""] else blocks.flatten

def namespaceLines (name : String) (body : List String) : List String :=
  [s!"export namespace {name} \x7b"] ++ Text.indent 4 body ++ ["\x7d"]

mutual

def Declaration.lines : Declaration → List String
  | .enumeration name members => enumerationLines name members
  | .messageClass decl => decl.lines
  | .namespaced name body => namespaceLines name (stack (Declaration.blocks body))
  | .secondName name target => [s!"import {name} = {target};"]
  | .callInterface name shape rpc => callInterfaceLines name shape rpc
  | .nodeServer decl => nodeServerLines decl
  | .nodeClient decl serverName interfaces => nodeClientLines decl serverName interfaces
  | .webClient decl => webClientLines decl

def Declaration.blocks : List Declaration → List (List String)
  | [] => []
  | decl :: decls => decl.lines :: Declaration.blocks decls

end

/-- The lines of declarations one below the other. -/
def renderLines (decls : List Declaration) : List String :=
  stack (Declaration.blocks decls)

def render (decls : List Declaration) : String :=
  Text.unlines (renderLines decls)

/-- The name under which the generator signs its output. -/
def generatorName : String := "pbts"

/-- The comment at the top of a generated file. -/
def Source.headerLines (source : Source) : List String :=
  ["/**",
   s!" * Generated by {generatorName}. DO NOT EDIT!",
   s!" * compiler version: {source.compilerVersion}",
   s!" * source: {source.schemaFile}",
   " */"]

def Import.line (imported : Import) : String :=
  let module := Text.literal imported.module
  s!"import * as {imported.name} from {module};"

def Source.lines (source : Source) : List String :=
  source.headerLines ++ source.imports.map Import.line ++
    if source.body.isEmpty then [] else renderLines source.body

/-- The text of a generated file; every line ends in a line feed. -/
def Source.text (source : Source) : String :=
  Text.unlines source.lines ++ "\n"

end Typewire.Code
