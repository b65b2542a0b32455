import Typewire.Symbol.Imports

/-!
# References from inside a file

How a type is spelled at a given place of a generated file. A type of the same file is spelled by its
path, unless a message around the place declares the first name of that path again; then the second
name of the root is used. A type of another file is reached through the name of its import.
-/
namespace Typewire

open Schema (File)

/-- What is needed to spell references in one file. -/
structure Context where
  file : File
  symbols : SymbolTable
  imports : Imports
  /-- Whether the output of a file is wrapped in the namespace of its package. -/
  wraps : File → Bool

/-- The way in which a type is reached. -/
inductive Reference where
  /-- By its path in the same file. -/
  | visible (path : String)
  /-- Through the second name of the root of its path. -/
  | throughRoot (name root rest : String)
  /-- Through an import, and there by its path. -/
  | imported (name path : String)
  deriving Repr, DecidableEq

def Reference.text : Reference → String
  | visible path => path
  | throughRoot name _ rest => if rest = "" then name else name ++ "." ++ rest
  | imported name path => name ++ "." ++ path

namespace Context

/-- The symbol of a type that can be declared and referred to. -/
def symbol (context : Context) (typeName : String) : Except Error Symbol := do
  let symbol ← context.symbols.lookup typeName
  if symbol.isMapEntry then .error (.entryReference typeName) else .ok symbol

/-- The full names of the messages around a place, from the innermost outwards and not beyond the
package of the file. -/
def enclosingMessages (context : Context) (scope : String) : List String :=
  (Text.enclosing scope).takeWhile fun name => name ≠ "" && name ≠ context.file.scope

/-- Whether a message around a place declares a name. -/
def isShadowed (context : Context) (name scope : String) : Bool :=
  (context.enclosingMessages scope).any fun message =>
    (context.symbols.children message).contains name

/-- The path of a symbol in the output of the file that declares it. -/
def exportedPath (context : Context) (symbol : Symbol) : String :=
  match context.symbols.file? symbol.fileName with
  | none => symbol.localPath
  | some entry =>
    match entry.file.package? with
    | none => symbol.localPath
    | some package =>
      if context.wraps entry.file then Name.namespacePath package ++ "." ++ symbol.localPath
      else symbol.localPath

/-- How a type is reached from a place. -/
def reference (context : Context) (typeName scope : String) : Except Error Reference := do
  let symbol ← context.symbol typeName
  if symbol.fileName = context.file.name then
    let root := Text.firstSegment symbol.localPath
    if context.isShadowed root scope then
      match context.imports.roots.get? root with
      | some name => .ok (.throughRoot name root (Text.afterFirst symbol.localPath))
      | none => .error (.missingRootAlias root)
    else .ok (.visible symbol.localPath)
  else do
    let name ← context.imports.nameOf symbol.fileName
    return .imported name (context.exportedPath symbol)

end Context

end Typewire
