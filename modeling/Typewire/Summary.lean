import Typewire.Path.Basic
import Typewire.Schema.Basic

/-!
# Summaries

How much a schema file declares, nested types included. Map entries and what is nested in them are
not counted.
-/
namespace Typewire

open Schema (File Message)

structure Summary where
  name : String
  output : String
  package : Option String
  dialect : String
  dependencies : Nat
  enums : Nat
  messages : Nat
  fields : Nat
  maps : Nat
  oneofs : Nat
  services : Nat
  methods : Nat
  deriving Repr, DecidableEq, Inhabited

mutual

/-- A message followed by the messages nested in it, map entries left out. -/
def Schema.Message.declared : Message → List Message
  | message@⟨_, _, nestedMessages, _, _, mapEntry⟩ =>
    if mapEntry then [] else message :: Schema.Message.allDeclared nestedMessages

/-- All messages of a scope at every depth, map entries left out. -/
def Schema.Message.allDeclared : List Message → List Message
  | [] => []
  | message :: messages => message.declared ++ Schema.Message.allDeclared messages

end

namespace Summary

def ofFile (file : File) : Summary :=
  let messages := Message.allDeclared file.messages
  let fields := messages.flatMap (·.fields)
  { name := file.name
    output := Path.outputName file.name
    package := file.package
    dialect := file.dialect
    dependencies := file.dependencies.length
    enums := file.enums.length + (messages.flatMap (·.nestedEnums)).length
    messages := messages.length
    fields := fields.length
    maps := (fields.filter (·.isMap)).length
    oneofs := ((messages.flatMap (·.oneofs)).filter (!·.synthetic)).length
    services := file.services.length
    methods := (file.services.flatMap (·.methods)).length }

end Summary

end Typewire
