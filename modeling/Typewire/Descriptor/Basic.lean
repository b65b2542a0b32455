import Typewire.Schema.Kind
import Typewire.Wire.Record

/-!
# Descriptors

Schemas as they are transmitted. Options that may be left out are optional here, features are recorded
where they were written, and texts are bytes that may turn out to encode no text.
-/
namespace Typewire.Descriptor

open Wire (Bytes)

/-- Whether it can be told if a field was set. -/
inductive Presence where
  | unknown
  | explicit
  | implicit
  | legacyRequired
  deriving Repr, DecidableEq, Inhabited

/-- How a repeated scalar is written. -/
inductive Encoding where
  | unknown
  | packed
  | expanded
  deriving Repr, DecidableEq, Inhabited

/-- The features written at one place; each one may be left to the enclosing scope. -/
structure Features where
  presence : Option Presence := none
  encoding : Option Encoding := none
  deriving Repr, DecidableEq, Inhabited

namespace Features

/-- The features that hold for files that write none. -/
def defaults : Features :=
  { presence := some .explicit, encoding := some .packed }

/-- The features at a place, given those around it. -/
def within (own outer : Features) : Features :=
  { presence := own.presence.or outer.presence
    encoding := own.encoding.or outer.encoding }

end Features

inductive Label where
  | optional
  | required
  | repeated
  deriving Repr, DecidableEq, Inhabited

structure Field where
  name : Bytes := []
  number : Int := 0
  label : Label := .optional
  kind : Kind := .double
  typeName : Bytes := []
  defaultValue : Option Bytes := none
  packed : Option Bool := none
  features : Features := {}
  oneofIndex : Option Int := none
  jsonName : Bytes := []
  /-- Marked `optional` where that is not the rule. -/
  isOptional : Bool := false
  deriving Repr, DecidableEq, Inhabited

structure EnumValue where
  name : Bytes := []
  number : Int := 0
  deriving Repr, DecidableEq, Inhabited

structure Enum where
  name : Bytes := []
  values : List EnumValue := []
  deriving Repr, DecidableEq, Inhabited

structure Method where
  name : Bytes := []
  inputType : Bytes := []
  outputType : Bytes := []
  clientStreaming : Bool := false
  serverStreaming : Bool := false
  deriving Repr, DecidableEq, Inhabited

structure Service where
  name : Bytes := []
  methods : List Method := []
  deriving Repr, DecidableEq, Inhabited

structure Message where
  name : Bytes := []
  fields : List Field := []
  nested : List Message := []
  enums : List Enum := []
  oneofs : List Bytes := []
  mapEntry : Bool := false
  features : Features := {}
  deriving Repr, Inhabited

structure File where
  name : Bytes := []
  package : Bytes := []
  dependencies : List Bytes := []
  publicDependencies : List Int := []
  enums : List Enum := []
  messages : List Message := []
  services : List Service := []
  dialect : Bytes := []
  features : Features := {}
  deriving Repr, Inhabited

structure CompilerVersion where
  major : Int := 0
  minor : Int := 0
  patch : Int := 0
  suffix : Bytes := []
  deriving Repr, DecidableEq, Inhabited

/-- A compile request: descriptors and what to do with them. -/
structure Request where
  files : List File := []
  parameter : Bytes := []
  compilerVersion : CompilerVersion := {}
  filesToGenerate : List Bytes := []
  deriving Repr, Inhabited

end Typewire.Descriptor
