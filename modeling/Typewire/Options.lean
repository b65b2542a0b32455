import Typewire.Parameter

/-!
# Options of a run

The keys of the parameter text that the generator knows. An empty value counts as absent.
-/
namespace Typewire

/-- What a parameter text asks for. -/
structure Options where
  /-- The name of the RPC style. -/
  style : String
  /-- The module of the RPC framework; the style has a default. -/
  grpcPackage : Option String := none
  /-- The module of the message runtime. -/
  runtimePackage : String
  /-- Assignments to unknown keys. -/
  extra : OrderedMap String String := []
  deriving Repr, DecidableEq

namespace Options

/-- The module of the message runtime when none is chosen. -/
def defaultRuntimePackage : String := "google-protobuf"

/-- The keys with a meaning. -/
def knownKeys : List String := ["style", "grpc_package", "runtime_package"]

/-- A value that was assigned and is not empty. -/
def chosen? (values : OrderedMap String String) (key : String) : Option String :=
  (values.get? key).filter (· ≠ "")

def parse (text : String) : Except Error Options := do
  let values ← Parameter.parse text
  match chosen? values "style" with
  | none => .error .missingStyle
  | some style =>
    .ok {
      style
      grpcPackage := chosen? values "grpc_package"
      runtimePackage := (chosen? values "runtime_package").getD defaultRuntimePackage
      extra := values.filter fun entry => !knownKeys.contains entry.1 }

end Options

end Typewire
