import Typewire.Proofs.Coverage
import Typewire.Proofs.ForeignReferences
import Typewire.Proofs.Independence
import Typewire.Proofs.Legibility

/-!
# What a request can fail with

A request passes through decoding, options, the choice of names, the building of types and services, and the
paths of imports. Each stage has failures of its own, and almost all of them are reported with what is wrong
in the parameters or in the schema. Two are not: the path of a module whose name is nothing but an extension,
and the second name of a root, which can be missing only if the files are not well named.

## Main result

`respond_failures`: for legible bytes there is a response, or a failure that is reported, or
one of these two, for the reason given.
-/
namespace Typewire

open Schema (Enum File Message Request WellNamed fullName)
open Error (Reported)

/-! ### Building -/

namespace Context

/-- The failures after the names of a file are chosen. They are reported, except that a second name may be
missing among files that are not well named. -/
def Breaks (context : Context) (error : Error) : Prop :=
  Reported error ∨ (∃ root, error = .missingRootAlias root) ∧ ∀ files, ¬ context.Settled files

variable {context : Context} {scope typeName : String}

/-- Whatever symbol is asked for, the failure is one of those that may come after the names are chosen. -/
theorem symbol_breaks : FailsOnly context.Breaks (context.symbol typeName) := by
  intro failure failed
  rcases symbol_eq_error failed with ⟨_, rfl⟩ | ⟨_, _, _, rfl⟩
  · exact .inl rfl
  · exact .inl rfl

theorem reference_breaks (place : context.IsPlace scope) :
    FailsOnly context.Breaks (context.reference typeName scope) := by
  intro failure failed
  rcases reference_eq_error failed with
    missing | ⟨symbol, isSymbol, ⟨here, shadowed, unnamed, rfl⟩ | ⟨_, _, rfl⟩⟩
  · exact symbol_breaks _ missing
  · refine .inr ⟨⟨_, rfl⟩, fun files settled => ?_⟩
    -- Among well-named files a shadowed root is declared both at the top and inside a message.
    obtain ⟨found, declared⟩ := symbol_eq_ok.mp isSymbol
    obtain ⟨name, known⟩ :=
      settled.exists_root place (settled.mem_of_fileName found here) declared shadowed
    rw [unnamed] at known
    cases known
  · exact .inl rfl

end Context

namespace Code

variable {context : Context} {scope full : String}

theorem buildField_breaks (place : context.IsPlace scope) (field : Schema.Field) :
    OnlyFails context.Breaks (buildField context scope field) :=
  LookupFails.buildField ⟨fun _ => Context.symbol_breaks, fun _ => Context.reference_breaks place,
    fun _ _ => .inl rfl⟩ field

theorem joinGroup_breaks (full : String) (oneofs : List Schema.Oneof) (field : Schema.Field)
    (result : Field) : FailsOnly context.Breaks (joinGroup full oneofs field result) := by
  intro failure failed
  obtain ⟨index, _, _, rfl⟩ := joinGroup_eq_error.mp failed
  exact .inl rfl

theorem allows_breaks (context : Context) : Allows context context.Breaks where
  enumeration := fun _ _ _ => FailsOnly.bind Context.symbol_breaks fun _ _ => FailsOnly.pure _
  name := fun _ _ _ _ => Context.symbol_breaks
  member := fun has _ _ _ field _ =>
    OnlyFails.bind (buildField_breaks (.inr ⟨_, _, has⟩) field) fun _ =>
      OnlyFails.liftM (joinGroup_breaks _ _ _ _)

end Code

theorem Rpc.declareServices_breaks (style : Style) (context : Context) :
    OnlyFails context.Breaks (declareServices style context) := by
  refine declareServices_onlyFails_of (fun service _ => OnlyFails.liftM ?_) style
  refine FailsOnly.mapM fun method _ => ?_
  refine FailsOnly.bind (Context.reference_breaks (.inl rfl)) fun _ _ => ?_
  exact FailsOnly.bind (Context.reference_breaks (.inl rfl)) fun _ _ => FailsOnly.pure _

/-! ### Imports -/

namespace Imports

/-- Only dependencies and files that declare a mentioned type have names. -/
theorem mem_of_mem_foldl_nameFile {fileNames : List String} {files : OrderedMap String String}
    {pool : NamePool} {entry : String × String}
    (member : entry ∈ (fileNames.foldl nameFile (files, pool)).1) : entry ∈ files ∨ entry.1 ∈ fileNames := by
  induction fileNames generalizing files pool with
  | nil => exact .inl member
  | cons fileName fileNames ih =>
    rw [List.foldl_cons, nameFile] at member
    dsimp only at member
    split at member
    next => exact (ih member).imp_right (List.mem_cons_of_mem _)
    next =>
      rcases ih member with before | later
      · rcases List.mem_append.mp before with old | new
        · exact .inl old
        · rw [List.mem_singleton.mp new]
          exact .inr List.mem_cons_self
      · exact .inr (List.mem_cons_of_mem _ later)

/-- A file that gets a name is a dependency or one of the files of the run. -/
theorem mem_files {files : List File} {file : File} {imports : Imports}
    (resolved : resolve (SymbolTable.ofFiles files) file = .ok imports) {entry : String × String}
    (member : entry ∈ imports.files) : entry.1 ∈ file.dependencies ∨ entry.1 ∈ files.map File.name := by
  obtain ⟨mentioned, others, roots, isMentioned, isOthers, _, rfl⟩ := resolve_stages resolved
  dsimp only at member
  rw [isOthers] at member
  rcases mem_of_mem_foldl_nameFile member with old | new
  · cases old
  · refine (List.mem_append.mp new).imp_right fun inMentioned => ?_
    obtain ⟨symbols, traversed, last⟩ := except_bind_eq_ok isMentioned
    cases last
    obtain ⟨symbol, inSymbols, same⟩ := List.mem_map.mp (List.mem_filter.mp inMentioned).1
    obtain ⟨typeName, _, found⟩ :=
      exists_left_of_forall₂ ((except_mapM_eq_ok_iff _ _ _).mp traversed) inSymbols
    -- The mentioned type was found in one of the files, and its symbol names that file.
    obtain ⟨declaring, inFiles, recorded, _⟩ := SymbolTable.mem_of_lookup? (lookup_eq_ok.mp found)
    exact List.mem_map.mpr ⟨declaring, inFiles, (Symbol.fileName_eq recorded).symm.trans same⟩

/-- Every dependency has a name. -/
theorem exists_name_of_dependency {table : SymbolTable} {file : File} {imports : Imports}
    (resolved : resolve table file = .ok imports) {dependency : String}
    (member : dependency ∈ file.dependencies) : ∃ name, (dependency, name) ∈ imports.files := by
  obtain ⟨mentioned, others, roots, _, isOthers, _, rfl⟩ := resolve_stages resolved
  obtain ⟨_, _, _, _, covered⟩ :=
    foldl_nameFile (file.dependencies ++ mentioned) [] (frameworkPool table file)
  rw [← isOthers] at covered
  obtain ⟨name, found⟩ := covered dependency (List.mem_append_left _ member)
  exact ⟨name, OrderedMap.mem_of_get? found⟩

/-- Names cannot be chosen if a type is mentioned that nobody declares. -/
theorem resolve_reported (table : SymbolTable) (file : File) : FailsOnly Reported (resolve table file) := by
  refine FailsOnly.bind (FailsOnly.bind (FailsOnly.mapM fun typeName _ => ?_) fun _ _ =>
    FailsOnly.pure _) fun _ _ => FailsOnly.pure _
  intro failure failed
  rw [SymbolTable.lookup] at failed
  split at failed
  · cases failed
  · cases failed
    rfl

end Imports

namespace Path

/-- A module has no path exactly if its name is nothing but an extension. -/
theorem importPath?_eq_none {fromFile toFile : String} :
    importPath? fromFile toFile = none ↔ replaceExtension toFile "" = "" := by
  rw [importPath?]
  split
  next empty => simp [empty]
  next notEmpty => simp [notEmpty]

end Path

namespace Generator

/-- Some file asks for a module whose name is nothing but an extension: as a dependency, or because one of
the files has such a name. -/
def AsksNameless (files : List File) : Prop :=
  ∃ file ∈ files, ∃ other, (other ∈ file.dependencies ∨ other ∈ files.map File.name) ∧
    Path.replaceExtension other "" = ""

variable {generator : Generator} {files : List File} {file : File}

/-- Imports fail only for a module whose name is nothing but an extension. -/
theorem importsOf_eq_error {context : Context} {error : Error}
    (failed : generator.importsOf context = .error error) :
    error = .emptyPath ∧ ∃ entry ∈ context.imports.files, Path.replaceExtension entry.1 "" = "" := by
  rcases except_bind_eq_error failed with inFiles | ⟨_, _, last⟩
  · obtain ⟨entry, member, fails⟩ := except_mapM_eq_error inFiles
    rw [fileImport] at fails
    split at fails
    next => cases fails
    next nameless => exact ⟨(Except.error.inj fails).symm, entry, member, Path.importPath?_eq_none.mp nameless⟩
  · cases last

/-- The failures of a run: reported ones, and the two that are not, each with its reason. -/
inductive Failure (files : List File) : Error → Prop where
  | reported {error : Error} (isReported : Reported error) : Failure files error
  | nameless (asked : AsksNameless files) : Failure files .emptyPath
  | unnamedRoot {root : String} (notNamed : ¬ WellNamed files) : Failure files (.missingRootAlias root)

/-- A second name is missing only where the files are not well named. -/
theorem Failure.of_breaks {context : Context} {error : Error} (breaks : context.Breaks error)
    (settled : WellNamed files → context.Settled files) : Failure files error := by
  rcases breaks with isReported | ⟨⟨root, rfl⟩, never⟩
  · exact .reported isReported
  · exact .unnamedRoot fun named => never files (settled named)

/-- A file that cannot be generated fails in one of the known ways. -/
theorem generateFile_failure (table : generator.symbols = SymbolTable.ofFiles files) (member : file ∈ files) :
    FailsOnly (Failure files) (generator.generateFile file).1 := by
  intro error failed
  rw [generateFile] at failed
  -- The stages in order; up to the imports only a missing second name goes unreported.
  split at failed
  next unresolved =>
    cases failed
    have resolveFails : FailsOnly Reported (context generator.symbols generator.style file) :=
      FailsOnly.bind (Imports.resolve_reported _ _) fun _ _ => FailsOnly.pure _
    exact .reported (resolveFails _ unresolved)
  next context resolved =>
    have settled : WellNamed files → context.Settled files := by
      intro named
      obtain ⟨imports, found, rfl⟩ := context_eq_ok.mp resolved
      exact ⟨named, member, table, found⟩
    split at failed
    next built =>
      cases failed
      exact .of_breaks ((Code.allows_breaks context).buildTypes _ _ _ built) settled
    next types uses built =>
      dsimp only at failed
      split at failed
      next declared =>
        cases failed
        exact .of_breaks (Rpc.declareServices_breaks _ context _ _ _ declared) settled
      next =>
        rcases except_bind_eq_error failed with notImported | ⟨_, _, last⟩
        · obtain ⟨rfl, entry, inFiles, nameless⟩ := importsOf_eq_error notImported
          obtain ⟨imports, found, rfl⟩ := context_eq_ok.mp resolved
          rw [table] at found
          exact .nameless ⟨file, member, entry.1, Imports.mem_files found inFiles, nameless⟩
        · cases last

/-! ### Runs -/

/-- A series of files fails only by what one of them fails with. -/
theorem generateFiles_failsOnly {allowed : Error → Prop} {chosen : List File}
    (each : ∀ file ∈ chosen, FailsOnly allowed (generator.generateFile file).1) :
    FailsOnly allowed (generator.generateFiles chosen) := by
  induction chosen with
  | nil => exact FailsOnly.pure _
  | cons file others ih =>
    rw [generateFiles]
    refine FailsOnly.bind (each file List.mem_cons_self) fun _ _ => ?_
    exact FailsOnly.bind (ih fun other member => each other (List.mem_cons_of_mem _ member)) fun _ _ =>
      FailsOnly.pure _

/-- Options and style of a request fail with reported errors only. -/
theorem ofRequest_reported (request : Request) : FailsOnly Reported (ofRequest request) := by
  -- The text of the options, their values, and the style that they ask for.
  refine FailsOnly.bind (FailsOnly.bind ?_ fun values _ => ?_) fun options _ =>
    FailsOnly.bind ?_ fun _ _ => FailsOnly.pure _
  · intro failure failed
    rw [Parameter.parse] at failed
    split at failed
    · cases failed
    · split at failed
      · cases failed
      · cases failed
        rfl
  · intro failure failed
    split at failed
    · cases failed
      rfl
    · cases failed
  · intro failure failed
    rw [Style.select] at failed
    split at failed
    · cases failed
      rfl
    · split at failed
      · cases failed
      · cases failed
        rfl

theorem generate_failure (request : Request) : FailsOnly (Failure request.files) (generate request) := by
  refine FailsOnly.bind (fun error failed => .reported (ofRequest_reported request error failed))
    fun generator chosen => ?_
  obtain ⟨table, _⟩ := ofRequest_eq_ok rfl rfl chosen
  exact generateFiles_failsOnly fun file member => generateFile_failure table member

/-- A run over files of which one depends on a module without a name gives nothing. -/
theorem generate_ne_ok {request : Request} (member : file ∈ request.files) {dependency : String}
    (depends : dependency ∈ file.dependencies) (nameless : Path.replaceExtension dependency "" = "")
    (result : List GeneratedFile × List Rpc.Warning) : generate request ≠ .ok result := by
  intro generated
  obtain ⟨generator, _, ran⟩ := except_bind_eq_ok generated
  obtain ⟨output, isOutput⟩ := exists_output_of_generateFiles ran file member
  obtain ⟨compilation, _⟩ := exists_compilation isOutput
  -- All imports of a generated file have paths, and the dependency is among them.
  obtain ⟨others, runtime, rpc, _, _, _, related⟩ := importsOf_eq_ok compilation.imported
  obtain ⟨imports, found, shape⟩ := context_eq_ok.mp compilation.resolved
  obtain ⟨name, inImports⟩ := Imports.exists_name_of_dependency found depends
  rw [shape] at related
  obtain ⟨made, _, imported⟩ := exists_right_of_forall₂ related inImports
  obtain ⟨module, hasPath, _⟩ := fileImport_eq_ok imported
  rw [Path.importPath?_eq_none.mpr nameless] at hasPath
  cases hasPath

/-- For legible bytes there is a response, or a failure that is reported, or one of the two others, which
never arise for well-named files whose modules all have names. A dependency without a name always ends in
failure. -/
theorem respond_failures (bytes : Wire.Bytes) (legible : Schema.LegibleRequest bytes) :
    ((∃ response, respond bytes = .ok response) ∨
      ∃ error, respond bytes = .error error ∧ (Reported error ∨
        ∃ request, Request.decode bytes = .ok request ∧ Failure request.files error)) ∧
    ∀ request, Request.decode bytes = .ok request → ∀ file ∈ request.files,
      ∀ dependency ∈ file.dependencies, Path.replaceExtension dependency "" = "" →
        ∃ error, respond bytes = .error error := by
  have failures : FailsOnly (fun error => Reported error ∨
      ∃ request, Request.decode bytes = .ok request ∧ Failure request.files error) (respond bytes) := by
    refine FailsOnly.bind (fun error failed => .inl (Schema.Request.decode_reported legible error failed))
      fun request decoded => ?_
    exact FailsOnly.bind (fun error failed => .inr ⟨request, decoded, generate_failure request error failed⟩)
      fun _ _ => FailsOnly.pure _
  constructor
  · cases outcome : respond bytes with
    | ok response => exact .inl ⟨response, rfl⟩
    | error error => exact .inr ⟨error, rfl, failures error outcome⟩
  · intro request decoded file member dependency depends nameless
    cases outcome : respond bytes with
    | error error => exact ⟨error, rfl⟩
    | ok response =>
      obtain ⟨other, isDecoded, rest⟩ := except_bind_eq_ok outcome
      obtain rfl : request = other := Except.ok.inj (decoded.symm.trans isDecoded)
      obtain ⟨result, generated, _⟩ := except_bind_eq_ok rest
      exact absurd generated (generate_ne_ok member depends nameless result)

def messageBytes (name : String) (fields nested : List Wire.Bytes) : Wire.Bytes :=
  Wire.writeTextField 1 name ++ fields.flatMap (Wire.writeBytesField 2) ++
    nested.flatMap (Wire.writeBytesField 3)

def fileBytes (name : String) (dependencies : List String) (messages : List Wire.Bytes) : Wire.Bytes :=
  Wire.writeTextField 1 name ++ dependencies.flatMap (Wire.writeTextField 3) ++
    messages.flatMap (Wire.writeBytesField 4)

def requestBytes (files : List Wire.Bytes) : Wire.Bytes :=
  Wire.writeTextField 2 "style=none" ++ files.flatMap (Wire.writeBytesField 15)

/-- A request for a file that depends on a module whose name is an extension. -/
def portBytes : Wire.Bytes :=
  requestBytes [fileBytes "port.proto" [".proto"] []]

/-- A request in which two files declare `Fleet`; inside the one of the second file there is a `Ship` as
well, so that the first file cannot reach its own `Ship` from inside its `Fleet`. -/
def fleetBytes : Wire.Bytes :=
  let ship := Wire.writeTextField 1 "ship" ++ Wire.writeWordField 3 1 ++ Wire.writeWordField 5 11 ++
    Wire.writeTextField 6 ".Ship"
  requestBytes [
    fileBytes "fleet.proto" []
      [messageBytes "Ship" [] [], messageBytes "Fleet" [] [messageBytes "Crew" [ship] []]],
    fileBytes "dock.proto" [] [messageBytes "Fleet" [] [messageBytes "Ship" [] []]]]

theorem respond_failures_for_port :
    Schema.LegibleRequest portBytes ∧
    ((∃ response, respond portBytes = .ok response) ∨
      ∃ error, respond portBytes = .error error ∧ (Reported error ∨
        ∃ request, Request.decode portBytes = .ok request ∧ Failure request.files error)) ∧
    ∀ request, Request.decode portBytes = .ok request → ∀ file ∈ request.files,
      ∀ dependency ∈ file.dependencies, Path.replaceExtension dependency "" = "" →
        ∃ error, respond portBytes = .error error := by
  have legible : Schema.LegibleRequest portBytes := by decide +kernel
  exact ⟨legible, respond_failures portBytes legible⟩

/-- Both failures that are not reported do arise from legible bytes. -/
theorem respond_breaks_off :
    (Schema.LegibleRequest portBytes ∧ respond portBytes = .error .emptyPath ∧
      Error.emptyPath.isReportable = false) ∧
    Schema.LegibleRequest fleetBytes ∧ respond fleetBytes = .error (.missingRootAlias "Ship") ∧
      (Error.missingRootAlias "Ship").isReportable = false := by
  decide +kernel

end Generator

end Typewire
