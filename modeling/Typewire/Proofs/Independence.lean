import Typewire.Proofs.Output

/-!
# Independence of the other files of a run

What is generated for a file depends on the file and on the types that it reaches, and on nothing else in the
request. Two contexts agree on a file when every type found in the first is found in the second, with the
same path and the same names around each place; then every step that succeeds in the first context does the
same in the second. Adding files to a run, or reordering them, keeps contexts in agreement.
-/
namespace Typewire

open Schema (Enum File Message WellNamed fullName)

/-! ### Tables with more files -/

namespace SymbolTable

variable {files more : List File}

/-- A type that is found among some files is found among more. -/
theorem lookup?_of_subset (named : WellNamed more) (subset : files ⊆ more) {typeName : String}
    {symbol : Symbol} (found : (ofFiles files).lookup? typeName = some symbol) :
    (ofFiles more).lookup? typeName = some symbol := by
  obtain ⟨file, member, recorded, rfl⟩ := mem_of_lookup? found
  exact lookup?_of_mem named (subset member) recorded

/-- More files do not change the names that imports must avoid. -/
theorem reserved_of_subset (named : WellNamed files) (namedMore : WellNamed more) (subset : files ⊆ more)
    {file : File} (member : file ∈ files) :
    Imports.reserved (ofFiles more) file = Imports.reserved (ofFiles files) file := by
  simp only [Imports.reserved, topLevel_of_mem named member, nested_of_mem named member,
    topLevel_of_mem namedMore (subset member), nested_of_mem namedMore (subset member)]

theorem shadowedRoots_of_subset (named : WellNamed files) (namedMore : WellNamed more)
    (subset : files ⊆ more) {file : File} (member : file ∈ files) :
    Imports.shadowedRoots (ofFiles more) file = Imports.shadowedRoots (ofFiles files) file := by
  simp only [Imports.shadowedRoots, topLevel_of_mem named member, nested_of_mem named member,
    topLevel_of_mem namedMore (subset member), nested_of_mem namedMore (subset member)]

/-- More files do not change which files a file mentions. -/
theorem mentionedFiles_of_subset (named : WellNamed more) (subset : files ⊆ more) {file : File}
    {mentioned : List String} (found : Imports.mentionedFiles (ofFiles files) file = .ok mentioned) :
    Imports.mentionedFiles (ofFiles more) file = .ok mentioned := by
  obtain ⟨symbols, traversed, last⟩ := except_bind_eq_ok found
  have traversedMore : file.references.mapM (ofFiles more).lookup = .ok symbols := by
    rw [except_mapM_eq_ok_iff] at traversed ⊢
    refine traversed.imp fun typeName symbol isFound => ?_
    rw [Imports.lookup_eq_ok] at isFound ⊢
    exact lookup?_of_subset named subset isFound
  rw [Imports.mentionedFiles, traversedMore]
  exact last

/-- A file that is resolved among some files is resolved in the same way among more. -/
theorem resolve_of_subset (named : WellNamed files) (namedMore : WellNamed more) (subset : files ⊆ more)
    {file : File} (member : file ∈ files) {imports : Imports}
    (resolved : Imports.resolve (ofFiles files) file = .ok imports) :
    Imports.resolve (ofFiles more) file = .ok imports := by
  obtain ⟨mentioned, found, built⟩ := except_bind_eq_ok resolved
  rw [Imports.resolve, mentionedFiles_of_subset namedMore subset found,
    reserved_of_subset named namedMore subset member,
    shadowedRoots_of_subset named namedMore subset member]
  exact built

end SymbolTable

/-! ### Contexts in agreement -/

namespace Context

/-- What is found and spelled for a file in one context is found and spelled so in another. -/
structure Agrees (context other : Context) : Prop where
  file_eq : other.file = context.file
  imports_eq : other.imports = context.imports
  found : ∀ {typeName symbol}, context.symbols.lookup? typeName = some symbol →
    other.symbols.lookup? typeName = some symbol
  shadows : ∀ {scope}, context.IsPlace scope → ∀ name,
    other.isShadowed name scope = context.isShadowed name scope
  exports : ∀ {typeName symbol}, context.symbols.lookup? typeName = some symbol →
    other.exportedPath symbol = context.exportedPath symbol

variable {context other : Context} {files more : List File}

/-- Contexts for one file agree if the second knows all files of the first. -/
theorem Settled.agrees (settled : context.Settled files) (settledMore : other.Settled more)
    (subset : files ⊆ more) (file_eq : other.file = context.file)
    (imports_eq : other.imports = context.imports) (wraps_eq : other.wraps = context.wraps) :
    context.Agrees other := by
  refine ⟨file_eq, imports_eq, ?_, ?_, ?_⟩
  · intro typeName symbol found
    rw [settled.table] at found
    rw [settledMore.table]
    exact SymbolTable.lookup?_of_subset settledMore.named subset found
  · intro scope place name
    have around : other.enclosingMessages scope = context.enclosingMessages scope := by
      rw [enclosingMessages, enclosingMessages, file_eq]
    -- The messages around a place are of this file, and both tables have them from it.
    have children_eq : ∀ full ∈ context.enclosingMessages scope,
        other.symbols.children full = context.symbols.children full := by
      intro full isAround
      obtain ⟨symbol, recorded, rfl, names, isMessage⟩ := place.enclosing_symbol settled.plain isAround
      rw [settled.table, settledMore.table,
        SymbolTable.children_of_mem settled.named settled.member recorded isMessage,
        SymbolTable.children_of_mem settledMore.named (subset settled.member) recorded isMessage]
    rw [isShadowed, isShadowed, around, Bool.eq_iff_iff, List.any_eq_true, List.any_eq_true]
    refine exists_congr fun full => and_congr_right fun isAround => ?_
    rw [children_eq full isAround]
  · intro typeName symbol found
    rw [settled.table] at found
    obtain ⟨file, member, recorded, _⟩ := SymbolTable.mem_of_lookup? found
    rw [exportedPath, exportedPath, settled.table, settledMore.table, Symbol.fileName_eq recorded,
      SymbolTable.file?_of_mem settled.named member,
      SymbolTable.file?_of_mem settledMore.named (subset member), wraps_eq]

namespace Agrees

variable (agrees : context.Agrees other)
include agrees

theorem symbol_eq_ok {typeName : String} {symbol : Symbol}
    (isSymbol : context.symbol typeName = .ok symbol) : other.symbol typeName = .ok symbol := by
  rw [Context.symbol_eq_ok] at isSymbol ⊢
  exact ⟨agrees.found isSymbol.1, isSymbol.2⟩

/-- A reference that can be spelled in one context is spelled so in one that agrees. -/
theorem reference_eq_ok {scope typeName : String} (place : context.IsPlace scope) {reference : Reference}
    (spelled : context.reference typeName scope = .ok reference) :
    other.reference typeName scope = .ok reference := by
  obtain ⟨symbol, isSymbol, rest⟩ := except_bind_eq_ok spelled
  have found := (Context.symbol_eq_ok.mp isSymbol).1
  rw [Context.reference, agrees.symbol_eq_ok isSymbol]
  simp only [bind, Except.bind] at rest ⊢
  rw [agrees.file_eq, agrees.imports_eq, agrees.shadows place, agrees.exports found]
  exact rest

end Agrees

end Context

/-! ### Types -/

namespace Code

variable {context other : Context}

theorem qualify_refines (agrees : context.Agrees other) {scope : String} (place : context.IsPlace scope)
    (typeName : String) : Refines (qualify context typeName scope) (qualify other typeName scope) :=
  Refines.bind (Refines.liftM fun _ => agrees.reference_eq_ok place) fun _ => Refines.refl _

theorem referenceInitial_eq_ok (agrees : context.Agrees other) {field : Schema.Field}
    {typeName typeRef initial : String}
    (given : referenceInitial context field typeName typeRef = .ok initial) :
    referenceInitial other field typeName typeRef = .ok initial := by
  rw [referenceInitial] at given ⊢
  split at given
  next isEnum =>
    obtain ⟨symbol, isSymbol, last⟩ := except_bind_eq_ok given
    rw [if_pos isEnum, agrees.symbol_eq_ok isSymbol]
    exact last
  next notEnum =>
    rw [if_neg notEnum]
    exact given

theorem elementType_refines (agrees : context.Agrees other) {scope : String}
    (place : context.IsPlace scope) (field : Schema.Field) :
    Refines (elementType context scope field) (elementType other scope field) := by
  cases scalar : field.kind.scalarType? with
  | some typeRef =>
    rw [elementType_of_scalar scalar, elementType_of_scalar scalar]
    exact Refines.refl _
  | none =>
    cases typed : field.typeName with
    | none =>
      rw [elementType_of_untyped scalar typed, elementType_of_untyped scalar typed]
      exact Refines.refl _
    | some typeName =>
      rw [elementType_of_reference scalar typed, elementType_of_reference scalar typed]
      refine Refines.bind (qualify_refines agrees place typeName) fun typeRef => ?_
      exact Refines.bind (Refines.liftM fun _ => referenceInitial_eq_ok agrees) fun _ => Refines.refl _

theorem buildField_refines (agrees : context.Agrees other) {scope : String}
    (place : context.IsPlace scope) (field : Schema.Field) :
    Refines (buildField context scope field) (buildField other scope field) := by
  induction field using Schema.Field.parts_induction with
  | single field single =>
    rw [buildField_of_single single, buildField_of_single single]
    exact Refines.bind (elementType_refines agrees place field) fun _ => Refines.refl _
  | map field mapKey mapValue parts ofKey ofValue =>
    rw [buildField_of_map parts, buildField_of_map parts]
    exact Refines.bind ofKey fun _ => Refines.bind ofValue fun _ => Refines.refl _

theorem buildEnums_eq_ok (agrees : context.Agrees other) {scope : String} {enums : List Enum}
    {decls : List Declaration} (built : buildEnums context scope enums = .ok decls) :
    buildEnums other scope enums = .ok decls := by
  rw [buildEnums, except_mapM_eq_ok_iff] at built ⊢
  refine built.imp fun enum decl isBuilt => ?_
  obtain ⟨symbol, isSymbol, last⟩ := except_bind_eq_ok isBuilt
  rw [buildEnum, agrees.symbol_eq_ok isSymbol]
  exact last

theorem buildScope_refines_of (agrees : context.Agrees other) {scope : String} (enums : List Enum)
    {messages : List Message} (each : ∀ message ∈ messages,
      Refines (buildMessage context scope message) (buildMessage other scope message)) :
    Refines (buildScope context scope enums messages) (buildScope other scope enums messages) := by
  rw [buildScope, buildScope, buildMessages_eq, buildMessages_eq]
  refine Refines.bind (Refines.liftM fun _ => buildEnums_eq_ok agrees) fun _ => ?_
  exact Refines.bind (Refines.bind (Refines.mapM each) fun _ => Refines.refl _) fun _ => Refines.refl _

/-- A message that can be built in one context is built so in one that agrees. -/
theorem buildMessage_refines (agrees : context.Agrees other) (message : Message) :
    ∀ {scope enums messages}, context.file.HasScope scope enums messages → message ∈ messages →
      Refines (buildMessage context scope message) (buildMessage other scope message) := by
  induction message using Message.nested_induction with
  | step message nested =>
    intro scope enums messages has member
    cases entry : message.mapEntry with
    | true =>
      rw [buildMessage_of_entry entry, buildMessage_of_entry entry]
      exact Refines.refl _
    | false =>
      -- Apart from what its parts are, a class depends on the name of the runtime only.
      have sameClass : classOf other message = classOf context message := by
        funext full given members
        rw [classOf, classOf, agrees.imports_eq]
      have inside := has.inside member entry
      rw [buildMessage_of_declared entry, buildMessage_of_declared entry, sameClass]
      refine Refines.bind (Refines.liftM fun _ => agrees.symbol_eq_ok) fun symbol => ?_
      refine Refines.bind (buildScope_refines_of agrees _ fun inner isInner =>
        nested inner isInner inside isInner) fun _ => ?_
      refine Refines.bind (Refines.mapM fun field _ => ?_) fun _ => Refines.refl _
      have place : context.IsPlace scope := .inr ⟨enums, messages, has⟩
      exact Refines.bind (buildField_refines agrees place field) fun _ => Refines.refl _

theorem buildTypes_refines (agrees : context.Agrees other) :
    Refines (buildTypes context) (buildTypes other) := by
  rw [buildTypes_eq, buildTypes_eq, agrees.file_eq]
  exact buildScope_refines_of agrees _ fun message member => buildMessage_refines agrees message .top member

end Code

/-! ### Services -/

namespace Rpc

open Code

variable {context other : Context}

theorem spellMethods_of_agrees (agrees : context.Agrees other) {service : Schema.Service}
    {methods : List Method} (spelled : spellMethods context service = .ok methods) :
    spellMethods other service = .ok methods := by
  rw [spellMethods, except_mapM_eq_ok_iff] at spelled ⊢
  refine spelled.imp fun method made isSpelled => ?_
  obtain ⟨input, output, isInput, isOutput, rfl⟩ := spellMethod_eq_ok isSpelled
  have place : context.IsPlace "" := .inl rfl
  rw [spellMethod, agrees.reference_eq_ok place isInput, agrees.reference_eq_ok place isOutput,
    agrees.file_eq]
  rfl

theorem server?_refines (agrees : context.Agrees other) (style : Style) (service : Schema.Service) :
    Refines (server? style context service) (server? style other service) := by
  cases style with
  | node =>
    rw [server?, server?, agrees.imports_eq]
    refine Refines.bind (Refines.refl _) fun _ => ?_
    exact Refines.bind (Refines.liftM fun _ => spellMethods_of_agrees agrees) fun _ => Refines.refl _
  | web => exact Refines.refl _
  | typesOnly => exact Refines.refl _

theorem client?_refines (agrees : context.Agrees other) (style : Style) (service : Schema.Service) :
    Refines (client? style context service) (client? style other service) := by
  have methods : Refines (liftM (spellMethods context service) : Declaring (List Method))
      (liftM (spellMethods other service)) := Refines.liftM fun _ => spellMethods_of_agrees agrees
  cases style with
  | node =>
    refine Refines.bind ?_ fun _ => Refines.refl _
    rw [nodeClient, nodeClient, agrees.imports_eq]
    exact Refines.bind (Refines.refl _) fun _ => Refines.bind methods fun _ => Refines.refl _
  | web =>
    refine Refines.bind ?_ fun _ => Refines.refl _
    rw [webClient, webClient, agrees.imports_eq]
    exact Refines.bind methods fun _ => Refines.refl _
  | typesOnly => exact Refines.refl _

/-- What is made for services in one context is made so in one that agrees. -/
theorem declareServices_refines (agrees : context.Agrees other) (style : Style) :
    Refines (declareServices style context) (declareServices style other) := by
  have shared : sharedTypes style other = sharedTypes style context := by
    cases style with
    | node => rw [sharedTypes, sharedTypes, agrees.imports_eq]
    | web => rfl
    | typesOnly => rfl
  rw [declareServices, declareServices, agrees.file_eq, shared]
  refine Refines.bind (Refines.refl _) fun _ => Refines.bind (Refines.mapM fun service _ => ?_) fun _ =>
    Refines.refl _
  refine Refines.bind (server?_refines agrees style service) fun _ => ?_
  exact Refines.bind (client?_refines agrees style service) fun _ => Refines.refl _

end Rpc

/-! ### Runs -/

namespace Generator

open Schema (Request)
open Rpc (Warning)

variable {files more : List File}

/-- A file that can be generated among some files is generated in the same way among more. -/
theorem generateFile_of_subset (named : WellNamed files) (namedMore : WellNamed more)
    (subset : files ⊆ more) {generator : Generator} (table : generator.symbols = SymbolTable.ofFiles files)
    {file : File} (member : file ∈ files) {output : GeneratedFile}
    (generated : (generator.generateFile file).1 = .ok output) :
    ({ generator with symbols := SymbolTable.ofFiles more } : Generator).generateFile file =
      (.ok output, (generator.generateFile file).2) := by
  obtain ⟨compilation, rfl⟩ := exists_compilation generated
  rw [compilation.generateFile_eq]
  obtain ⟨settled, _, _⟩ := compilation.toTranslation.settled table named member
  obtain ⟨⟨context, types, uses, resolved, built⟩, services, naming, imports, declared, imported⟩ :=
    compilation
  obtain ⟨chosen, found, rfl⟩ := context_eq_ok.mp resolved
  let other : Context := {
    file, symbols := SymbolTable.ofFiles more, imports := chosen, wraps := generator.style.wraps }
  have foundMore : Imports.resolve (SymbolTable.ofFiles more) file = .ok chosen :=
    SymbolTable.resolve_of_subset named namedMore subset member (table ▸ found)
  have settledMore : other.Settled more := ⟨namedMore, subset member, rfl, foundMore⟩
  have agrees := settled.agrees settledMore subset rfl rfl rfl
  -- Each stage gives what it gave before, so the parts are the parts of the other run too.
  let again : Compilation { generator with symbols := SymbolTable.ofFiles more } file := {
    context := other
    types, uses, services, naming, imports
    resolved := context_eq_ok.mpr ⟨chosen, foundMore, rfl⟩
    built := Code.buildTypes_refines agrees _ _ _ built
    declared := Rpc.declareServices_refines agrees _ _ _ _ declared
    imported := imported }
  exact again.generateFile_eq

/-- A run over files that all can be generated gives their outputs and warnings in order. -/
theorem generateFiles_eq_ok {generator : Generator} {files : List File} {output : File → GeneratedFile}
    {warned : File → List Warning}
    (each : ∀ file ∈ files, generator.generateFile file = (.ok (output file), warned file)) :
    generator.generateFiles files = .ok (files.map output, files.flatMap warned) := by
  induction files with
  | nil => rfl
  | cons file files ih =>
    have others := ih fun other member => each other (List.mem_cons_of_mem _ member)
    simp only [generateFiles, each file List.mem_cons_self, others, bind, Except.bind]
    rfl

/-- A run that succeeds generates its files one by one. -/
theorem generateFiles_forall₂ {generator : Generator} {files : List File}
    {outputs : List GeneratedFile} {warnings : List Warning}
    (generated : generator.generateFiles files = .ok (outputs, warnings)) :
    List.Forall₂ (fun file output => (generator.generateFile file).1 = .ok output) files outputs := by
  induction files generalizing outputs warnings with
  | nil =>
    cases generated
    exact .nil
  | cons first files ih =>
    obtain ⟨output, isFirst, rest⟩ := except_bind_eq_ok generated
    obtain ⟨⟨others, moreWarnings⟩, isRest, last⟩ := except_bind_eq_ok rest
    cases last
    exact .cons isFirst (ih isRest)

/-- In a series that succeeds every file has an output. -/
theorem exists_output_of_generateFiles {generator : Generator} {files : List File}
    {outputs : List GeneratedFile} {warnings : List Warning}
    (generated : generator.generateFiles files = .ok (outputs, warnings)) :
    ∀ file ∈ files, ∃ output, (generator.generateFile file).1 = .ok output := by
  intro file member
  obtain ⟨output, _, isOutput⟩ := exists_right_of_forall₂ (generateFiles_forall₂ generated) member
  exact ⟨output, isOutput⟩

theorem ofRequest_eq_ok {request more : Request} (sameParameter : more.parameter = request.parameter)
    (sameVersion : more.compilerVersion = request.compilerVersion) {generator : Generator}
    (chosen : ofRequest request = .ok generator) :
    generator.symbols = SymbolTable.ofFiles request.files ∧
      ofRequest more = .ok { generator with symbols := SymbolTable.ofFiles more.files } := by
  obtain ⟨options, parsed, rest⟩ := except_bind_eq_ok chosen
  obtain ⟨style, selected, last⟩ := except_bind_eq_ok rest
  cases last
  refine ⟨rfl, ?_⟩
  rw [ofRequest, sameParameter, parsed, sameVersion]
  simp only [bind, Except.bind, selected]
  rfl

/-- What a run generates for a file does not depend on the other files of the run, nor on their order. -/
theorem output_independent_of_other_files (request more : Request)
    (sameParameter : more.parameter = request.parameter)
    (sameVersion : more.compilerVersion = request.compilerVersion)
    (subset : request.files ⊆ more.files) (named : WellNamed request.files)
    (namedMore : WellNamed more.files) :
    (∀ generator, ofRequest request = .ok generator →
      ∃ other, ofRequest more = .ok other ∧ ∀ file ∈ request.files, ∀ output,
        (generator.generateFile file).1 = .ok output →
        other.generateFile file = (.ok output, (generator.generateFile file).2)) ∧
    (request.files.Perm more.files → ∀ outputs warnings, generate request = .ok (outputs, warnings) →
      ∃ (output : File → GeneratedFile) (warned : File → List Warning),
        outputs = request.files.map output ∧ warnings = request.files.flatMap warned ∧
        generate more = .ok (more.files.map output, more.files.flatMap warned)) := by
  constructor
  · intro generator chosen
    obtain ⟨table, chosenMore⟩ := ofRequest_eq_ok sameParameter sameVersion chosen
    refine ⟨_, chosenMore, fun file member output generated => ?_⟩
    exact generateFile_of_subset named namedMore subset table member generated
  · intro permuted outputs warnings generated
    obtain ⟨generator, chosen, ran⟩ := except_bind_eq_ok generated
    obtain ⟨table, chosenMore⟩ := ofRequest_eq_ok sameParameter sameVersion chosen
    -- What the first run generates for a file, as a function of the file.
    let output (file : File) : GeneratedFile := (generator.generateFile file).1.toOption.getD default
    let warned (file : File) : List Warning := (generator.generateFile file).2
    have each : ∀ file ∈ request.files, (generator.generateFile file).1 = .ok (output file) := by
      intro file member
      obtain ⟨given, isGiven⟩ := exists_output_of_generateFiles ran file member
      simp [output, isGiven, Except.toOption]
    have here : generator.generateFiles request.files =
        .ok (request.files.map output, request.files.flatMap warned) :=
      generateFiles_eq_ok fun file member => Prod.ext (each file member) rfl
    have there : ({ generator with symbols := SymbolTable.ofFiles more.files } : Generator).generateFiles
        more.files = .ok (more.files.map output, more.files.flatMap warned) := by
      refine generateFiles_eq_ok fun file member => ?_
      have isRequested := permuted.mem_iff.mpr member
      exact generateFile_of_subset named namedMore subset table isRequested (each file isRequested)
    cases Except.ok.inj (ran.symm.trans here)
    refine ⟨output, warned, rfl, rfl, ?_⟩
    rw [generate, chosenMore]
    exact there

def units : File :=
  { name := "units.proto"
    package := some "units"
    enums := [{ name := "Unit", values := [{ name := "METER", number := 0 }] }]
    messages := [{ name := "Length", nestedMessages := [{ name := "Unit" }] }] }

/-- A file that refers to it and to itself. -/
def parcels : File :=
  { name := "parcels.proto"
    dependencies := ["units.proto"]
    messages := [{
      name := "Parcel"
      fields := [
        { name := "unit", number := 1, cardinality := .singular, kind := .enum,
          typeName := some ".units.Unit" },
        { name := "inner", number := 2, cardinality := .repeated, kind := .message,
          typeName := some ".Parcel" }] }]
    services := [{ name := "Post", methods := [
      { name := "Send", inputType := ".Parcel", outputType := ".units.Length",
        clientStreaming := true }] }] }

/-- A file that declares some of the same names in another place. -/
def letters : File :=
  { name := "letters.proto"
    dependencies := ["units.proto"]
    enums := [{ name := "Unit" }]
    messages := [{ name := "Letter", nestedMessages := [{ name := "Parcel" }] }] }

def webRequest (files : List File) : Request :=
  { files, parameter := "style=grpc-web" }

theorem output_independent_of_other_files_for_parcels :
    (∃ generator other output, ofRequest (webRequest [units, parcels]) = .ok generator ∧
      ofRequest (webRequest [letters, parcels, units]) = .ok other ∧
      (generator.generateFile parcels).1 = .ok output ∧
      (other.generateFile parcels).1 = .ok output) ∧
    ∃ outputs warnings, generate (webRequest [units, parcels]) = .ok (outputs, warnings) ∧
      ∃ (output : File → GeneratedFile) (warned : File → List Warning),
        outputs = [units, parcels].map output ∧ warnings = [units, parcels].flatMap warned ∧
        generate (webRequest [parcels, units]) =
          .ok ([parcels, units].map output, [parcels, units].flatMap warned) := by
  have named : WellNamed [units, parcels] := by decide +kernel
  have permuted : [units, parcels].Perm [parcels, units] := List.Perm.swap parcels units []
  have member : parcels ∈ [units, parcels] := List.mem_cons_of_mem units (List.mem_singleton_self parcels)
  obtain ⟨⟨outputs, warnings⟩, generated⟩ :=
    exists_ok_of_isOk (by decide +kernel : (generate (webRequest [units, parcels])).isOk = true)
  constructor
  · obtain ⟨generator, chosen, ran⟩ := except_bind_eq_ok generated
    obtain ⟨output, isOutput⟩ := exists_output_of_generateFiles ran parcels member
    have subset : [units, parcels] ⊆ [letters, parcels, units] :=
      List.Subset.trans permuted.subset (List.subset_cons_self letters _)
    have independent := output_independent_of_other_files (webRequest [units, parcels])
      (webRequest [letters, parcels, units]) rfl rfl subset named (by decide +kernel)
    obtain ⟨other, chosenOther, agrees⟩ := independent.1 generator chosen
    have sameOutput := agrees parcels member output isOutput
    exact ⟨generator, other, output, chosen, chosenOther, isOutput, by rw [sameOutput]⟩
  · have independent := output_independent_of_other_files (webRequest [units, parcels])
      (webRequest [parcels, units]) rfl rfl permuted.subset named (by decide +kernel)
    exact ⟨outputs, warnings, generated, independent.2 permuted outputs warnings generated⟩

end Generator

end Typewire
