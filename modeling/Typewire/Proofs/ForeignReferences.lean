import Typewire.Proofs.LocalReferences

/-!
# References to other files

A reference to a type of another file is the name of an import followed by a path. One side decides how the
path is spelled, the other side what it declares and whether it is wrapped in the namespace of its package;
here the two are shown to agree. The name of the import stands for one import and is taken by nothing else
in the body, so no namespace around the reference captures it.

## Main result

`cross_file_references_land`: every member of every emitted class and every method of every service class
whose type is declared in another file reaches what that file emits for the type.
-/
namespace Typewire

open Schema (Enum File Message WellNamed fullName)
open Code

namespace Generator

/-! ### Imports -/

/-- Another file is imported under the name that resolution gave it, by the path from the importing file. -/
theorem fileImport_eq_ok {file : File} {entry : String × String} {made : Import}
    (imported : fileImport file entry = .ok made) :
    ∃ module, Path.importPath? file.name entry.1 = some module ∧ made = { name := entry.2, module } := by
  rw [fileImport] at imported
  split at imported
  next module found => exact ⟨module, found, (Except.ok.inj imported).symm⟩
  next => cases imported

/-- The imports of a file are those of other files, then the runtime and the RPC framework. -/
theorem importsOf_eq_ok {generator : Generator} {context : Context} {imports : List Import}
    (imported : generator.importsOf context = .ok imports) :
    ∃ others runtime rpc, imports = others ++ [runtime, rpc] ∧
      runtime.name = context.imports.runtime ∧ rpc.name = context.imports.rpc ∧
      List.Forall₂ (fun entry made => fileImport context.file entry = .ok made)
        context.imports.files others := by
  obtain ⟨others, traversed, last⟩ := except_bind_eq_ok imported
  exact ⟨others, _, _, (Except.ok.inj last).symm, rfl, rfl, (except_mapM_eq_ok_iff _ _ _).mp traversed⟩

/-- The other files are imported first, then the two frameworks. -/
theorem importNames_eq {generator : Generator} {context : Context} {imports : List Import}
    (imported : generator.importsOf context = .ok imports) : imports.map Import.name =
      context.imports.files.map Prod.snd ++ [context.imports.runtime, context.imports.rpc] := by
  obtain ⟨others, runtime, rpc, rfl, isRuntime, isRpc, related⟩ := importsOf_eq_ok imported
  have sameNames : others.map Import.name = context.imports.files.map Prod.snd := by
    refine (map_eq_map_of_forall₂ (List.forall₂_same.mpr fun entry _ => rfl) related ?_).symm
    rintro entry _ made rfl isImport
    obtain ⟨module, _, rfl⟩ := fileImport_eq_ok isImport
    rfl
  simp [sameNames, isRuntime, isRpc]

/-- No two imports of a file have one name. -/
theorem importNames_nodup {context : Context} {files : List File} (settled : context.Settled files)
    {generator : Generator} {imports : List Import}
    (imported : generator.importsOf context = .ok imports) : (imports.map Import.name).Nodup := by
  rw [importNames_eq imported]
  -- The names of imports come from one pool; only their order differs from that of the imports.
  have all := settled.resolution.gives.distinct
  rw [← List.append_assoc] at all
  exact List.nodup_append_comm.mp all.of_append_left

/-- The name of another file stands for one import, the one of that file. -/
theorem imports_of_name {context : Context} {files : List File} (settled : context.Settled files)
    {generator : Generator} {imports : List Import}
    (imported : generator.importsOf context = .ok imports) {other name : String}
    (isNamed : context.imports.files.get? other = some name) :
    ∃ module, Path.importPath? context.file.name other = some module ∧
      imports.filter (fun entry => entry.name = name) = [{ name, module }] := by
  have distinct := importNames_nodup settled imported
  obtain ⟨others, runtime, rpc, rfl, _, _, related⟩ := importsOf_eq_ok imported
  obtain ⟨made, inOthers, isImport⟩ :=
    exists_right_of_forall₂ related (OrderedMap.mem_of_get? isNamed)
  obtain ⟨module, found, rfl⟩ := fileImport_eq_ok isImport
  exact ⟨module, found, filter_key_eq_singleton distinct (List.mem_append_left _ inOthers)⟩

/-! ### Packages -/

/-- The namespaces around the body of a generated file. -/
def packagePlace (style : Style) (file : File) : List String :=
  match file.package? with
  | some package => if style.wraps file then (Text.segments package).map Name.legalize else []
  | none => []

theorem packageParts_ne_nil (package : String) :
    (Text.segments package).map Name.legalize ≠ [] := by
  simpa using Text.segments_ne_nil package

theorem packageParts_dotFree (package : String) :
    ∀ part ∈ (Text.segments package).map Name.legalize, '.' ∉ part.toList := by
  intro part member
  obtain ⟨segment, isSegment, rfl⟩ := List.mem_map.mp member
  exact NamePool.legalize_dotFree (Text.dotFree_of_mem_segments isSegment)

/-- Inside the namespaces of its package stands the body of a file. -/
theorem inside_wrap (style : Style) (file : File) (body : List Declaration) :
    inside (wrap style file body) (packagePlace style file) = body := by
  rw [wrap, packagePlace]
  cases file.package? with
  | none => rfl
  | some package =>
    dsimp only
    split
    · exact inside_namespaced (packageParts_ne_nil package) (packageParts_dotFree package) body
    · rfl

/-- The exported path of a type leads through the namespaces of its package. -/
theorem segments_exportedPath {context : Context} {style : Style} (sameStyle : context.wraps = style.wraps)
    {other : File} {symbol : Symbol}
    (found : context.symbols.file? symbol.fileName = some (FileSymbols.ofFile other)) :
    Text.segments (context.exportedPath symbol) =
      packagePlace style other ++ Text.segments symbol.localPath := by
  have isFile : (FileSymbols.ofFile other).file = other := rfl
  rw [Context.exportedPath, found, packagePlace]
  dsimp only
  rw [isFile, sameStyle]
  cases other.package? with
  | none => rfl
  | some package =>
    dsimp only
    split
    · rw [Text.segments_append_dot, Name.namespacePath,
        Text.segments_joinDots (packageParts_ne_nil package) (packageParts_dotFree package)]
    · rfl

/-! ### References -/

section References

variable {generator : Generator} {file other : File} {files : List File}

/-- A text in one file reaches a type of another: it is the name of an import and a path. The import is
the only one of its name and nothing in the body is called so; the path leads from the top of the other
file to what was emitted there for the type. -/
def Reaches (source : Compilation generator file) (target : Compilation generator other)
    (typeName text : String) : Prop :=
  ∃ name path module place decl,
    text = name ++ "." ++ path ∧ Text.IsPlain name ∧
    Path.importPath? file.name other.name = some module ∧
    source.imports.filter (fun entry => entry.name = name) = [{ name, module }] ∧
    (∀ around, (inside source.body around).any (Declaration.introduces name) = false) ∧
    locate target.source.body (Text.segments path) =
      some (packagePlace generator.style other ++ place, decl) ∧
    EmittedFor other target.body typeName place decl

/-- Nothing in the body of a file has the name of an import of another file. -/
theorem not_introduced {source : Compilation generator file}
    (settled : source.context.Settled files) {dependency name : String}
    (isNamed : source.context.imports.files.get? dependency = some name) (around : List String) :
    (inside source.body around).any (Declaration.introduces name) = false := by
  have besideTypes := beside settled source.built source.serves.declared
  have notType : (inside source.types around).any (Declaration.introduces name) = false := by
    rw [Bool.eq_false_iff]
    intro introduced
    rw [any_introduces_at settled source.built] at introduced
    exact settled.fileName_not_reserved isNamed (ownName_mem_reserved settled source.built introduced)
  by_cases top : around = []
  · subst top
    -- At the top there are services and second names as well, and those avoid the names of imports.
    have notOther : (source.services ++ secondNames source.uses).any (Declaration.introduces name) =
        false := by
      rw [List.any_eq_false]
      intro decl member introduced
      have own : decl.ownName? = some name := by
        have isBeside := besideTypes.noTypes decl member
        cases decl <;> simp_all [Declaration.introduces, Declaration.isBeside]
      rcases List.mem_append.mp member with isService | isSecond
      · exact (source.serves.declared decl isService).free name own (settled.fileName_taken isNamed)
      · obtain ⟨entry, used, rfl⟩ := mem_secondNames.mp isSecond
        have isRoot := (uses_recorded settled source.built).isRoot entry used
        exact settled.fileName_not_root isNamed (Option.some.inj own ▸ isRoot)
    rw [inside] at notType
    rw [inside, Compilation.body, Translation.body, List.any_append, notType, notOther, Bool.false_or]
  · have below := besideTypes.inside_below top
    rw [Compilation.body, Translation.body, below, notType]

/-- Every spelling of a type of another file reaches the type. -/
theorem reaches_of_reference (table : generator.symbols = SymbolTable.ofFiles files)
    (named : WellNamed files) (member : file ∈ files) (otherMember : other ∈ files) (differ : file ≠ other)
    (source : Compilation generator file) (target : Compilation generator other)
    {typeName scope : String} (isForeign : typeName ∈ other.fullNames) {reference : Reference}
    (spelled : source.context.reference typeName scope = .ok reference) :
    Reaches source target typeName reference.text := by
  obtain ⟨settled, isFile, sameStyle⟩ := source.toTranslation.settled table named member
  obtain ⟨targetSettled, isTarget, _⟩ := target.toTranslation.settled table named otherMember
  obtain ⟨symbol, isSymbol, ways⟩ := Context.reference_eq_ok spelled
  obtain ⟨found, declared⟩ := Context.symbol_eq_ok.mp isSymbol
  rw [settled.table] at found
  obtain ⟨isRecorded, rfl⟩ :=
    SymbolTable.mem_ofFile_of_lookup? named otherMember isForeign found
  have isOther : symbol.fileName = other.name := Symbol.fileName_eq isRecorded
  -- This side: the type is declared elsewhere, so it is spelled through an import.
  have elsewhere : symbol.fileName ≠ source.context.file.name := by
    rw [isOther, isFile]
    exact fun equal => differ (named.eq_of_name_eq member otherMember equal.symm)
  obtain ⟨name, isNamed, rfl⟩ : ∃ name, source.context.imports.files.get? symbol.fileName = some name ∧
      reference = .imported name (source.context.exportedPath symbol) := by
    rcases ways with ⟨here, _⟩ | ⟨here, _⟩ | ⟨_, imported⟩
    · exact absurd here elsewhere
    · exact absurd here elsewhere
    · exact imported
  obtain ⟨module, modulePath, only⟩ := imports_of_name settled source.imported isNamed
  rw [isFile, isOther] at modulePath
  -- The other side: the type is emitted at the end of its path, below the namespaces of its package.
  have besideTypes := beside targetSettled target.built target.serves.declared
  obtain ⟨place, given, decl, localPath, plain, _, alone, emitted⟩ :=
    besideTypes.emitted targetSettled target.built (isTarget.symm ▸ isRecorded) declared
  rw [isTarget] at emitted
  refine ⟨name, _, module, place, decl, rfl, settled.fileName_plain isNamed, modulePath, only,
    not_introduced settled isNamed, ?_, emitted⟩
  have entry : source.context.symbols.file? symbol.fileName = some (FileSymbols.ofFile other) := by
    rw [settled.table, isOther]
    exact SymbolTable.file?_of_mem named otherMember
  rw [segments_exportedPath sameStyle entry, localPath,
    Text.segments_joinDots (by simp) fun part inPath => (plain part inPath).2, ← List.append_assoc]
  apply locate_concat
  rw [inside_append, Compilation.source, inside_wrap]
  exact alone

/-- A field that refers to a type of another file reaches it. -/
def FieldReaches (source : Compilation generator file) (target : Compilation generator other)
    (field : Schema.Field) (text : String) : Prop :=
  field.kind.isScalar = false → ∀ typeName, field.typeName = some typeName →
    typeName ∈ other.fullNames → Reaches source target typeName text

/-- A method that refers to types of another file reaches them. -/
def MethodReaches (source : Compilation generator file) (target : Compilation generator other)
    (method : Schema.Method) (made : Method) : Prop :=
  made.name = method.name ∧
    (method.inputType ∈ other.fullNames → Reaches source target method.inputType made.inputType) ∧
    (method.outputType ∈ other.fullNames → Reaches source target method.outputType made.outputType)

/-- Whatever is emitted in one file for a type of another reaches what the other emits for that type: every
member of every class, at whatever depth, and every method of every service class. -/
theorem cross_file_references_land (table : generator.symbols = SymbolTable.ofFiles files)
    (named : WellNamed files) (member : file ∈ files) (otherMember : other ∈ files) (differ : file ≠ other)
    (source : Compilation generator file) (target : Compilation generator other) :
    (∀ place decl, .messageClass decl ∈ inside source.body place →
      ∃ message, file.Declares decl.fullName message ∧
        List.Forall₂ (EachPart (FieldReaches source target)) message.fields decl.members) ∧
    (∀ decl ∈ source.body, ∀ made, decl.serviceClass? = some made →
      ∃ service ∈ file.services, made.serviceName = service.name ∧
        List.Forall₂ (MethodReaches source target)
          (service.methods.filter generator.style.supports) made.methods) := by
  obtain ⟨settled, isFile, _⟩ := source.toTranslation.settled table named member
  have declared := source.serves.declared
  have besideTypes := beside settled source.built declared
  constructor
  · intro place decl emitted
    obtain ⟨scope, enums, messages, message, site, isMessage, notEntry, isFor, spelled⟩ :=
      members_spelled settled source.built (besideTypes.class_mem emitted)
    have declares : source.context.file.Declares decl.fullName message :=
      ⟨scope, enums, messages, site.hasScope, isMessage, notEntry, isFor⟩
    refine ⟨message, isFile ▸ declares, spelled.imp fun field made each => each.imp ?_⟩
    intro part text spells notScalar typeName typed isForeign
    obtain ⟨reference, isReference, rfl, _⟩ := spells notScalar typeName typed
    exact reaches_of_reference table named member otherMember differ source target isForeign isReference
  · intro decl inBody made isClass
    -- Types and second names are no service classes.
    have isService : decl ∈ source.services := by
      rcases List.mem_append.mp inBody with isType | isOther
      · have notBeside := isBeside_of_mem settled source.built isType
        cases decl <;> simp_all [Declaration.isBeside, Declaration.serviceClass?]
      · rcases List.mem_append.mp isOther with isService | isSecond
        · exact isService
        · obtain ⟨entry, _, rfl⟩ := mem_secondNames.mp isSecond
          cases isClass
    obtain ⟨service, inFile, isFor, spelled⟩ := (declared decl isService).methods made isClass
    rw [isFile] at inFile
    refine ⟨service, inFile, isFor, spelled.imp fun method spelledMethod isSpelled => ?_⟩
    obtain ⟨input, output, isInput, isOutput, rfl⟩ := Rpc.spellMethod_eq_ok isSpelled
    refine ⟨rfl, fun isForeign => ?_, fun isForeign => ?_⟩
    · exact reaches_of_reference table named member otherMember differ source target isForeign isInput
    · exact reaches_of_reference table named member otherMember differ source target isForeign isOutput

/-- Another file, which refers to types of `figures` from inside a message that declares `figures` and
`Shape` itself. -/
def museum : File :=
  { name := "museum/museum.proto"
    package := some "museum"
    dependencies := ["figures.proto"]
    messages := [
      { name := "Hall"
        nestedMessages := [
          { name := "figures" },
          { name := "Wall"
            fields := [
              messageField "frame" 1 ".figures.Scene.Shape",
              messageField "sign" 2 ".museum.Hall.figures",
              { messageField "spots" 3 ".museum.Hall.Wall.SpotsEntry" with
                mapKey := some { name := "key", number := 1, cardinality := .singular, kind := .string }
                mapValue := some (messageField "value" 2 ".figures.Shape") }]
            nestedMessages := [{ name := "SpotsEntry", mapEntry := true }] }] }]
    services := [{ name := "Tours", methods := [
      { name := "Visit", inputType := ".museum.Hall", outputType := ".figures.Scene" }] }] }

def museumCompilation : Compilation (nodeGenerator [museum, figures]) museum :=
  (compile? (nodeGenerator [museum, figures]) museum).get (by decide +kernel)

def museumFigures : Compilation (nodeGenerator [museum, figures]) figures :=
  (compile? (nodeGenerator [museum, figures]) figures).get (by decide +kernel)

theorem cross_file_references_land_in_museum :
    WellNamed [museum, figures] ∧
    (∃ decl : MessageClass, .messageClass decl ∈ inside museumCompilation.body ["Hall"] ∧
      decl.members.map Field.typeRef =
        ["dependency_1.figures.Scene.Shape", "Hall.figures", "dependency_1.figures.Shape"] ∧
      ∃ message, museum.Declares decl.fullName message ∧
        List.Forall₂ (EachPart (FieldReaches museumCompilation museumFigures))
          message.fields decl.members) ∧
    (∃ decl ∈ museumCompilation.body, ∃ made, decl.serviceClass? = some made ∧
      made.methods.map Method.outputType = ["dependency_1.figures.Scene"] ∧
      ∃ service ∈ museum.services, made.serviceName = service.name ∧
        List.Forall₂ (MethodReaches museumCompilation museumFigures)
          (service.methods.filter Style.node.supports) made.methods) := by
  have named : WellNamed [museum, figures] := by decide +kernel
  have differ : museum ≠ figures := fun equal => absurd (congrArg File.name equal) (by decide)
  obtain ⟨classes, services⟩ := cross_file_references_land rfl named List.mem_cons_self
    (List.mem_cons_of_mem _ List.mem_cons_self) differ museumCompilation museumFigures
  refine ⟨named, ?_, ?_⟩
  · have emitted : (inside museumCompilation.body ["Hall"]).any (fun decl => match decl with
        | .messageClass made => made.members.map Field.typeRef =
          ["dependency_1.figures.Scene.Shape", "Hall.figures", "dependency_1.figures.Shape"]
        | _ => false) = true := by decide +kernel
    obtain ⟨decl, isEmitted, spelled⟩ := List.any_eq_true.mp emitted
    cases decl with
    | messageClass made =>
      exact ⟨made, isEmitted, of_decide_eq_true spelled, classes ["Hall"] made isEmitted⟩
    | _ => cases spelled
  · have emitted : museumCompilation.body.any (fun decl => match decl.serviceClass? with
        | some made => made.methods.map Method.outputType = ["dependency_1.figures.Scene"]
        | none => false) = true := by decide +kernel
    obtain ⟨decl, isEmitted, spelled⟩ := List.any_eq_true.mp emitted
    split at spelled
    next made isClass =>
      exact ⟨decl, isEmitted, made, isClass, of_decide_eq_true spelled,
        services decl isEmitted made isClass⟩
    next => cases spelled

end References

end Generator

end Typewire
