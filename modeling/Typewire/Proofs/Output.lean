import Typewire.Proofs.Emission
import Typewire.Proofs.Services

/-!
# Generated files and their parts

A file is generated in stages: its types are built, its services are declared, its imports are listed. The
structures here hold what the stages gave. The names of all parts come from one supply: types take theirs
first, then imports and second names, then services; so no two parts have a name in common.
-/
namespace Typewire

open Schema (Enum File Message WellNamed fullName)
open Code

namespace Generator

/-! ### Stages -/

/-- The types of a file, as they were built. -/
structure Translation (symbols : SymbolTable) (style : Style) (file : File) where
  context : Context
  types : List Declaration
  /-- The second names used by the types. -/
  uses : RootUses
  resolved : Generator.context symbols style file = .ok context
  built : (buildTypes context).run [] = (.ok types, uses)

/-- Declarations for the services of a file: those that were made, or none as long as none were made. -/
def Translation.Serves {symbols : SymbolTable} {style : Style} {file : File}
    (translation : Translation symbols style file) (services : List Declaration) : Prop :=
  services = [] ∨ ∃ naming, (Rpc.declareServices style translation.context).run
    { pool := translation.context.imports.pool } = (.ok services, naming)

/-- The body of a file: its types, what was made for its services, and the second names in use. -/
def Translation.body {symbols : SymbolTable} {style : Style} {file : File}
    (translation : Translation symbols style file) (services : List Declaration) : List Declaration :=
  translation.types ++ (services ++ secondNames translation.uses)

/-- Everything that a generated file is made of. -/
structure Compilation (generator : Generator) (file : File) extends
    Translation generator.symbols generator.style file where
  services : List Declaration
  naming : Rpc.Naming
  imports : List Import
  declared : (Rpc.declareServices generator.style context).run { pool := context.imports.pool } =
    (.ok services, naming)
  imported : generator.importsOf context = .ok imports

namespace Compilation

variable {generator : Generator} {file : File}

def body (compilation : Compilation generator file) : List Declaration :=
  compilation.toTranslation.body compilation.services

def source (compilation : Compilation generator file) : Source :=
  { schemaFile := file.name
    compilerVersion := generator.compilerVersion.text
    imports := compilation.imports
    body := wrap generator.style file compilation.body }

def output (compilation : Compilation generator file) : GeneratedFile :=
  { name := Path.outputName file.name, content := compilation.source.text }

theorem serves (compilation : Compilation generator file) :
    compilation.toTranslation.Serves compilation.services :=
  .inr ⟨compilation.naming, compilation.declared⟩

end Compilation

/-- Generates a file and keeps its parts. -/
def compile? (generator : Generator) (file : File) : Option (Compilation generator file) :=
  match resolved : Generator.context generator.symbols generator.style file with
  | .error _ => none
  | .ok context =>
    match built : (buildTypes context).run [] with
    | (.error _, _) => none
    | (.ok types, uses) =>
      match declared : (Rpc.declareServices generator.style context).run
          { pool := context.imports.pool } with
      | (.error _, _) => none
      | (.ok services, naming) =>
        match imported : generator.importsOf context with
        | .error _ => none
        | .ok imports => some {
            context, types, uses, resolved, built, services, naming, imports, declared, imported }

/-- A file has a context exactly if its names can be resolved. -/
theorem context_eq_ok {symbols : SymbolTable} {style : Style} {file : File} {context : Context} :
    Generator.context symbols style file = .ok context ↔
      ∃ imports, Imports.resolve symbols file = .ok imports ∧
        context = { file, symbols, imports, wraps := style.wraps } := by
  constructor
  · intro resolved
    obtain ⟨imports, found, last⟩ := except_bind_eq_ok resolved
    exact ⟨imports, found, (Except.ok.inj last).symm⟩
  · rintro ⟨imports, found, rfl⟩
    rw [Generator.context, found]
    rfl

/-- The types of a file were built in a context that was resolved for it. -/
theorem Translation.settled {files : List File} {symbols : SymbolTable} {style : Style} {file : File}
    (translation : Translation symbols style file) (table : symbols = SymbolTable.ofFiles files)
    (named : WellNamed files) (member : file ∈ files) :
    translation.context.Settled files ∧ translation.context.file = file ∧
      translation.context.wraps = style.wraps := by
  obtain ⟨imports, found, shape⟩ := context_eq_ok.mp translation.resolved
  rw [shape]
  exact ⟨⟨named, member, table, found⟩, rfl, rfl⟩

/-- With all its parts a file is generated. -/
theorem Compilation.generateFile_eq {generator : Generator} {file : File}
    (compilation : Compilation generator file) :
    generator.generateFile file = (.ok compilation.output, compilation.naming.warnings) := by
  obtain ⟨⟨context, types, uses, resolved, built⟩, services, naming, imports, declared, imported⟩ :=
    compilation
  obtain ⟨chosen, _, rfl⟩ := context_eq_ok.mp resolved
  rw [generateFile, resolved]
  simp only [built, declared, assemble, imported, bind, Except.bind]
  rw [List.append_assoc]
  rfl

/-- A generated file has all its parts. -/
theorem exists_compilation {generator : Generator} {file : File} {output : GeneratedFile}
    (generated : (generator.generateFile file).1 = .ok output) :
    ∃ compilation : Compilation generator file, compilation.output = output := by
  -- A stage that fails ends the run, so the output is there only if all of them succeed.
  rw [generateFile] at generated
  split at generated
  next => cases generated
  next context resolved =>
    obtain ⟨chosen, _, shape⟩ := context_eq_ok.mp resolved
    split at generated
    next => cases generated
    next types uses built =>
      dsimp only at generated
      split at generated
      next => cases generated
      next services naming declared =>
        obtain ⟨imports, imported, last⟩ := except_bind_eq_ok generated
        refine
          ⟨⟨⟨context, types, uses, resolved, built⟩, services, naming, imports, declared, imported⟩, ?_⟩
        subst shape
        rw [← Except.ok.inj last, Compilation.output, Compilation.source, Compilation.body,
          Translation.body, List.append_assoc]

/-! ### Names of the parts -/

section Names

variable {context : Context} {files : List File} {types : List Declaration} {uses : RootUses}
  {style : Style} {services : List Declaration}

theorem uses_recorded (settled : context.Settled files)
    (built : (buildTypes context).run [] = (.ok types, uses)) : Recorded context uses :=
  (buildScope_moves settled _ _ _ [] _ uses built (recorded_nil context)).1

/-- Whatever is declared in a namespace of the types, imports avoid its name. -/
theorem ownName_mem_reserved (settled : context.Settled files)
    (built : (buildTypes context).run [] = (.ok types, uses)) {place : List String} {name : String}
    (declared : name ∈ (inside types place).filterMap Declaration.ownName?) :
    name ∈ Imports.reserved context.symbols context.file := by
  have nonempty : inside types place ≠ [] := by
    intro empty
    simp [empty] at declared
  obtain ⟨scope, enums, messages, site⟩ := site_of_inside settled built nonempty
  rw [ownNames_at settled built site] at declared
  exact settled.mem_reserved site declared

/-- A file declares the second names that it uses, and no others. -/
theorem mem_secondNames {decl : Declaration} : decl ∈ secondNames uses ↔
    ∃ entry ∈ uses, decl = .secondName entry.1 entry.2 := by
  simp only [secondNames, List.mem_map, List.mem_mergeSort, Prod.exists]
  constructor
  · rintro ⟨name, root, member, rfl⟩
    exact ⟨name, root, member, rfl⟩
  · rintro ⟨name, root, member, rfl⟩
    exact ⟨name, root, member, rfl⟩

theorem ownNames_secondNames (uses : RootUses) :
    (secondNames uses).filterMap Declaration.ownName? =
      (uses.mergeSort fun a b => decide (a.1 ≤ b.1)).map Prod.fst := by
  rw [secondNames, List.filterMap_map, ← List.filterMap_eq_map]
  rfl

theorem mem_ownNames_secondNames {name : String} :
    name ∈ (secondNames uses).filterMap Declaration.ownName? ↔ ∃ root, (name, root) ∈ uses := by
  rw [ownNames_secondNames]
  simp [List.mem_mergeSort]

theorem secondNames_nodup (recorded : Recorded context uses) :
    ((secondNames uses).filterMap Declaration.ownName?).Nodup := by
  rw [ownNames_secondNames]
  -- Sorting does not change which names are declared.
  have sorted := (List.mergeSort_perm uses fun a b => decide (a.1 ≤ b.1)).map Prod.fst
  exact sorted.nodup_iff.mpr recorded.distinct

/-- A second name in use is declared once. -/
theorem named_secondNames (recorded : Recorded context uses) {name root : String}
    (used : (name, root) ∈ uses) : named (secondNames uses) name = [.secondName name root] :=
  named_eq_singleton (secondNames_nodup recorded) (mem_secondNames.mpr ⟨_, used, rfl⟩) rfl

/-- What was made for services was declared under free names. -/
theorem Translation.Serves.declared {symbols : SymbolTable} {file : File}
    {translation : Translation symbols style file} (serves : translation.Serves services) :
    ∀ decl ∈ services, Rpc.ServiceDeclared style translation.context
      translation.context.imports.pool decl := by
  rcases serves with rfl | ⟨naming, declared⟩
  · simp
  · exact (Rpc.declareServices_ensures style translation.context _ _ _
      (Rpc.Fresh.initial _) declared).2

/-- Services and second names stand beside the types under names of their own. -/
theorem beside (settled : context.Settled files)
    (built : (buildTypes context).run [] = (.ok types, uses))
    (declared : ∀ decl ∈ services, Rpc.ServiceDeclared style context context.imports.pool decl) :
    Beside types (services ++ secondNames uses) := by
  constructor
  · intro decl member
    rcases List.mem_append.mp member with isService | isSecond
    · exact (declared decl isService).isBeside
    · obtain ⟨entry, _, rfl⟩ := mem_secondNames.mp isSecond
      rfl
  · intro name isName place isType
    -- Both kinds of names were chosen to avoid the names of types.
    have reserved := ownName_mem_reserved settled built isType
    rw [List.filterMap_append] at isName
    rcases List.mem_append.mp isName with ofService | ofSecond
    · obtain ⟨decl, member, isNamed⟩ := List.mem_filterMap.mp ofService
      exact (declared decl member).free name isNamed (settled.mem_taken.mpr (.inr reserved))
    · obtain ⟨root, used⟩ := mem_ownNames_secondNames.mp ofSecond
      exact settled.root_not_reserved ((uses_recorded settled built).isRoot _ used) reserved

end Names

end Generator

end Typewire
