import Mathlib.Data.List.Flatten
import Typewire.Proofs.ForeignReferences
import Typewire.Proofs.ServiceNames

/-!
# Names of one generated file

Names enter a generated file at different times: types are named when the symbols are recorded, imports and
second names when the file is resolved, service classes when they are declared. Each step takes its names
from the pool that the step before it left, and the first pool holds the names of all types of the file, at
whatever depth. So no two things of the file have a name in common.

## Main result

`names_told_apart`: imports and declarations at the top of a file have distinct names, what is no type also
avoids the names in all namespaces of the file and the first namespace of its package, and the declarations
of each namespace have distinct names.
-/
namespace Typewire

open Schema (Enum File Message WellNamed)
open Code

namespace Code

/-- The name of the type that a namespace adds to. -/
def Declaration.addsTo? : Declaration → Option String
  | .namespaced name _ => some name
  | _ => none

/-- Declarations that stand together under distinct names. Only a class and its namespace have a name in
common. -/
structure ToldApart (decls : List Declaration) : Prop where
  own : (decls.filterMap Declaration.ownName?).Nodup
  once : (decls.filterMap Declaration.addsTo?).Nodup
  merged : ∀ name ∈ decls.filterMap Declaration.addsTo?,
    ∃ decl, .messageClass decl ∈ decls ∧ decl.name = name

/-! ### Namespaces of types -/

/-- A class has at most one namespace, and it is of the same name. -/
theorem withNested_addsTo (decl : MessageClass) (nested : List Declaration) :
    ((withNested decl nested).filterMap Declaration.addsTo?).Sublist [decl.name] := by
  rw [withNested]
  split
  · exact List.nil_sublist _
  · exact List.Sublist.refl _

section Types

variable {context : Context} {files : List File} {start finish : RootUses} {path : List String}
  {scope : String} {enums : List Enum} {messages : List Message} {body decls : List Declaration}
  {classes : List (MessageClass × List Declaration)}

/-- Of the declarations at a site only classes have namespaces, each class one at most. -/
theorem ScopeMade.addsTo_sublist
    (scopeMade : ScopeMade context start finish path scope enums messages body decls classes) :
    (body.filterMap Declaration.addsTo?).Sublist (classes.map fun made => made.1.name) := by
  have noEnums : decls.filterMap Declaration.addsTo? = [] := by
    rw [List.filterMap_eq_nil_iff]
    intro decl member
    obtain ⟨enum, _, built⟩ := exists_left_of_forall₂ scopeMade.enumerations member
    obtain ⟨symbol, _, rfl⟩ := buildEnum_eq_ok built
    rfl
  rw [scopeMade.body_eq, List.filterMap_append, noEnums, List.nil_append, List.filterMap_flatMap,
    List.map_eq_flatMap]
  exact List.Sublist.flatMap_right classes fun made _ => withNested_addsTo made.1 made.2

/-- The types of a scope have distinct names, as their site gave them. -/
theorem ScopeMade.toldApart
    (scopeMade : ScopeMade context start finish path scope enums messages body decls classes) :
    ToldApart body where
  own := scopeMade.ownNames ▸ Symbol.atSite_names_nodup _ _ _
  once := scopeMade.classNames_nodup.sublist scopeMade.addsTo_sublist
  merged := by
    intro name isName
    obtain ⟨decl, member, adds⟩ := List.mem_filterMap.mp isName
    cases decl with
    | namespaced given nested =>
      obtain rfl : given = name := Option.some.inj adds
      obtain ⟨made, _, emitted, sameName⟩ := scopeMade.class_of_namespaced member
      exact ⟨made.1, emitted, sameName⟩
    | _ => cases adds

/-- At every place among the types, declarations can be told apart. -/
theorem types_toldApart (settled : context.Settled files) {types : List Declaration} {uses : RootUses}
    (built : (buildTypes context).run [] = (.ok types, uses)) (place : List String) :
    ToldApart (inside types place) := by
  by_cases empty : inside types place = []
  · rw [empty]
    exact ⟨List.nodup_nil, List.nodup_nil, by simp⟩
  · obtain ⟨scope, enums, messages, site⟩ := site_of_inside settled built empty
    obtain ⟨decls, classes, scopeMade⟩ := scopeMade_at settled built site
    exact scopeMade.toldApart

end Types

theorem Declaration.addsTo?_of_isBeside {decl : Declaration} (isBeside : decl.isBeside = true) :
    decl.addsTo? = none := by
  cases decl <;> first | rfl | cases isBeside

/-- Declarations beside types stay apart from them if they have distinct names themselves. -/
theorem Beside.toldApart {types others : List Declaration} (beside : Beside types others)
    (apart : ToldApart types) (distinct : (others.filterMap Declaration.ownName?).Nodup) :
    ToldApart (types ++ others) := by
  have adds : (types ++ others).filterMap Declaration.addsTo? = types.filterMap Declaration.addsTo? := by
    have none : others.filterMap Declaration.addsTo? = [] := by
      rw [List.filterMap_eq_nil_iff]
      exact fun decl member => Declaration.addsTo?_of_isBeside (beside.noTypes decl member)
    rw [List.filterMap_append, none, List.append_nil]
  refine ⟨?_, adds ▸ apart.once, ?_⟩
  · rw [List.filterMap_append, List.nodup_append']
    exact ⟨apart.own, distinct, fun name ofType ofOther => beside.apart name ofOther [] ofType⟩
  · intro name isName
    rw [adds] at isName
    obtain ⟨decl, emitted, sameName⟩ := apart.merged name isName
    exact ⟨decl, List.mem_append_left _ emitted, sameName⟩

end Code

namespace Generator

/-! ### Names from the pool of a file -/

section Imports

variable {generator : Generator} {context : Context} {files : List File} {imports : List Import}
  {name : String}

/-- The names of imports come from the pool of the file. -/
theorem importName_taken (settled : context.Settled files)
    (imported : generator.importsOf context = .ok imports) (isName : name ∈ imports.map Import.name) :
    name ∈ context.imports.pool.taken := by
  rw [importNames_eq imported] at isName
  apply settled.mem_taken.mpr
  rcases List.mem_append.mp isName with ofFile | ofFramework
  · exact .inl (List.mem_append_right _ (List.mem_append_left _ ofFile))
  · exact .inl (List.mem_append_left _ ofFramework)

theorem importName_not_reserved (settled : context.Settled files)
    (imported : generator.importsOf context = .ok imports) (isName : name ∈ imports.map Import.name) :
    name ∉ Imports.reserved context.symbols context.file := by
  rw [importNames_eq imported] at isName
  apply settled.resolution.gives.fresh
  rcases List.mem_append.mp isName with ofFile | ofFramework
  · exact List.mem_append_right _ (List.mem_append_left _ ofFile)
  · exact List.mem_append_left _ ofFramework

/-- Second names were given after the names of imports. -/
theorem importName_not_root (settled : context.Settled files)
    (imported : generator.importsOf context = .ok imports) (isName : name ∈ imports.map Import.name)
    (root : String) : context.imports.roots.get? root ≠ some name := by
  intro isRoot
  have distinct := settled.resolution.gives.distinct
  rw [← List.append_assoc] at distinct
  rw [importNames_eq imported] at isName
  have ofImport : name ∈ [context.imports.runtime, context.imports.rpc] ++
      context.imports.files.map Prod.snd := List.mem_append.mpr (List.mem_append.mp isName).symm
  exact (List.nodup_append.mp distinct).2.2 name ofImport name (OrderedMap.value_mem_of_get? isRoot) rfl

end Imports

section Names

variable {generator : Generator} {file : File} {files : List File}

/-- The names of everything in a generated file that is no type: imports, service classes, call interfaces
and second names. -/
def Compilation.chosenNames (compilation : Compilation generator file) : List String :=
  compilation.imports.map Import.name ++
    (compilation.body.filter Declaration.isBeside).filterMap Declaration.ownName?

variable {compilation : Compilation generator file}

/-- A declaration beside the types was made for services or is a second name. -/
theorem Compilation.mem_beside (settled : compilation.context.Settled files) {decl : Declaration}
    (member : decl ∈ compilation.body) (isBeside : decl.isBeside = true) :
    decl ∈ compilation.services ∨ decl ∈ secondNames compilation.uses := by
  rcases List.mem_append.mp member with isType | isOther
  · rw [isBeside_of_mem settled compilation.built isType] at isBeside
    cases isBeside
  · exact List.mem_append.mp isOther

/-- Every name that is chosen for no type avoids the names of all types. -/
theorem Compilation.chosen_not_reserved (settled : compilation.context.Settled files) {name : String}
    (isChosen : name ∈ compilation.chosenNames) :
    name ∉ Imports.reserved compilation.context.symbols compilation.context.file := by
  rcases List.mem_append.mp isChosen with ofImport | ofBeside
  · exact importName_not_reserved settled compilation.imported ofImport
  · obtain ⟨decl, member, isNamed⟩ := List.mem_filterMap.mp ofBeside
    obtain ⟨inBody, isBeside⟩ := List.mem_filter.mp member
    rcases compilation.mem_beside settled inBody isBeside with isService | isSecond
    · intro reserved
      exact (compilation.serves.declared decl isService).free name isNamed
        (settled.mem_taken.mpr (.inr reserved))
    · obtain ⟨entry, used, rfl⟩ := mem_secondNames.mp isSecond
      obtain rfl : entry.1 = name := Option.some.inj isNamed
      exact settled.root_not_reserved ((uses_recorded settled compilation.built).isRoot _ used)

/-- Services and second names have distinct names: those of services were chosen last. -/
theorem Compilation.beside_nodup (settled : compilation.context.Settled files)
    (distinct : (compilation.context.file.services.map (·.name)).Nodup) :
    ((compilation.services ++ secondNames compilation.uses).filterMap Declaration.ownName?).Nodup := by
  have recorded := uses_recorded settled compilation.built
  rw [List.filterMap_append, List.nodup_append']
  refine ⟨Rpc.declareServices_nodup distinct compilation.declared, secondNames_nodup recorded, ?_⟩
  intro name ofService ofSecond
  obtain ⟨decl, isService, isNamed⟩ := List.mem_filterMap.mp ofService
  obtain ⟨root, used⟩ := mem_ownNames_secondNames.mp ofSecond
  exact (compilation.serves.declared decl isService).free name isNamed
    (settled.root_taken (recorded.isRoot _ used))

/-- No declaration of the body has the name of an import. -/
theorem Compilation.imports_disjoint (settled : compilation.context.Settled files) :
    List.Disjoint (compilation.imports.map Import.name)
      (compilation.body.filterMap Declaration.ownName?) := by
  intro name ofImport ofBody
  obtain ⟨decl, member, isNamed⟩ := List.mem_filterMap.mp ofBody
  rcases List.mem_append.mp member with isType | isOther
  · have isOwn : name ∈ (inside compilation.types []).filterMap Declaration.ownName? :=
      List.mem_filterMap.mpr ⟨decl, isType, isNamed⟩
    exact importName_not_reserved settled compilation.imported ofImport
      (ownName_mem_reserved settled compilation.built isOwn)
  · rcases List.mem_append.mp isOther with isService | isSecond
    · exact (compilation.serves.declared decl isService).free name isNamed
        (importName_taken settled compilation.imported ofImport)
    · obtain ⟨entry, used, rfl⟩ := mem_secondNames.mp isSecond
      obtain rfl : entry.1 = name := Option.some.inj isNamed
      exact importName_not_root settled compilation.imported ofImport entry.2
        ((uses_recorded settled compilation.built).isRoot _ used)

/-- No two things in a generated file have the same name. -/
theorem names_told_apart (named : WellNamed files) (table : generator.symbols = SymbolTable.ofFiles files)
    (member : file ∈ files) (distinctServices : (file.services.map (·.name)).Nodup)
    {output : GeneratedFile} (generated : (generator.generateFile file).1 = .ok output) :
    ∃ compilation : Compilation generator file, compilation.output = output ∧
      (compilation.imports.map Import.name ++ compilation.body.filterMap Declaration.ownName?).Nodup ∧
      (∀ name ∈ compilation.chosenNames,
        (∀ package, file.package? = some package →
          name ≠ Name.legalize (Text.firstSegment package)) ∧
        ∀ place ≠ [], name ∉ (inside compilation.body place).filterMap Declaration.ownName?) ∧
      ∀ place, ToldApart (inside compilation.body place) := by
  obtain ⟨compilation, isOutput⟩ := exists_compilation generated
  obtain ⟨settled, isFile, _⟩ := compilation.toTranslation.settled table named member
  have besideTypes := beside settled compilation.built compilation.serves.declared
  have distinct := compilation.beside_nodup settled (isFile.symm ▸ distinctServices)
  have top : ToldApart compilation.body :=
    besideTypes.toldApart (types_toldApart settled compilation.built []) distinct
  -- Everything beside the types stands at the top, so further down there are types only.
  refine ⟨compilation, isOutput, ?_, ?_, ?_⟩
  · rw [List.nodup_append']
    exact ⟨importNames_nodup settled compilation.imported, top.own, compilation.imports_disjoint settled⟩
  · intro name isChosen
    have free := compilation.chosen_not_reserved settled isChosen
    constructor
    · rintro package isPackage rfl
      apply free
      rw [isFile, Imports.reserved, isPackage]
      exact List.mem_append_right _ List.mem_cons_self
    · intro place below isOwn
      rw [Compilation.body, Translation.body, besideTypes.inside_below below] at isOwn
      exact free (ownName_mem_reserved settled compilation.built isOwn)
  · intro place
    by_cases atTop : place = []
    · exact atTop ▸ top
    · rw [Compilation.body, Translation.body, besideTypes.inside_below atTop]
      exact types_toldApart settled compilation.built place

/-- A file whose types have the names that imports, services and second names would have. -/
def tangle : File :=
  { name := "tangle.proto"
    package := some "pb_3.class"
    dependencies := ["figures.proto"]
    enums := [{ name := "dependency_1" }, { name := "class" }]
    messages := [
      { name := "pb_1" },
      { name := "class_" },
      { name := "EchoClient" },
      { name := "EchoClient_1"
        nestedMessages := [
          { name := "pb_1", nestedMessages := [{ name := "pb_2" }] },
          { name := "GrpcUnaryServiceInterface"
            fields := [messageField "outer" 1 ".pb_3.class.pb_1"] }] }]
    services := [{ name := "Echo", methods := [
      { name := "Call", inputType := ".pb_3.class.EchoClient", outputType := ".figures.Shape" }] }] }

def tangleCompilation : Compilation (nodeGenerator [tangle, figures]) tangle :=
  (compile? (nodeGenerator [tangle, figures]) tangle).get (by decide +kernel)

theorem names_told_apart_in_tangle :
    WellNamed [tangle, figures] ∧ (tangle.services.map (·.name)).Nodup ∧
    tangleCompilation.chosenNames = ["dependency_2", "pb_4", "grpc_1", "GrpcUnaryServiceInterface_1",
      "GrpcStreamServiceInterface", "GrpcWritableServiceInterface", "GrpcChunkServiceInterface",
      "UnimplementedEchoService", "EchoClient_2", "pb_1_1"] ∧
    ∃ compilation : Compilation (nodeGenerator [tangle, figures]) tangle,
      compilation.output = tangleCompilation.output ∧
      (compilation.imports.map Import.name ++ compilation.body.filterMap Declaration.ownName?).Nodup ∧
      (∀ name ∈ compilation.chosenNames,
        (∀ package, tangle.package? = some package →
          name ≠ Name.legalize (Text.firstSegment package)) ∧
        ∀ place ≠ [], name ∉ (inside compilation.body place).filterMap Declaration.ownName?) ∧
      ∀ place, ToldApart (inside compilation.body place) := by
  have named : WellNamed [tangle, figures] := by decide +kernel
  have distinctServices : (tangle.services.map (·.name)).Nodup := by decide
  have generated := congrArg Prod.fst tangleCompilation.generateFile_eq
  exact ⟨named, distinctServices, by decide +kernel,
    names_told_apart named rfl List.mem_cons_self distinctServices generated⟩

end Names

end Generator

end Typewire
