import Mathlib.Data.List.Induction
import Typewire.Proofs.MentionedTypes
import Typewire.Proofs.Output
import Typewire.Proofs.PackageCapture

/-!
# The order of dependencies

Resolution goes through the declared dependencies of a file, then through the types that the file mentions.
A file that comes up again keeps its first place, whichever of the two it came up in.

## Main result

`dependencies_listed_in_order`: resolution fails exactly at the first mention of a type that is not in the
table. Otherwise other files are listed in the order in which they first come up: they are the dependencies
and the files that declare what a field or a method mentions. Their names have ascending numbers, shadowed
roots are listed in ascending order, and the imports of a generated file follow the list.

## Proof strategy

Naming one more file leaves the list as it is or adds the file at its end, so naming a series keeps first
occurrences. Between two names of the pool for one base the number only grows, whatever else is taken.
-/
namespace Typewire

open Schema (File)
open Code (Import)

namespace NamePool

/-- A series of one base has ascending numbers, none of which was passed before. -/
theorem Allocates.exists_ascending {base : String} {pool after : NamePool} {names : List String}
    (allocates : Allocates base pool names after) :
    ∃ numbers : List Nat, names = numbers.map (numbered base) ∧ numbers.Pairwise (· < ·) ∧
      ∀ number ∈ numbers, pool.nextNumber base ≤ number := by
  induction allocates with
  | none pool => exact ⟨[], rfl, .nil, by simp⟩
  | @next pool after names others ih =>
    let first := firstFree pool.taken base (pool.nextNumber base) (pool.taken.length + 1)
    have begins : pool.nextNumber base ≤ first := start_le_firstFree _ _ _ _
    obtain ⟨numbers, rfl, ascending, behind⟩ := ih
    -- The pool resumes its search right behind the number it gave last.
    rw [nextNumber_allocate, if_pos rfl] at behind
    refine ⟨first :: numbers, rfl, List.pairwise_cons.mpr ⟨behind, ascending⟩, ?_⟩
    intro number member
    rcases List.mem_cons.mp member with rfl | later
    · exact begins
    · have passed : first + 1 ≤ number := behind number later
      omega

end NamePool

namespace SymbolTable

variable {table : SymbolTable} {names : List String}

/-! ### Looking up mentioned types -/

/-- Looking up a series of names fails at the first one that is missing. -/
theorem mapM_lookup_of_missing {missing : String}
    (first : names.find? (fun name => !table.contains name) = some missing) :
    names.mapM table.lookup = .error (.unresolvedType missing) := by
  induction names with
  | nil => cases first
  | cons name names ih =>
    rw [List.mapM_cons]
    cases found : table.lookup? name with
    | none =>
      rw [List.find?_cons_of_pos (by simp [contains, found])] at first
      cases first
      rw [lookup, found]
      rfl
    | some symbol =>
      rw [List.find?_cons_of_neg (by simp [contains, found])] at first
      rw [Imports.lookup_eq_ok.mpr found, ih first]
      rfl

theorem mapM_lookup_of_known (known : names.find? (fun name => !table.contains name) = none) :
    names.mapM table.lookup = .ok (names.filterMap table.lookup?) := by
  induction names with
  | nil => rfl
  | cons name names ih =>
    rw [List.find?_eq_none, List.forall_mem_cons, ← List.find?_eq_none] at known
    obtain ⟨symbol, found⟩ : ∃ symbol, table.lookup? name = some symbol := by
      simpa [contains, ← Option.isSome_iff_exists, Option.isSome_iff_ne_none] using known.1
    rw [List.mapM_cons, Imports.lookup_eq_ok.mpr found, ih known.2, List.filterMap_cons_some found]
    rfl

end SymbolTable

namespace Imports

variable {table : SymbolTable} {file : File} {imports : Imports}

/-- The first type that a file mentions and that no file declares. -/
def firstMissing? (table : SymbolTable) (file : File) : Option String :=
  file.references.find? fun typeName => !table.contains typeName

/-- The files that declare the types a file mentions, one for each mention. -/
def definingFiles (table : SymbolTable) (file : File) : List String :=
  (file.references.filterMap table.lookup?).map (·.fileName)

/-- Every mentioned type is known. Other files are listed in the order in which they first come up, among the
dependencies or by a mentioned type; shadowed roots are listed in ascending order. -/
structure InOrder (table : SymbolTable) (file : File) (imports : Imports) : Prop where
  known : ∀ typeName, file.Mentions typeName → table.contains typeName = true
  listed : ∀ name, name ∈ imports.files.keys ↔ name ∈ file.dependencies ∨
    (name ≠ file.name ∧ ∃ typeName symbol, file.Mentions typeName ∧ table.lookup? typeName = some symbol ∧
      symbol.fileName = name)
  files : imports.files.keys = file.dependencies.eraseDups ++
    ((definingFiles table file).filter fun name => name ≠ file.name ∧ name ∉ file.dependencies).eraseDups
  numbers : ∃ numbers : List Nat, numbers.Pairwise (· < ·) ∧
    imports.files.map Prod.snd = numbers.map (NamePool.numbered "dependency")
  roots : ∀ name, name ∈ imports.roots.keys ↔ name ∈ table.topLevel file.name ∧ name ∈ table.nested file.name
  ascending : imports.roots.keys.Pairwise (· < ·)

/-! ### Mentioned files -/

theorem mentionedFiles_of_missing {typeName : String} (missing : firstMissing? table file = some typeName) :
    mentionedFiles table file = .error (.unresolvedType typeName) := by
  rw [mentionedFiles, SymbolTable.mapM_lookup_of_missing missing]
  rfl

theorem mentionedFiles_of_known (known : firstMissing? table file = none) :
    mentionedFiles table file = .ok ((definingFiles table file).filter (· ≠ file.name)) := by
  rw [mentionedFiles, SymbolTable.mapM_lookup_of_known known]
  rfl

/-- Nothing is missing exactly if the table knows every type that the file mentions. -/
theorem firstMissing?_eq_none_iff :
    firstMissing? table file = none ↔ ∀ typeName, file.Mentions typeName → table.contains typeName = true := by
  simp only [firstMissing?, List.find?_eq_none, Schema.File.mem_references_iff, Bool.not_eq_true',
    Bool.not_eq_false]

/-- The files that come up are those that declare a mentioned type. -/
theorem mem_definingFiles {name : String} :
    name ∈ definingFiles table file ↔ ∃ typeName symbol, file.Mentions typeName ∧
      table.lookup? typeName = some symbol ∧ symbol.fileName = name := by
  simp only [definingFiles, List.mem_map, List.mem_filterMap, Schema.File.mem_references_iff]
  constructor
  · rintro ⟨symbol, ⟨typeName, mentions, found⟩, isFile⟩
    exact ⟨typeName, symbol, mentions, found, isFile⟩
  · rintro ⟨typeName, symbol, mentions, found, isFile⟩
    exact ⟨symbol, ⟨typeName, mentions, found⟩, isFile⟩

/-! ### First occurrences -/

/-- A file that is named again keeps its place, and a new one goes to the end. -/
theorem keys_nameFile (files : OrderedMap String String) (pool : NamePool) (fileName : String) :
    (nameFile (files, pool) fileName).1.keys =
      if fileName ∈ files.keys then files.keys else files.keys ++ [fileName] := by
  cases known : files.get? fileName with
  | some name =>
    have listed : fileName ∈ files.keys := List.mem_map.mpr ⟨_, OrderedMap.mem_of_get? known, rfl⟩
    simp only [nameFile, known, if_pos listed]
  | none =>
    have unlisted : fileName ∉ files.keys := by
      intro listed
      obtain ⟨name, found⟩ := OrderedMap.get?_isSome_of_mem_keys listed
      rw [known] at found
      cases found
    rw [if_neg unlisted]
    simp only [nameFile, known, OrderedMap.keys, List.map_append, List.map_cons, List.map_nil]

/-- Naming a series of files keeps the first occurrence of each. -/
theorem keys_foldl_nameFile (fileNames : List String) (pool : NamePool) :
    (fileNames.foldl nameFile ([], pool)).1.keys = fileNames.eraseDups := by
  induction fileNames using List.reverseRecOn with
  | nil => rfl
  | append_singleton fileNames fileName ih =>
    -- The last file either came up before or goes to the end, in the series as in the list.
    rw [List.foldl_concat, keys_nameFile, ih, OrderedMap.eraseDups_concat]
    simp only [List.mem_eraseDups]

theorem eraseDups_nodup (names : List String) : names.eraseDups.Nodup := by
  induction names using List.reverseRecOn with
  | nil => exact .nil
  | append_singleton names name ih =>
    rw [OrderedMap.eraseDups_concat]
    split
    · exact ih
    next unknown =>
      have fresh : name ∉ names.eraseDups := fun member => unknown (List.mem_eraseDups.mp member)
      rw [← List.concat_eq_append]
      exact (List.nodup_concat _ _).mpr ⟨fresh, ih⟩

/-- Shadowed roots are sorted and distinct, hence ascending. -/
theorem shadowedRoots_ascending (table : SymbolTable) (file : File) :
    (shadowedRoots table file).Pairwise (· < ·) := by
  have sorted : (shadowedRoots table file).Pairwise fun first second => decide (first ≤ second) = true := by
    apply List.pairwise_mergeSort
    · intro first second third
      simp only [decide_eq_true_eq]
      exact String.le_trans
    · intro first second
      simpa only [Bool.or_eq_true, decide_eq_true_eq] using String.le_total first second
  have distinct : (shadowedRoots table file).Nodup :=
    (List.mergeSort_perm _ _).nodup_iff.mpr ((eraseDups_nodup _).filter _)
  exact (sorted.and distinct).imp fun ⟨below, differ⟩ => Std.lt_of_le_of_ne (of_decide_eq_true below) differ

/-! ### Resolution -/

theorem resolve_of_missing {typeName : String} (missing : firstMissing? table file = some typeName) :
    resolve table file = .error (.unresolvedType typeName) := by
  rw [resolve, mentionedFiles_of_missing missing]
  rfl

theorem exists_resolve_of_known (known : firstMissing? table file = none) :
    ∃ imports, resolve table file = .ok imports := by
  rw [resolve, mentionedFiles_of_known known]
  exact ⟨_, rfl⟩

/-- Where nothing is missing, resolution lists files and roots in order. -/
theorem resolve_inOrder (known : firstMissing? table file = none) (resolved : resolve table file = .ok imports) :
    InOrder table file imports := by
  have rootKeys : imports.roots.keys = shadowedRoots table file := (resolve_eq_ok resolved).rootKeys
  -- Dependencies are named first, so of the files that come up later only new ones are added.
  have fileKeys : imports.files.keys = file.dependencies.eraseDups ++
      ((definingFiles table file).filter fun name =>
        name ≠ file.name ∧ name ∉ file.dependencies).eraseDups := by
    obtain ⟨mentioned, others, named, traversed, isOthers, -, rfl⟩ := resolve_stages resolved
    rw [mentionedFiles_of_known known] at traversed
    cases traversed
    rw [isOthers, keys_foldl_nameFile, List.eraseDups_append, List.removeAll, List.filter_filter]
    simp only [List.elem_eq_mem, Bool.and_comm, Bool.decide_and, decide_not]
  refine ⟨firstMissing?_eq_none_iff.mp known, fun name => ?listed, fileKeys, ?numbers, fun name => ?roots,
    ?ascending⟩
  case listed =>
    rw [fileKeys, List.mem_append, List.mem_eraseDups, List.mem_eraseDups, List.mem_filter, mem_definingFiles,
      decide_eq_true_eq]
    tauto
  case numbers =>
    obtain ⟨after, allocates⟩ := files_allocates resolved
    obtain ⟨numbers, isNumbered, ascending, -⟩ := allocates.exists_ascending
    exact ⟨numbers, ascending, isNumbered⟩
  case roots =>
    rw [rootKeys]
    exact mem_shadowedRoots
  case ascending =>
    rw [rootKeys]
    exact shadowedRoots_ascending table file

end Imports

namespace Generator

variable {generator : Generator} {file : File}

/-- The imports of a file: the other files, each by its path from the file, then the two frameworks. -/
structure Lists (generator : Generator) (file : File) (imports : Imports) (listed : List Import) : Prop where
  names : listed.map (·.name) = imports.files.map Prod.snd ++ [imports.runtime, imports.rpc]
  modules : listed.map (fun entry => some entry.module) =
    imports.files.keys.map (Path.importPath? file.name) ++
      [some generator.options.runtimePackage, some (generator.style.package generator.options)]

/-- The imports of a file follow the names that resolution gave. -/
theorem importsOf_lists {context : Context} {listed : List Import}
    (imported : generator.importsOf context = .ok listed) :
    Lists generator context.file context.imports listed := by
  refine ⟨importNames_eq imported, ?_⟩
  obtain ⟨others, traversed, last⟩ := except_bind_eq_ok imported
  have related := (except_mapM_eq_ok_iff _ _ _).mp traversed
  have paths : others.map (fun entry => some entry.module) =
      context.imports.files.keys.map (Path.importPath? context.file.name) := by
    rw [OrderedMap.keys, List.map_map]
    refine (map_eq_map_of_forall₂ (List.forall₂_same.mpr fun entry _ => rfl) related ?_).symm
    rintro entry _ made rfl isImport
    obtain ⟨module, found, rfl⟩ := fileImport_eq_ok isImport
    exact found
  rw [← Except.ok.inj last, List.map_append, paths]
  rfl

theorem Compilation.lists {imports : Imports} (compilation : Compilation generator file)
    (resolved : Imports.resolve generator.symbols file = .ok imports) :
    Lists generator file imports compilation.source.imports := by
  have lists := importsOf_lists compilation.imported
  -- The imports were listed from what resolution gave, which is the same every time.
  obtain ⟨others, same, shape⟩ := context_eq_ok.mp compilation.resolved
  cases resolved.symm.trans same
  rw [shape] at lists
  exact lists

/-- Resolution fails at the first type that is missing. If none is missing, other files and shadowed roots are
named in order, and a generated file imports the other files in this order and the two frameworks last. -/
theorem dependencies_listed_in_order (generator : Generator) (file : File) :
    (∃ typeName, Imports.firstMissing? generator.symbols file = some typeName ∧
      Imports.resolve generator.symbols file = .error (.unresolvedType typeName)) ∨
    (Imports.firstMissing? generator.symbols file = none ∧
      ∃ imports, Imports.resolve generator.symbols file = .ok imports ∧
        Imports.InOrder generator.symbols file imports ∧
        ∀ output, (generator.generateFile file).1 = .ok output →
          ∃ compilation : Compilation generator file, compilation.output = output ∧
            Lists generator file imports compilation.source.imports) := by
  cases missing : Imports.firstMissing? generator.symbols file with
  | some typeName => exact .inl ⟨typeName, rfl, Imports.resolve_of_missing missing⟩
  | none =>
    obtain ⟨imports, resolved⟩ := Imports.exists_resolve_of_known missing
    refine .inr ⟨rfl, imports, resolved, Imports.resolve_inOrder missing resolved, ?_⟩
    intro output generated
    obtain ⟨compilation, isOutput⟩ := exists_compilation generated
    exact ⟨compilation, isOutput, compilation.lists resolved⟩

/-- A file that depends on another twice and has a type named like an import and a type at the top whose name
is used again inside another one. Through the second dependency it reaches three more files: by a method, by
a field and by the values of a map. -/
def quay : File :=
  { name := "quay.proto"
    package := some "quay"
    dependencies := ["crane.proto", "rope.proto", "crane.proto"]
    messages :=
      [{ name := "Berth" },
       { name := "Ship"
         nestedMessages :=
           [{ name := "Berth" }, { name := "dependency_2" }, { name := "FlagsEntry", mapEntry := true }]
         fields :=
           [messageField "sail" 1 ".rope.Sail",
            messageField "berth" 2 ".quay.Berth",
            { messageField "flags" 3 ".quay.Ship.FlagsEntry" with
              mapKey := some { name := "key", number := 1, cardinality := .singular, kind := .string }
              mapValue := some (messageField "value" 2 ".rope.Flag") }] }]
    services :=
      [{ name := "Lift"
         methods := [{ name := "Raise", inputType := ".Crane", outputType := ".rope.Knot" }] }] }

def quayFiles : List File :=
  [{ name := "crane.proto", messages := [{ name := "Crane" }] },
   { name := "flag.proto", package := some "rope", messages := [{ name := "Flag" }] },
   { name := "knot.proto", package := some "rope", messages := [{ name := "Knot" }] },
   { name := "sail.proto", package := some "rope", messages := [{ name := "Sail" }] },
   { name := "rope.proto", dependencies := ["flag.proto", "knot.proto", "sail.proto"]
     publicDependencies := [0, 1, 2] },
   quay]

example : (Imports.resolve (SymbolTable.ofFiles quayFiles) quay).toOption.map
    (fun imports => (imports.files, imports.roots)) =
      some ([("crane.proto", "dependency_1"), ("rope.proto", "dependency_3"), ("sail.proto", "dependency_4"),
        ("flag.proto", "dependency_5"), ("knot.proto", "dependency_6")], [("Berth", "Berth_1")]) := by
  decide +kernel

theorem dependencies_listed_in_order_at_the_quay :
    ∃ imports output, Imports.resolve (SymbolTable.ofFiles quayFiles) quay = .ok imports ∧
      Imports.InOrder (SymbolTable.ofFiles quayFiles) quay imports ∧
      ((nodeGenerator quayFiles).generateFile quay).1 = .ok output ∧
      ∃ compilation : Compilation (nodeGenerator quayFiles) quay, compilation.output = output ∧
        Lists (nodeGenerator quayFiles) quay imports compilation.source.imports := by
  obtain ⟨output, generated⟩ := exists_ok_of_isOk (by decide +kernel :
    ((nodeGenerator quayFiles).generateFile quay).1.isOk = true)
  have known : Imports.firstMissing? (nodeGenerator quayFiles).symbols quay = none := by decide +kernel
  rcases dependencies_listed_in_order (nodeGenerator quayFiles) quay with
    ⟨typeName, missing, -⟩ | ⟨-, imports, resolved, inOrder, imported⟩
  · rw [known] at missing
    cases missing
  · exact ⟨imports, output, resolved, inOrder, generated, imported output generated⟩

end Generator

end Typewire
