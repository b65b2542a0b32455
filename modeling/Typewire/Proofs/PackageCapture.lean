import Typewire.Proofs.ForeignReferences
import Typewire.Proofs.Numbering

/-!
# Packages around imports

The body of a file may be wrapped in the namespaces of its package, and each of these makes its name
visible around the body. The names of imports avoid the first namespace only. Which later ones they run into
can be read off the package: a numbered name that is free gets used as soon as fewer free numbers lie below
it than there are names to give.

## Main result

`package_captures_imports_iff`: the first namespace of a package never has the name of an import; a later
one has it, and so hides the import from the body, exactly if it is one of the numbered names that come next.
-/
namespace Typewire

open Schema (File)
open Code

/-! ### Numbered names of imports -/

namespace NamePool

variable {pool after : NamePool} {base : String} {names avoided : List String}

/-- A numbered name of a base that is not avoided and comes next: there are fewer free numbers below it than
names to give. -/
def IsNext (avoided : List String) (base : String) (count : Nat) (name : String) : Prop :=
  name ∉ avoided ∧ ∃ number, 0 < number ∧ name = numbered base number ∧
    freeBelow avoided base number < count

/-- A series gives the names that come next. Names of other bases that are taken do not matter. -/
theorem Allocates.mem_iff_isNext (allocates : Allocates base pool names after) (dense : pool.Dense base)
    (same : ∀ number, numbered base number ∈ pool.taken ↔ numbered base number ∈ avoided)
    (name : String) : name ∈ names ↔ IsNext avoided base names.length name := by
  have counted : ∀ number, freeBelow pool.taken base number = freeBelow avoided base number :=
    fun number => freeBelow_congr fun smaller _ => same smaller
  constructor
  · intro given
    obtain ⟨number, positive, rfl⟩ := allocates.exists_number dense given
    obtain ⟨free, few⟩ := (allocates.numbered_mem_iff dense positive).mp given
    exact ⟨fun present => free ((same number).mpr present), number, positive, rfl, counted number ▸ few⟩
  · rintro ⟨free, number, positive, rfl, few⟩
    refine (allocates.numbered_mem_iff dense positive).mpr ⟨fun present => free ((same number).mp present), ?_⟩
    rwa [counted number]

/-- Bases with different first letters have no numbered name in common. -/
theorem numbered_ne {base other : String}
    (differ : base.toList.head?.getD '_' ≠ other.toList.head?.getD '_') (first second : Nat) :
    numbered base first ≠ numbered other second := by
  intro equal
  have heads := congrArg (fun text => text.toList.head?) equal
  simp only [numbered, String.toList_append, List.append_assoc, List.head?_append] at heads
  apply differ
  cases base.toList.head? <;> cases other.toList.head? <;> simp_all

theorem numbered_mem_allocate {base other : String}
    (differ : base.toList.head?.getD '_' ≠ other.toList.head?.getD '_') (pool : NamePool) (number : Nat) :
    numbered base number ∈ (pool.allocate other).2.taken ↔ numbered base number ∈ pool.taken := by
  rw [allocate_taken, List.mem_cons, or_iff_right]
  exact numbered_ne differ _ _

end NamePool

namespace Imports

open NamePool

variable {table : SymbolTable} {file : File} {imports : Imports}

def moduleNames (imports : Imports) : List String :=
  imports.runtime :: imports.rpc :: imports.files.map Prod.snd

/-- A series of files takes one name for each that is new, all from one base. -/
theorem foldl_nameFile_allocates (fileNames : List String) (files : OrderedMap String String)
    (pool : NamePool) : ∃ added : OrderedMap String String,
      (fileNames.foldl nameFile (files, pool)).1 = files ++ added ∧
      Allocates "dependency" pool (added.map Prod.snd) (fileNames.foldl nameFile (files, pool)).2 := by
  induction fileNames generalizing files pool with
  | nil => exact ⟨[], by simp, .none pool⟩
  | cons fileName fileNames ih =>
    rw [List.foldl_cons, nameFile]
    dsimp only
    split
    · exact ih files pool
    · obtain ⟨added, grown, allocates⟩ :=
        ih (files ++ [(fileName, (pool.allocate "dependency").1)]) (pool.allocate "dependency").2
      refine ⟨(fileName, (pool.allocate "dependency").1) :: added, ?_, .next allocates⟩
      rw [grown, List.append_assoc, List.singleton_append]

/-- The names of other files are taken right after those of the two frameworks. -/
theorem files_allocates (resolved : resolve table file = .ok imports) :
    ∃ after, Allocates "dependency" (frameworkPool table file) (imports.files.map Prod.snd) after := by
  obtain ⟨mentioned, others, named, _, isOthers, _, rfl⟩ := resolve_stages resolved
  obtain ⟨files, grown, allocates⟩ :=
    foldl_nameFile_allocates (file.dependencies ++ mentioned) [] (frameworkPool table file)
  rw [← isOthers, List.nil_append] at grown
  exact ⟨_, grown ▸ allocates⟩

/-- A module goes by a name exactly if it comes next for one of the three bases. -/
theorem mem_moduleNames_iff (resolved : resolve table file = .ok imports) {name : String} :
    name ∈ imports.moduleNames ↔ IsNext (reserved table file) "pb" 1 name ∨
      IsNext (reserved table file) "grpc" 1 name ∨
      IsNext (reserved table file) "dependency" imports.files.length name := by
  obtain ⟨afterFiles, ofFiles⟩ := files_allocates resolved
  let start := NamePool.reserving (reserved table file)
  obtain ⟨ofRuntime, ofRpc⟩ : Allocates "pb" start [imports.runtime] (start.allocate "pb").2 ∧
      Allocates "grpc" (start.allocate "pb").2 [imports.rpc] (frameworkPool table file) := by
    obtain ⟨mentioned, others, named, _, _, _, rfl⟩ := resolve_stages resolved
    exact ⟨.next (.none _), .next (.none _)⟩
  -- A name that was given for one base is no candidate of another.
  have rpcFree : ∀ number, numbered "grpc" number ∈ (start.allocate "pb").2.taken ↔
      numbered "grpc" number ∈ reserved table file :=
    numbered_mem_allocate (by decide) start
  have filesFree : ∀ number, numbered "dependency" number ∈ (frameworkPool table file).taken ↔
      numbered "dependency" number ∈ reserved table file := fun number =>
    (numbered_mem_allocate (by decide) _ number).trans (numbered_mem_allocate (by decide) start number)
  have dense := Dense.reserving (reserved table file)
  have runtimeIff := ofRuntime.mem_iff_isNext (dense "pb") (fun _ => Iff.rfl) name
  have rpcIff := ofRpc.mem_iff_isNext ((dense "grpc").allocate_other (by decide)) rpcFree name
  have filesIff := ofFiles.mem_iff_isNext
    (((dense "dependency").allocate_other (by decide)).allocate_other (by decide)) filesFree name
  rw [List.mem_singleton] at runtimeIff rpcIff
  rw [List.length_map] at filesIff
  rw [moduleNames, List.mem_cons, List.mem_cons, runtimeIff, rpcIff, filesIff]
  rfl

end Imports

namespace Generator

/-! ### Namespaces of a package -/

section Package

variable {style : Style} {file : File} {package : String}

theorem packagePlace_of_wraps (isPackage : file.package? = some package)
    (wrapped : style.wraps file = true) :
    packagePlace style file = (Text.segments package).map Name.legalize := by
  simp [packagePlace, isPackage, wrapped]

/-- Around the body of a file one of the namespaces of its package makes a name visible. -/
def PackageBinds (style : Style) (file : File) (body : List Declaration) (name : String) : Prop :=
  ∃ around, around <+: packagePlace style file ∧ around ≠ packagePlace style file ∧
    (inside (wrap style file body) around).any (Declaration.introduces name) = true

/-- Each part of a package opens in the one before it. -/
theorem inside_wrap_outer (isPackage : file.package? = some package) (wrapped : style.wraps file = true)
    (body : List Declaration) {around : List String} {next : String} {inner : List String}
    (split : packagePlace style file = around ++ next :: inner) :
    inside (wrap style file body) around = [.namespaced (Text.joinDots (next :: inner)) body] := by
  rw [packagePlace_of_wraps isPackage wrapped] at split
  have dotFree := packageParts_dotFree package
  rw [split] at dotFree
  simp only [wrap, isPackage, wrapped, if_true, Name.namespacePath, split]
  exact inside_namespaced_outer (List.cons_ne_nil _ _) dotFree body

/-- The names made visible by the namespaces of a package are the parts of the package. -/
theorem packageBinds_iff (isPackage : file.package? = some package) (wrapped : style.wraps file = true)
    (body : List Declaration) (name : String) :
    PackageBinds style file body name ↔ name ∈ packagePlace style file := by
  -- Inside some namespaces of the package there is one declaration: the namespace of the next part.
  have introduces : ∀ around next inner, packagePlace style file = around ++ next :: inner →
      ((inside (wrap style file body) around).any (Declaration.introduces name) = true ↔
        next = name) := by
    intro around next inner split
    have dotFree : ∀ part ∈ next :: inner, '.' ∉ part.toList := by
      intro part member
      apply packageParts_dotFree package
      rw [← packagePlace_of_wraps isPackage wrapped, split]
      exact List.mem_append_right _ member
    simp [inside_wrap_outer isPackage wrapped body split, Declaration.introduces,
      Text.firstSegment_joinDots dotFree]
  constructor
  · rintro ⟨around, ⟨rest, split⟩, outer, binds⟩
    cases rest with
    | nil => exact absurd (by simpa using split) outer
    | cons next inner =>
      obtain rfl := (introduces around next inner split.symm).mp binds
      rw [← split]
      exact List.mem_append_right _ List.mem_cons_self
  · intro member
    obtain ⟨around, inner, split⟩ := List.append_of_mem member
    refine ⟨around, ⟨_, split.symm⟩, ?_, (introduces around name inner split).mpr rfl⟩
    rw [split]
    simp

theorem segments_eq_cons (package : String) :
    Text.segments package = Text.firstSegment package :: (Text.segments package).tail := by
  obtain ⟨first, rest, split⟩ := List.exists_cons_of_ne_nil (Text.segments_ne_nil package)
  rw [Text.firstSegment, split]
  rfl

theorem firstPart_reserved (table : SymbolTable) (isPackage : file.package? = some package) :
    Name.legalize (Text.firstSegment package) ∈ Imports.reserved table file := by
  rw [Imports.reserved, isPackage]
  exact List.mem_append_right _ List.mem_cons_self

theorem moduleName_not_reserved {table : SymbolTable} {imports : Imports}
    (resolved : Imports.resolve table file = .ok imports) {name : String}
    (isModule : name ∈ imports.moduleNames) : name ∉ Imports.reserved table file := by
  rcases (Imports.mem_moduleNames_iff resolved).mp isModule with next | next | next <;> exact next.1

/-- The first namespace of a package hides no import, and a later one does exactly if it has a numbered name
that comes next. -/
theorem package_captures_imports_iff {table : SymbolTable} {imports : Imports}
    (resolved : Imports.resolve table file = .ok imports) (isPackage : file.package? = some package)
    (wrapped : style.wraps file = true) :
    Name.legalize (Text.firstSegment package) ∉ imports.moduleNames ∧
    (∀ part ∈ (Text.segments package).tail.map Name.legalize, part ∈ imports.moduleNames ↔
      NamePool.IsNext (Imports.reserved table file) "pb" 1 part ∨
      NamePool.IsNext (Imports.reserved table file) "grpc" 1 part ∨
      NamePool.IsNext (Imports.reserved table file) "dependency" imports.files.length part) ∧
    ∀ body, ∀ name ∈ imports.moduleNames, PackageBinds style file body name ↔
      name ∈ (Text.segments package).tail.map Name.legalize := by
  have firstFree : Name.legalize (Text.firstSegment package) ∉ imports.moduleNames := fun isModule =>
    moduleName_not_reserved resolved isModule (firstPart_reserved table isPackage)
  refine ⟨firstFree, fun part _ => Imports.mem_moduleNames_iff resolved, ?_⟩
  intro body name isModule
  rw [packageBinds_iff isPackage wrapped, packagePlace_of_wraps isPackage wrapped, segments_eq_cons,
    List.map_cons, List.mem_cons, List.tail_cons, or_iff_right]
  rintro rfl
  exact firstFree isModule

/-- A file whose package ends in the name that the runtime gets. -/
def cove : File :=
  { name := "cove.proto"
    package := some "cove.pb_1"
    messages := [{ name := "Tide" }] }

def coveCompilation : Compilation (nodeGenerator [cove]) cove :=
  (compile? (nodeGenerator [cove]) cove).get (by decide +kernel)

theorem Translation.imports_resolved {symbols : SymbolTable} (translation : Translation symbols style file) :
    Imports.resolve symbols file = .ok translation.context.imports := by
  obtain ⟨imports, found, shape⟩ := context_eq_ok.mp translation.resolved
  rw [shape]
  exact found

theorem package_captures_imports_iff_in_cove :
    Style.node.wraps cove = true ∧
    Name.legalize (Text.firstSegment "cove.pb_1") ∉ coveCompilation.context.imports.moduleNames ∧
    (∀ part ∈ (Text.segments "cove.pb_1").tail.map Name.legalize,
      part ∈ coveCompilation.context.imports.moduleNames ↔
      NamePool.IsNext (Imports.reserved (SymbolTable.ofFiles [cove]) cove) "pb" 1 part ∨
      NamePool.IsNext (Imports.reserved (SymbolTable.ofFiles [cove]) cove) "grpc" 1 part ∨
      NamePool.IsNext (Imports.reserved (SymbolTable.ofFiles [cove]) cove) "dependency"
        coveCompilation.context.imports.files.length part) ∧
    ∀ body, ∀ name ∈ coveCompilation.context.imports.moduleNames,
      PackageBinds .node cove body name ↔ name ∈ (Text.segments "cove.pb_1").tail.map Name.legalize := by
  have wrapped : Style.node.wraps cove = true := by decide +kernel
  have isPackage : cove.package? = some "cove.pb_1" := by decide +kernel
  exact ⟨wrapped, package_captures_imports_iff coveCompilation.imports_resolved isPackage wrapped⟩

/-- In `cove` the namespace of the package hides the runtime from the class that extends it. -/
theorem package_hides_runtime_in_cove :
    "pb_1" ∈ packagePlace .node cove ∧ coveCompilation.context.imports.runtime = "pb_1" ∧
    (∃ decl, .messageClass decl ∈ inside coveCompilation.source.body ["cove", "pb_1"] ∧
      decl.runtime = "pb_1") ∧
    binder? coveCompilation.source.body ["cove", "pb_1"] "pb_1" = some ["cove"] := by
  refine ⟨by decide +kernel, by decide +kernel, ?_, by decide +kernel⟩
  have emitted : (inside coveCompilation.source.body ["cove", "pb_1"]).any (fun decl => match decl with
      | .messageClass made => made.runtime = "pb_1"
      | _ => false) = true := by decide +kernel
  obtain ⟨decl, isEmitted, spelled⟩ := List.any_eq_true.mp emitted
  cases decl with
  | messageClass made => exact ⟨made, isEmitted, of_decide_eq_true spelled⟩
  | _ => cases spelled

end Package

end Generator

end Typewire
