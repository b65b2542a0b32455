import Typewire.Proofs.Effects
import Typewire.Proofs.SymbolTables

/-!
# The names at the top of a generated file

Resolution gives a series of fresh names: the runtime, the RPC framework, one name for each other file
and one for each shadowed root. None of them is the name of a type of the file at any depth. Every file
that declares a mentioned type has a name, and so has every root that is used again inside a message.
-/
namespace Typewire

/-! ### Entries of maps -/

namespace OrderedMap

variable {α β : Type} [DecidableEq α]

theorem get?_append (first second : OrderedMap α β) (key : α) :
    get? (first ++ second) key = (get? first key).or (get? second key) := by
  simp only [get?, List.find?_append]
  cases List.find? (fun entry => decide (entry.1 = key)) first <;> rfl

theorem mem_of_get? {map : OrderedMap α β} {key : α} {value : β} (found : get? map key = some value) :
    (key, value) ∈ map := by
  obtain ⟨entry, inMap, same⟩ := Option.map_eq_some_iff.mp found
  have keyed : entry.1 = key := by simpa using List.find?_some inMap
  have pair : entry = (key, value) := Prod.ext keyed same
  exact pair ▸ List.mem_of_find?_eq_some inMap

theorem value_mem_of_get? {map : OrderedMap α β} {key : α} {value : β}
    (found : get? map key = some value) : value ∈ map.map Prod.snd :=
  List.mem_map.mpr ⟨(key, value), mem_of_get? found, rfl⟩

theorem get?_isSome_of_mem_keys {map : OrderedMap α β} {key : α} (member : key ∈ map.map Prod.fst) :
    ∃ value, get? map key = some value := by
  obtain ⟨entry, inMap, keyed⟩ := List.mem_map.mp member
  have found : (map.find? fun entry => decide (entry.1 = key)).isSome := by
    rw [List.find?_isSome]
    exact ⟨entry, inMap, by simpa using keyed⟩
  obtain ⟨result, equal⟩ := Option.isSome_iff_exists.mp found
  exact ⟨result.2, by rw [get?, equal, Option.map_some]⟩

theorem mem_put_self (map : OrderedMap α β) (key : α) (value : β) : (key, value) ∈ map.put key value := by
  apply mem_of_get?
  rw [get?_put, if_pos rfl]

/-- What a map holds after an assignment was assigned or was there before. -/
theorem mem_put {map : OrderedMap α β} {key : α} {value : β} {entry : α × β}
    (member : entry ∈ map.put key value) : entry = (key, value) ∨ entry ∈ map := by
  induction map with
  | nil => exact .inl (List.mem_singleton.mp member)
  | cons first rest ih =>
    rw [put] at member
    split at member
    · rcases List.mem_cons.mp member with here | later
      · exact .inl here
      · exact .inr (List.mem_cons_of_mem _ later)
    · rcases List.mem_cons.mp member with here | later
      · exact .inr (here ▸ List.mem_cons_self)
      · exact (ih later).imp_right (List.mem_cons_of_mem _)

theorem mem_put_of_ne {map : OrderedMap α β} {key : α} {value : β} {entry : α × β}
    (member : entry ∈ map) (differs : entry.1 ≠ key) : entry ∈ map.put key value := by
  induction map with
  | nil => simp at member
  | cons first rest ih =>
    rw [put]
    rcases List.mem_cons.mp member with rfl | later
    · rw [if_neg differs]
      exact List.mem_cons_self
    · split
      · exact List.mem_cons_of_mem _ later
      · exact List.mem_cons_of_mem _ (ih later)

end OrderedMap

namespace Imports

open Schema (File)

/-! ### Naming other files -/

/-- Naming a series of files keeps the names given before, gives fresh names to the others, and leaves
no file of the series without a name. -/
theorem foldl_nameFile (fileNames : List String) (files : OrderedMap String String) (pool : NamePool) :
    ∃ added : OrderedMap String String,
      (fileNames.foldl nameFile (files, pool)).1 = files ++ added ∧
      pool.Gives (added.map Prod.snd) (fileNames.foldl nameFile (files, pool)).2 ∧
      (∀ entry ∈ added, ∃ number, entry.2 = NamePool.numbered "dependency" number) ∧
      ∀ fileName ∈ fileNames, ∃ name,
        OrderedMap.get? (fileNames.foldl nameFile (files, pool)).1 fileName = some name := by
  induction fileNames generalizing files pool with
  | nil => exact ⟨[], by simp, .none pool, by simp, by simp⟩
  | cons fileName fileNames ih =>
    rw [List.foldl_cons]
    cases known : OrderedMap.get? files fileName with
    | some name =>
      -- A file that has a name keeps it, and nothing is taken from the pool.
      have step : nameFile (files, pool) fileName = (files, pool) := by simp [nameFile, known]
      rw [step]
      obtain ⟨added, grown, gives, numbered, covered⟩ := ih files pool
      refine ⟨added, grown, gives, numbered, ?_⟩
      intro other member
      rcases List.mem_cons.mp member with rfl | later
      · exact ⟨name, by rw [grown, OrderedMap.get?_append, known, Option.some_or]⟩
      · exact covered other later
    | none =>
      -- Any other file takes a fresh name from the pool.
      have step : nameFile (files, pool) fileName =
          (files ++ [(fileName, (pool.allocate "dependency").1)], (pool.allocate "dependency").2) := by
        simp [nameFile, known]
      rw [step]
      obtain ⟨added, grown, gives, numbered, covered⟩ :=
        ih (files ++ [(fileName, (pool.allocate "dependency").1)]) (pool.allocate "dependency").2
      refine ⟨(fileName, (pool.allocate "dependency").1) :: added, ?_, ?_, ?_, ?_⟩
      · rw [grown, List.append_assoc, List.singleton_append]
      · exact (NamePool.Gives.allocate pool "dependency").append gives
      · intro entry member
        rcases List.mem_cons.mp member with rfl | later
        · exact ⟨_, rfl⟩
        · exact numbered entry later
      · intro other member
        rcases List.mem_cons.mp member with rfl | later
        · have named : OrderedMap.get? (files ++ [(other, (pool.allocate "dependency").1)]) other =
              some (pool.allocate "dependency").1 := by
            rw [OrderedMap.get?_append, known]
            simp [OrderedMap.get?]
          exact ⟨_, by rw [grown, OrderedMap.get?_append, named, Option.some_or]⟩
        · exact covered other later

/-! ### Naming shadowed roots -/

/-- A series of roots gets one fresh name for each, in order. -/
theorem foldl_nameRoot (names : List String) (roots : OrderedMap String String) (pool : NamePool) :
    ∃ added : OrderedMap String String,
      (names.foldl nameRoot (roots, pool)).1 = roots ++ added ∧
      added.map Prod.fst = names ∧
      pool.Gives (added.map Prod.snd) (names.foldl nameRoot (roots, pool)).2 ∧
      ∀ entry ∈ added, ∃ number, entry.2 = NamePool.numbered entry.1 number := by
  -- The map and the pool grow together by one entry for each root.
  induction names generalizing roots pool with
  | nil => exact ⟨[], by simp, rfl, .none pool, by simp⟩
  | cons root names ih =>
    rw [List.foldl_cons]
    have step : nameRoot (roots, pool) root =
        (roots ++ [(root, (pool.allocate root).1)], (pool.allocate root).2) := rfl
    rw [step]
    obtain ⟨added, grown, keys, gives, numbered⟩ :=
      ih (roots ++ [(root, (pool.allocate root).1)]) (pool.allocate root).2
    refine ⟨(root, (pool.allocate root).1) :: added, ?_, ?_, ?_, ?_⟩
    · rw [grown, List.append_assoc, List.singleton_append]
    · rw [List.map_cons, keys]
    · exact (NamePool.Gives.allocate pool root).append gives
    · intro entry member
      rcases List.mem_cons.mp member with rfl | later
      · exact ⟨_, rfl⟩
      · exact numbered entry later

/-- A name is a shadowed root exactly if the file has it at the top and inside a message. -/
theorem mem_shadowedRoots {table : SymbolTable} {file : File} {root : String} :
    root ∈ shadowedRoots table file ↔
      root ∈ table.topLevel file.name ∧ root ∈ table.nested file.name := by
  simp [shadowedRoots, List.mem_mergeSort, List.mem_eraseDups]

/-! ### Resolution -/

/-- What is known of the names chosen for a file. -/
structure Resolution (table : SymbolTable) (file : File) (imports : Imports) : Prop where
  gives : (NamePool.reserving (reserved table file)).Gives
    ([imports.runtime, imports.rpc] ++ (imports.files.map Prod.snd ++ imports.roots.map Prod.snd))
    imports.pool
  numberedFiles : ∀ entry ∈ imports.files, ∃ number, entry.2 = NamePool.numbered "dependency" number
  rootKeys : imports.roots.map Prod.fst = shadowedRoots table file
  numberedRoots : ∀ entry ∈ imports.roots, ∃ number, entry.2 = NamePool.numbered entry.1 number
  mentioned : ∀ typeName ∈ file.references, ∃ symbol, table.lookup? typeName = some symbol ∧
    (symbol.fileName ≠ file.name → ∃ name, imports.files.get? symbol.fileName = some name)

theorem lookup_eq_ok {table : SymbolTable} {full : String} {symbol : Symbol} :
    table.lookup full = .ok symbol ↔ table.lookup? full = some symbol := by
  cases found : table.lookup? full <;> simp [SymbolTable.lookup, found]

/-- Every mentioned type is declared in the file itself or in one of the mentioned files. -/
theorem mentionedFiles_eq_ok {table : SymbolTable} {file : File} {fileNames : List String}
    (returned : mentionedFiles table file = .ok fileNames) :
    ∀ typeName ∈ file.references, ∃ symbol, table.lookup? typeName = some symbol ∧
      (symbol.fileName ≠ file.name → symbol.fileName ∈ fileNames) := by
  obtain ⟨symbols, traversed, rfl⟩ : ∃ symbols, file.references.mapM table.lookup = .ok symbols ∧
      (symbols.map (·.fileName)).filter (· ≠ file.name) = fileNames := by
    obtain ⟨symbols, traversed, last⟩ := except_bind_eq_ok returned
    exact ⟨symbols, traversed, Except.ok.inj last⟩
  have related := (except_mapM_eq_ok_iff _ _ _).mp traversed
  intro typeName member
  obtain ⟨symbol, inSymbols, found⟩ := exists_right_of_forall₂ related member
  refine ⟨symbol, lookup_eq_ok.mp found, fun foreign => ?_⟩
  exact List.mem_filter.mpr ⟨List.mem_map.mpr ⟨symbol, inSymbols, rfl⟩, by simpa using foreign⟩

/-- The pool once the two frameworks have their names. -/
def frameworkPool (table : SymbolTable) (file : File) : NamePool :=
  (((NamePool.reserving (reserved table file)).allocate "pb").2.allocate "grpc").2

/-- Resolution in stages: the pool gives the names of the two frameworks, then those of files, then those
of roots. -/
theorem resolve_stages {table : SymbolTable} {file : File} {imports : Imports}
    (resolved : resolve table file = .ok imports) :
    ∃ mentioned others roots, mentionedFiles table file = .ok mentioned ∧
      others = (file.dependencies ++ mentioned).foldl nameFile ([], frameworkPool table file) ∧
      roots = (shadowedRoots table file).foldl nameRoot ([], others.2) ∧
      imports = {
        fileName := file.name
        runtime := ((NamePool.reserving (reserved table file)).allocate "pb").1
        rpc := (((NamePool.reserving (reserved table file)).allocate "pb").2.allocate "grpc").1
        files := others.1
        roots := roots.1
        pool := roots.2 } := by
  obtain ⟨mentioned, traversed, built⟩ := except_bind_eq_ok resolved
  exact ⟨mentioned, _, _, traversed, rfl, rfl, (Except.ok.inj built).symm⟩

/-- The chosen names are fresh and cover everything the file mentions. -/
theorem resolve_eq_ok {table : SymbolTable} {file : File} {imports : Imports}
    (resolved : resolve table file = .ok imports) : Resolution table file imports := by
  obtain ⟨mentioned, others, named, traversed, isOthers, isRoots, rfl⟩ := resolve_stages resolved
  obtain ⟨files, grownFiles, givesFiles, numberedFiles, covered⟩ :=
    foldl_nameFile (file.dependencies ++ mentioned) [] (frameworkPool table file)
  obtain ⟨roots, grownRoots, rootKeys, givesRoots, numberedRoots⟩ :=
    foldl_nameRoot (shadowedRoots table file) [] others.2
  rw [List.nil_append] at grownFiles grownRoots
  rw [← isOthers] at grownFiles givesFiles covered
  rw [← isRoots] at grownRoots givesRoots
  -- The frameworks get their names first, then the other files, then the shadowed roots.
  have first : (NamePool.reserving (reserved table file)).Gives _ (frameworkPool table file) :=
    (NamePool.Gives.allocate _ "pb").append (NamePool.Gives.allocate _ "grpc")
  refine ⟨?_, ?_, ?_, ?_, ?_⟩
  · simp only [grownFiles, grownRoots]
    exact first.append (givesFiles.append givesRoots)
  · simpa only [grownFiles] using numberedFiles
  · simpa only [grownRoots] using rootKeys
  · simpa only [grownRoots] using numberedRoots
  · intro typeName member
    obtain ⟨symbol, found, foreign⟩ := mentionedFiles_eq_ok traversed typeName member
    exact ⟨symbol, found, fun differs =>
      covered symbol.fileName (List.mem_append_right _ (foreign differs))⟩

end Imports

end Typewire
