import Typewire.Generator
import Typewire.Proofs.ImportNames

/-!
# Spelling of references

What spelling a reference can come to, in a context that was resolved for a file among well-named files.
Every spelling is one of three, and a type that the file mentions fails to be spelled only when it is a
map entry: it is declared somewhere, its file has a name, and if a message around the place takes the
first name of its path, that name is both at the top of the file and inside a message, so that it has a
second name.
-/
namespace Typewire.Context

open Schema (Enum File Message WellNamed fullName)

/-- A context that was resolved for a file among well-named files. -/
structure Settled (context : Context) (files : List File) : Prop where
  named : WellNamed files
  member : context.file ∈ files
  table : context.symbols = SymbolTable.ofFiles files
  resolved : Imports.resolve context.symbols context.file = .ok context.imports

/-- A place of a file: outside all messages, or in one of its scopes. -/
def IsPlace (context : Context) (scope : String) : Prop :=
  scope = "" ∨ ∃ enums messages, context.file.HasScope scope enums messages

variable {context : Context} {files : List File} {scope typeName : String} {symbol : Symbol}

/-! ### Symbols -/

/-- Exactly the known types that are no map entries have a symbol. -/
theorem symbol_eq_ok : context.symbol typeName = .ok symbol ↔
    context.symbols.lookup? typeName = some symbol ∧ symbol.isMapEntry = false := by
  cases found : context.symbols.lookup? typeName with
  | none => simp [Context.symbol, SymbolTable.lookup, found, bind, Except.bind]
  | some other =>
    cases entry : other.isMapEntry with
    | true =>
      simp only [Context.symbol, SymbolTable.lookup, found, bind, Except.bind, entry, ↓reduceIte,
        reduceCtorEq, Option.some.injEq, false_iff, not_and]
      rintro rfl
      simp [entry]
    | false =>
      simp only [Context.symbol, SymbolTable.lookup, found, bind, Except.bind, entry,
        Bool.false_eq_true, ↓reduceIte, Except.ok.injEq, Option.some.injEq]
      constructor
      · rintro rfl
        exact ⟨rfl, entry⟩
      · exact fun both => both.1

/-- A type without a symbol is unknown or a map entry. -/
theorem symbol_eq_error {error : Error} (failed : context.symbol typeName = .error error) :
    (context.symbols.lookup? typeName = none ∧ error = .unresolvedType typeName) ∨
    (∃ symbol, context.symbols.lookup? typeName = some symbol ∧ symbol.isMapEntry = true ∧
      error = .entryReference typeName) := by
  cases found : context.symbols.lookup? typeName with
  | none =>
    simp only [Context.symbol, SymbolTable.lookup, found, bind, Except.bind, Except.error.injEq] at failed
    exact .inl ⟨rfl, failed.symm⟩
  | some symbol =>
    simp only [Context.symbol, SymbolTable.lookup, found, bind, Except.bind] at failed
    split at failed
    next entry => exact .inr ⟨symbol, rfl, entry, (Except.error.inj failed).symm⟩
    next => cases failed

/-! ### Places -/

/-- The messages around a place are recorded as messages of the file. -/
theorem IsPlace.enclosing_symbol (place : context.IsPlace scope)
    (plain : ∀ type ∈ context.file.typeNames, Text.IsPlain type.name) {full : String}
    (around : full ∈ context.enclosingMessages scope) :
    ∃ symbol ∈ Symbol.ofFile context.file, symbol.fullName = full ∧
      ∃ names, symbol.kind = .message names := by
  rcases place with rfl | ⟨enums, messages, has⟩
  · rw [enclosingMessages_empty] at around
    simp at around
  · exact has.enclosing_symbol plain around

namespace Settled

variable (settled : context.Settled files)
include settled

theorem resolution : Imports.Resolution context.symbols context.file context.imports :=
  Imports.resolve_eq_ok settled.resolved

theorem plain : ∀ type ∈ context.file.typeNames, Text.IsPlain type.name :=
  settled.named.plainNames context.file settled.member

theorem lookup?_of_mem (found : symbol ∈ Symbol.ofFile context.file) :
    context.symbols.lookup? symbol.fullName = some symbol := by
  rw [settled.table]
  exact SymbolTable.lookup?_of_mem settled.named settled.member found

/-- A found symbol that claims to be of this file is recorded for it. -/
theorem mem_of_fileName (found : context.symbols.lookup? typeName = some symbol)
    (here : symbol.fileName = context.file.name) : symbol ∈ Symbol.ofFile context.file := by
  rw [settled.table] at found
  exact SymbolTable.mem_of_fileName settled.named settled.member found here

theorem firstSegment_mem_topLevel (found : symbol ∈ Symbol.ofFile context.file)
    (declared : symbol.isMapEntry = false) :
    Text.firstSegment symbol.localPath ∈ context.symbols.topLevel context.file.name := by
  rw [settled.table, SymbolTable.topLevel_of_mem settled.named settled.member]
  exact FileSymbols.firstSegment_mem_topLevel (settled.named.fullNames_nodup settled.member)
    settled.plain found declared

/-- A name that a message around a place declares is among the nested names of the file. -/
theorem mem_nested_of_isShadowed (place : context.IsPlace scope) {name : String}
    (shadowed : context.isShadowed name scope = true) :
    name ∈ context.symbols.nested context.file.name := by
  obtain ⟨full, around, declares⟩ := List.any_eq_true.mp shadowed
  obtain ⟨symbol, found, rfl, names, isMessage⟩ := place.enclosing_symbol settled.plain around
  rw [settled.table, SymbolTable.children_of_mem settled.named settled.member found isMessage] at declares
  rw [settled.table, SymbolTable.nested_of_mem settled.named settled.member]
  exact FileSymbols.mem_nested found isMessage (List.contains_iff_mem.mp declares)

/-- A shadowed root has a second name. -/
theorem exists_root (place : context.IsPlace scope) (found : symbol ∈ Symbol.ofFile context.file)
    (declared : symbol.isMapEntry = false)
    (shadowed : context.isShadowed (Text.firstSegment symbol.localPath) scope = true) :
    ∃ name, context.imports.roots.get? (Text.firstSegment symbol.localPath) = some name := by
  -- The root is at the top of the file because a path starts with it, and nested because it is shadowed.
  apply OrderedMap.get?_isSome_of_mem_keys
  rw [settled.resolution.rootKeys, Imports.mem_shadowedRoots]
  exact ⟨settled.firstSegment_mem_topLevel found declared,
    settled.mem_nested_of_isShadowed place shadowed⟩

/-- The names that imports avoid are taken afterwards, and so are the names of imports. -/
theorem mem_taken {name : String} : name ∈ context.imports.pool.taken ↔
    name ∈ [context.imports.runtime, context.imports.rpc] ++
      (context.imports.files.map Prod.snd ++ context.imports.roots.map Prod.snd) ∨
    name ∈ Imports.reserved context.symbols context.file :=
  settled.resolution.gives.taken name

/-- A second name is the name of no type of the file. -/
theorem root_not_reserved {root name : String}
    (isRoot : context.imports.roots.get? root = some name) :
    name ∉ Imports.reserved context.symbols context.file := by
  apply settled.resolution.gives.fresh
  exact List.mem_append_right _ (List.mem_append_right _ (OrderedMap.value_mem_of_get? isRoot))

theorem root_taken {root name : String} (isRoot : context.imports.roots.get? root = some name) :
    name ∈ context.imports.pool.taken := by
  apply settled.mem_taken.mpr
  exact .inl (List.mem_append_right _ (List.mem_append_right _ (OrderedMap.value_mem_of_get? isRoot)))

theorem root_plain {root name : String} (isRoot : context.imports.roots.get? root = some name)
    (plain : Text.IsPlain root) : Text.IsPlain name := by
  obtain ⟨number, numbered⟩ := settled.resolution.numberedRoots _ (OrderedMap.mem_of_get? isRoot)
  have isNumbered : name = NamePool.numbered root number := numbered
  rw [isNumbered]
  exact NamePool.numbered_plain plain number

/-- The name of another file is the name of no type of this one. -/
theorem fileName_not_reserved {other name : String}
    (isNamed : context.imports.files.get? other = some name) :
    name ∉ Imports.reserved context.symbols context.file := by
  apply settled.resolution.gives.fresh
  exact List.mem_append_right _ (List.mem_append_left _ (OrderedMap.value_mem_of_get? isNamed))

/-- The names of other files come from the pool of the file. -/
theorem fileName_taken {other name : String} (isNamed : context.imports.files.get? other = some name) :
    name ∈ context.imports.pool.taken := by
  apply settled.mem_taken.mpr
  exact .inl (List.mem_append_right _ (List.mem_append_left _ (OrderedMap.value_mem_of_get? isNamed)))

/-- The name of another file is no second name. -/
theorem fileName_not_root {other name root : String}
    (isNamed : context.imports.files.get? other = some name) :
    context.imports.roots.get? root ≠ some name := by
  intro isRoot
  -- Files and roots are named from one pool, one after the other.
  have apart := (List.nodup_append.mp settled.resolution.gives.distinct.of_append_right).2.2
  exact apart name (OrderedMap.value_mem_of_get? isNamed) name (OrderedMap.value_mem_of_get? isRoot) rfl

theorem fileName_plain {other name : String} (isNamed : context.imports.files.get? other = some name) :
    Text.IsPlain name := by
  obtain ⟨number, numbered⟩ := settled.resolution.numberedFiles _ (OrderedMap.mem_of_get? isNamed)
  have isNumbered : name = NamePool.numbered "dependency" number := numbered
  rw [isNumbered]
  exact NamePool.numbered_plain (by decide) number

/-- Every name that a site of the file gives is avoided by imports. -/
theorem mem_reserved {path : List String} {enums : List Enum} {messages : List Message}
    (site : context.file.HasSite path scope enums messages) {name : String}
    (named : name ∈ (Symbol.atSite (context.file.siteAt path scope) enums messages).names) :
    name ∈ Imports.reserved context.symbols context.file := by
  apply List.mem_append_left
  cases site with
  | top =>
    apply List.mem_append_left
    rw [settled.table, SymbolTable.topLevel_of_mem settled.named settled.member]
    exact FileSymbols.mem_topLevel (settled.named.fullNames_nodup settled.member) named
  | inside outer member declared isGiven =>
    apply List.mem_append_right
    rw [settled.table, SymbolTable.nested_of_mem settled.named settled.member]
    rw [← outer.inside_eq settled.plain] at named
    exact FileSymbols.mem_nested (outer.recorded settled.plain isGiven.recorded) rfl named

end Settled

/-! ### References -/

/-- The three ways in which a type is reached. -/
theorem reference_eq_ok {reference : Reference}
    (spelled : context.reference typeName scope = .ok reference) :
    ∃ symbol, context.symbol typeName = .ok symbol ∧
      ((symbol.fileName = context.file.name ∧
          context.isShadowed (Text.firstSegment symbol.localPath) scope = false ∧
          reference = .visible symbol.localPath) ∨
        (symbol.fileName = context.file.name ∧
          context.isShadowed (Text.firstSegment symbol.localPath) scope = true ∧
          ∃ name, context.imports.roots.get? (Text.firstSegment symbol.localPath) = some name ∧
            reference = .throughRoot name (Text.firstSegment symbol.localPath)
              (Text.afterFirst symbol.localPath)) ∨
        (symbol.fileName ≠ context.file.name ∧
          ∃ name, context.imports.files.get? symbol.fileName = some name ∧
            reference = .imported name (context.exportedPath symbol))) := by
  obtain ⟨symbol, found, rest⟩ := except_bind_eq_ok spelled
  refine ⟨symbol, found, ?_⟩
  -- The ways fork by the file of the type first, and within the file by whether its root is shadowed.
  split at rest
  next here =>
    dsimp only at rest
    split at rest
    next shadowed =>
      split at rest
      next name known => exact .inr (.inl ⟨here, shadowed, name, known, (Except.ok.inj rest).symm⟩)
      next => cases rest
    next visible => exact .inl ⟨here, by simpa using visible, (Except.ok.inj rest).symm⟩
  next foreign =>
    obtain ⟨name, known, last⟩ := except_bind_eq_ok rest
    refine .inr (.inr ⟨foreign, name, ?_, (Except.ok.inj last).symm⟩)
    rw [Imports.nameOf] at known
    split at known
    next other equal => rw [equal, Except.ok.inj known]
    next => cases known

/-- The three ways in which a type cannot be reached. -/
theorem reference_eq_error {error : Error} (failed : context.reference typeName scope = .error error) :
    context.symbol typeName = .error error ∨
      ∃ symbol, context.symbol typeName = .ok symbol ∧
        ((symbol.fileName = context.file.name ∧
            context.isShadowed (Text.firstSegment symbol.localPath) scope = true ∧
            context.imports.roots.get? (Text.firstSegment symbol.localPath) = none ∧
            error = .missingRootAlias (Text.firstSegment symbol.localPath)) ∨
          (symbol.fileName ≠ context.file.name ∧ context.imports.files.get? symbol.fileName = none ∧
            error = .notImported context.imports.fileName symbol.fileName)) := by
  rcases except_bind_eq_error failed with missing | ⟨symbol, found, rest⟩
  · exact .inl missing
  · refine .inr ⟨symbol, found, ?_⟩
    split at rest
    next here =>
      dsimp only at rest
      split at rest
      next shadowed =>
        split at rest
        next => cases rest
        next unnamed => exact .inl ⟨here, shadowed, unnamed, (Except.error.inj rest).symm⟩
      next => cases rest
    next foreign =>
      rcases except_bind_eq_error rest with noName | ⟨name, _, last⟩
      · rw [Imports.nameOf] at noName
        split at noName
        next => cases noName
        next unnamed => exact .inr ⟨foreign, unnamed, (Except.error.inj noName).symm⟩
      · cases last

/-- A type that the file mentions cannot be spelled only when it is a map entry. -/
theorem Settled.reference_eq_error (settled : context.Settled files) (place : context.IsPlace scope)
    (mentioned : typeName ∈ context.file.references) {error : Error}
    (failed : context.reference typeName scope = .error error) :
    ∃ symbol, context.symbols.lookup? typeName = some symbol ∧ symbol.isMapEntry = true ∧
      error = .entryReference typeName := by
  obtain ⟨symbol, found, foreignNamed⟩ := settled.resolution.mentioned typeName mentioned
  rcases Context.reference_eq_error failed with missing | ⟨other, isSymbol, unnamed⟩
  · rcases symbol_eq_error missing with ⟨absent, _⟩ | entry
    · rw [found] at absent
      cases absent
    · exact entry
  · -- Past the look-up nothing can fail: the file has a name, or else the root has one.
    exfalso
    obtain ⟨found', declared⟩ := symbol_eq_ok.mp isSymbol
    obtain rfl : symbol = other := Option.some.inj (found.symm.trans found')
    rcases unnamed with ⟨here, shadowed, unknown, _⟩ | ⟨foreign, unknown, _⟩
    · obtain ⟨name, known⟩ :=
        settled.exists_root place (settled.mem_of_fileName found here) declared shadowed
      rw [known] at unknown
      cases unknown
    · obtain ⟨name, known⟩ := foreignNamed foreign
      rw [known] at unknown
      cases unknown

end Typewire.Context
