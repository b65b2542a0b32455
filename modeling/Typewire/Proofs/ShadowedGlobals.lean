import Typewire.Proofs.Counting
import Typewire.Proofs.DistinctNames
import Typewire.Proofs.LocalPaths
import Typewire.Proofs.PackageCapture

/-!
# Globals that generated code relies on

Generated code writes the names of globals, and a declaration of the same name would take their place. Names
from a schema are therefore moved out of the way of a list of globals. The list lacks three of the globals
that are written: `Partial` in the constructors of clients, `Infinity` and `NaN` in the defaults of numbers.

## Main result

`written_globals_declared_iff`: of the reserved words and the globals that are written, a generated file
declares exactly those three, and each one only where the schema has a type or a package of that name.

## Proof strategy

None of the words has an underscore, so no name that was numbered or moved out of the way is one of them. A
name that was claimed is such a word only if it was asked for and is not on the list. What remains are the
names that are asked for: those of types, at every depth, the parts of the package, and the names of service
classes, which all have something around the name of the service.
-/
namespace Typewire

open Schema (Enum File Message WellNamed declaredTypes fullName)
open Code

/-! ### Words -/

namespace Name

/-- Globals whose names are written into generated code. -/
def writtenGlobals : List String :=
  ["Array", "Buffer", "Map", "Object", "Partial", "Promise", "ReturnType", "Uint8Array", "Infinity", "NaN"]

/-- Words that no declaration of generated code may introduce. -/
def forbidden : List String :=
  reservedWords ++ writtenGlobals

/-- The forbidden words that a declaration can have all the same. -/
def unguarded : List String :=
  ["Partial", "Infinity", "NaN"]

theorem underscore_of_forbidden {word : String} (isForbidden : word ∈ forbidden) : '_' ∉ word.toList := by
  have each : ∀ word ∈ forbidden, '_' ∉ word.toList := by decide
  exact each word isForbidden

theorem isLegal_forbidden_iff {word : String} (isForbidden : word ∈ forbidden) :
    isLegal word = true ↔ word ∈ unguarded := by
  have each : ∀ word ∈ forbidden, (isLegal word = true ↔ word ∈ unguarded) := by decide
  exact each word isForbidden

/-- A word without an underscore is the legal form of itself only. -/
theorem legalize_eq_iff {name word : String} (spelled : '_' ∉ word.toList) :
    legalize name = word ↔ isLegal word = true ∧ name = word := by
  constructor
  · intro isWord
    have legal : isLegal name = true := by
      by_contra illegal
      rw [legalize, if_neg illegal] at isWord
      exact spelled (isWord ▸ by simp)
    rw [legalize_of_isLegal legal] at isWord
    exact ⟨isWord ▸ legal, isWord⟩
  · rintro ⟨legal, rfl⟩
    exact legalize_of_isLegal legal

end Name

namespace NamePool

variable {word : String} (spelled : '_' ∉ word.toList)

include spelled

theorem numbered_ne_word (base : String) (number : Nat) : numbered base number ≠ word := by
  rintro rfl
  exact spelled (by simp [numbered])

/-- A pool gives such a word only where the word itself is asked for. -/
theorem eq_word_of_claim {pool : NamePool} {name : String} (given : (pool.claim name).1 = word) :
    Name.isLegal word = true ∧ name = word := by
  by_cases present : Name.legalize name ∈ pool.taken
  · rw [claim_of_taken present] at given
    exact absurd given (numbered_ne_word spelled _ _)
  · rw [claim_of_free present] at given
    exact (Name.legalize_eq_iff spelled).mp given

/-- A word is given exactly where it is asked for, if it is legal. -/
theorem claimAll_word_iff {pool : NamePool} {names : List String} (distinct : names.Nodup)
    (free : word ∈ pool.taken → word ∉ names) :
    List.Forall₂ (fun name given => given = word ↔ Name.isLegal word = true ∧ name = word) names
      (pool.claimAll names).1 := by
  induction names generalizing pool with
  | nil => exact .nil
  | cons name names ih =>
    obtain ⟨absent, distinct⟩ := List.nodup_cons.mp distinct
    rw [claimAll_cons]
    refine .cons ⟨eq_word_of_claim spelled, ?_⟩ (ih distinct ?_)
    · rintro ⟨legal, rfl⟩
      have unchanged := Name.legalize_of_isLegal legal
      have unclaimed : Name.legalize name ∉ pool.taken := fun taken =>
        free (unchanged ▸ taken) List.mem_cons_self
      rw [claim_of_free unclaimed, unchanged]
    · intro taken later
      -- The word was taken before, or it was given just now to the only name that asks for it.
      rcases ((Gives.claim pool name).taken word).mp taken with now | before
      · have asked := (eq_word_of_claim spelled (List.mem_singleton.mp now).symm).2
        exact absent (asked ▸ later)
      · exact free before (List.mem_cons_of_mem _ later)

end NamePool

/-! ### Types -/

namespace Schema

/-- The names of the types that a scope declares at every depth. Nothing is declared for map entries. -/
def declaredNames (enums : List Enum) (messages : List Message) : List String :=
  enums.map Enum.name ++ (Message.allDeclared messages).flatMap fun message =>
    message.name :: message.nestedEnums.map Enum.name

theorem mem_declaredNames {enums : List Enum} {messages : List Message} {word : String} :
    word ∈ declaredNames enums messages ↔
      word ∈ enums.map Enum.name ∨ ∃ message ∈ messages, word ∈ declaredNames [] [message] := by
  simp only [declaredNames, Message.allDeclared_eq_flatMap, List.mem_append, List.map_nil, List.nil_append,
    List.flatMap_assoc, List.flatMap_cons, List.flatMap_nil, List.append_nil, List.mem_flatMap]

theorem declaredNames_of_entry {message : Message} (entry : message.mapEntry = true) :
    declaredNames [] [message] = [] := by
  simp [declaredNames, Message.allDeclared_eq_flatMap, Message.declared_of_entry entry]

theorem mem_declaredNames_of_class {message : Message} (declared : message.mapEntry = false)
    {word : String} :
    word ∈ declaredNames [] [message] ↔
      message.name = word ∨ word ∈ declaredNames message.nestedEnums message.nestedMessages := by
  simp only [declaredNames, Message.allDeclared_eq_flatMap [message], List.flatMap_cons, List.flatMap_nil,
    List.append_nil, Message.declared_of_class declared, List.map_nil, List.nil_append, List.cons_append,
    List.mem_cons, eq_comm (a := word)]

end Schema

namespace SymbolTable

/-- A type is called by a word exactly if the word is legal and its name. -/
theorem calls_word_iff {files : List File} {file : File} (named : WellNamed files) (member : file ∈ files)
    {scope : String} {enums : List Enum} {messages : List Message}
    (has : file.HasScope scope enums messages) {type given word : String}
    (declared : type ∈ declaredTypes enums messages)
    (calls : (ofFiles files).Calls (fullName scope type) given) (spelled : '_' ∉ word.toList) :
    given = word ↔ Name.isLegal word = true ∧ type = word := by
  obtain ⟨path, site⟩ := has.exists_site
  have listed := callsAll_at named member site
  have words := NamePool.claimAll_word_iff spelled
    (has.declaredTypes_nodup (named.fullNames_nodup member))
    (fun taken : word ∈ ({} : NamePool).taken => nomatch taken)
  rw [CallsAll, Symbol.atSite_names_eq] at listed
  -- The names of the site stand in the order of its types.
  obtain ⟨position, isAt⟩ := List.getElem?_of_mem declared
  obtain ⟨name, nameAt, isName⟩ := getElem?_of_forall₂ listed isAt
  obtain ⟨_, sameAt, isWord⟩ := getElem?_of_forall₂ words isAt
  obtain rfl := Option.some.inj (nameAt.symm.trans sameAt)
  rwa [calls.unique isName]

end SymbolTable

namespace Code

/-! ### Identifiers -/

/-- The names that a declaration introduces. A namespace introduces each part of its name. -/
def Declaration.introduced : Declaration → List String
  | .namespaced path _ => Text.segments path
  | decl => decl.ownName?.toList

def identifiers (decls : List Declaration) : List String :=
  (Declaration.spreadAll decls).flatMap Declaration.introduced

@[simp] theorem identifiers_append (first second : List Declaration) :
    identifiers (first ++ second) = identifiers first ++ identifiers second := by
  rw [identifiers, spreadAll_append, List.flatMap_append, identifiers, identifiers]

theorem mem_identifiers_flatten {parts : List (List Declaration)} {word : String} :
    word ∈ identifiers parts.flatten ↔ ∃ part ∈ parts, word ∈ identifiers part := by
  induction parts with
  | nil => simp [identifiers, Declaration.spreadAll]
  | cons part parts ih => simp [ih]

theorem identifiers_namespaced (name : String) (body : List Declaration) :
    identifiers [.namespaced name body] = Text.segments name ++ identifiers body := by
  rw [identifiers, spreadAll_namespaced, List.flatMap_cons]
  rfl

/-- Where there are no namespaces, the names introduced are those of the declarations. -/
theorem identifiers_of_flat {decls : List Declaration}
    (flat : ∀ decl ∈ decls, decl.ownName?.isSome = true) :
    identifiers decls = decls.filterMap Declaration.ownName? := by
  have noNamespace : ∀ name body, .namespaced name body ∉ decls := fun name body member => by
    cases flat _ member
  rw [identifiers, spreadAll_of_flat noNamespace, List.filterMap_eq_flatMap_toList]
  refine List.flatMap_congr fun decl member => ?_
  cases decl with
  | namespaced name body => exact absurd member (noNamespace name body)
  | _ => rfl

theorem mem_identifiers_withNested {decl : MessageClass} (dotFree : '.' ∉ decl.name.toList)
    (nested : List Declaration) {word : String} :
    word ∈ identifiers (withNested decl nested) ↔ decl.name = word ∨ word ∈ identifiers nested := by
  obtain ⟨around, shape, spread⟩ := spreadAll_withNested decl nested
  have own : Declaration.introduced (.messageClass decl) = [decl.name] := rfl
  -- The namespace, if there is one, has the name of the class once more.
  have ofAround : word ∈ around.flatMap Declaration.introduced → decl.name = word := by
    rcases shape with rfl | rfl
    · simp
    · simp [Declaration.introduced, Text.segments_of_dotFree dotFree, eq_comm]
  rw [identifiers, spread, List.flatMap_cons, List.flatMap_append, own, ← identifiers,
    List.singleton_append, List.mem_cons, List.mem_append, eq_comm, ← or_assoc, or_iff_left_of_imp ofAround]

section Types

variable {files : List File} {context : Context} (named : WellNamed files) (member : context.file ∈ files)
  (table : context.symbols = SymbolTable.ofFiles files) {word : String} (spelled : '_' ∉ word.toList)

include named member table spelled

theorem buildEnums_identifiers {scope : String} {enums : List Enum} {messages : List Message}
    (has : context.file.HasScope scope enums messages) {decls : List Declaration}
    (built : buildEnums context scope enums = .ok decls) :
    word ∈ identifiers decls ↔ Name.isLegal word = true ∧ word ∈ enums.map Enum.name := by
  have related := (except_mapM_eq_ok_iff _ _ _).mp built
  -- Each enumeration introduces the one name that its symbol ends in.
  have each : List.Forall₂ (fun enum decl => ∃ given, decl.ownName? = some given ∧
      (given = word ↔ Name.isLegal word = true ∧ enum.name = word)) enums decls := by
    refine (forall₂_mem related).imp ?_
    rintro enum decl ⟨isEnum, _, made⟩
    obtain ⟨symbol, found, rfl⟩ := buildEnum_eq_ok made
    refine ⟨_, rfl, SymbolTable.calls_word_iff named member has ?_ (table ▸ calls_of_symbol found) spelled⟩
    exact List.mem_append_left _ (List.mem_map_of_mem isEnum)
  have flat : ∀ decl ∈ decls, decl.ownName?.isSome = true := by
    intro decl isDecl
    obtain ⟨enum, _, given, isNamed, _⟩ := exists_left_of_forall₂ each isDecl
    rw [isNamed, Option.isSome_some]
  rw [identifiers_of_flat flat, List.mem_filterMap, List.mem_map]
  constructor
  · rintro ⟨decl, isDecl, isNamed⟩
    obtain ⟨enum, isEnum, given, isGiven, iff⟩ := exists_left_of_forall₂ each isDecl
    obtain ⟨legal, sameName⟩ := iff.mp (Option.some.inj (isGiven.symm.trans isNamed))
    exact ⟨legal, enum, isEnum, sameName⟩
  · rintro ⟨legal, enum, isEnum, sameName⟩
    obtain ⟨decl, isDecl, given, isGiven, iff⟩ := exists_right_of_forall₂ each isEnum
    exact ⟨decl, isDecl, isGiven.trans (congrArg some (iff.mpr ⟨legal, sameName⟩))⟩

/-- A scope introduces a word if its messages do so, or if the word is the name of an enumeration. -/
theorem buildScope_identifiers_of {scope : String} {enums : List Enum} {messages : List Message}
    (has : context.file.HasScope scope enums messages)
    (each : ∀ message ∈ messages, Ensures (fun _ => True) (buildMessage context scope message) fun decls =>
      (word ∈ identifiers decls ↔
        Name.isLegal word = true ∧ word ∈ Schema.declaredNames [] [message])) :
    Ensures (fun _ => True) (buildScope context scope enums messages) fun body =>
      (word ∈ identifiers body ↔ Name.isLegal word = true ∧ word ∈ Schema.declaredNames enums messages) := by
  refine Ensures.bind (Ensures.liftM fun decls built =>
    buildEnums_identifiers named member table spelled has built) fun decls ofEnums => ?_
  rw [buildMessages_eq, bind_assoc]
  refine Ensures.bind (Ensures.mapM_forall₂ each) fun parts ofParts => ?_
  rw [pure_bind]
  refine Ensures.pure ?_
  -- Each part belongs to one message, and the word is in the whole if it is in some part.
  have ofMessages : word ∈ identifiers parts.flatten ↔ Name.isLegal word = true ∧
      ∃ message ∈ messages, word ∈ Schema.declaredNames [] [message] := by
    rw [mem_identifiers_flatten]
    constructor
    · rintro ⟨part, isPart, inPart⟩
      obtain ⟨message, isMessage, iff⟩ := exists_left_of_forall₂ ofParts isPart
      exact ⟨(iff.mp inPart).1, message, isMessage, (iff.mp inPart).2⟩
    · rintro ⟨legal, message, isMessage, isName⟩
      obtain ⟨part, isPart, iff⟩ := exists_right_of_forall₂ ofParts isMessage
      exact ⟨part, isPart, iff.mpr ⟨legal, isName⟩⟩
  rw [identifiers_append, List.mem_append, ofEnums, ofMessages, Schema.mem_declaredNames, and_or_left]

/-- The declarations of a message introduce a word exactly if it is legal and the name of one of its types. -/
theorem buildMessage_identifiers (message : Message) :
    ∀ scope enums messages, context.file.HasScope scope enums messages → message ∈ messages →
      Ensures (fun _ => True) (buildMessage context scope message) fun decls =>
        (word ∈ identifiers decls ↔
          Name.isLegal word = true ∧ word ∈ Schema.declaredNames [] [message]) := by
  induction message using Message.nested_induction with
  | step message nested =>
    intro scope enums messages has isMessage
    cases entry : message.mapEntry with
    | true =>
      rw [buildMessage_of_entry entry, Schema.declaredNames_of_entry entry]
      exact Ensures.pure (by simp [identifiers, Declaration.spreadAll])
    | false =>
      have inner : context.file.HasScope (fullName scope message.name) message.nestedEnums
          message.nestedMessages := .inside has isMessage entry
      have ofScope := buildScope_identifiers_of named member table spelled inner
        fun other isNested => nested other isNested _ _ _ inner isNested
      refine (buildMessage_ensures entry ofScope).imp ?_
      rintro _ ⟨decl, body, calls, ofBody, rfl⟩
      have declared : message.name ∈ declaredTypes enums messages :=
        List.mem_append_right _ (List.mem_map_of_mem (List.mem_filter.mpr ⟨isMessage, by simp [entry]⟩))
      have isWord := SymbolTable.calls_word_iff named member has declared (table ▸ calls) spelled
      -- The last part of a path has no dots.
      have dotFree : '.' ∉ decl.name.toList := by
        obtain ⟨symbol, _, _, isLast⟩ := calls
        rw [← isLast, Text.lastSegment, List.getLastD_eq_getLast?, List.getLast?_eq_some_getLast
          (Text.segments_ne_nil _), Option.getD_some]
        exact Text.dotFree_of_mem_segments (List.getLast_mem _)
      rw [mem_identifiers_withNested dotFree, isWord, ofBody, Schema.mem_declaredNames_of_class entry,
        and_or_left]

/-- A word is introduced by the types of a file exactly if it is legal and the name of one of them. -/
theorem buildTypes_identifiers {types : List Declaration} {uses : RootUses}
    (built : (buildTypes context).run [] = (.ok types, uses)) :
    word ∈ identifiers types ↔
      Name.isLegal word = true ∧ word ∈ Schema.declaredNames context.file.enums context.file.messages := by
  rw [buildTypes_eq] at built
  exact (buildScope_identifiers_of named member table spelled .top
    (fun message isMessage => buildMessage_identifiers named member table spelled message _ _ _ .top isMessage)
    _ _ _ trivial built).2

end Types

end Code

/-! ### Services -/

namespace Rpc

/-- What is declared has names with a property. -/
def NamedWith (R : String → Prop) (decls : List Declaration) : Prop :=
  ∀ decl ∈ decls, ∃ name, decl.ownName? = some name ∧ R name

theorem MadeShared.named {context : Context} {R : String → Prop} {decl : Declaration}
    (made : MadeShared context R decl) : ∃ name, decl.ownName? = some name ∧ R name := by
  cases made with
  | callInterface named shape => exact ⟨_, rfl, named⟩

theorem MadeFor.named {context : Context} {service : Schema.Service} {R : String → Prop} {style : Style}
    {decl : Declaration} (made : MadeFor context service R style decl) :
    ∃ name, decl.ownName? = some name ∧ R name := by
  cases made with
  | nodeServer named => exact ⟨_, rfl, named⟩
  | nodeClient named => exact ⟨_, rfl, named⟩
  | webClient named => exact ⟨_, rfl, named⟩

/-- A name that is permitted is declared as it is or with a number, which no forbidden word has. -/
theorem declare_permitted {name : String} (permitted : name ∉ Name.forbidden) (key : String) :
    Ensures (Naming.Given (· ∉ Name.forbidden)) (declare name key) fun given => given ∉ Name.forbidden := by
  refine declare_ensures_given (fun pool isForbidden => ?_) key
  have asked := (NamePool.eq_word_of_claim (Name.underscore_of_forbidden isForbidden) rfl).2
  exact permitted (asked ▸ isForbidden)

theorem interface_permitted (shape : MethodShape) : preferredInterfaces.get shape ∉ Name.forbidden := by
  cases shape <;> decide

theorem server_permitted (name : String) : "Unimplemented" ++ name ++ "Service" ∉ Name.forbidden := by
  have each : ∀ word ∈ Name.forbidden, ¬ "Unimplemented".toList <+: word.toList := by decide
  intro isForbidden
  exact each _ isForbidden ⟨(name ++ "Service").toList, by simp⟩

theorem client_permitted (name : String) : name ++ "Client" ∉ Name.forbidden := by
  have each : ∀ word ∈ Name.forbidden, ¬ "Client".toList <:+ word.toList := by decide
  intro isForbidden
  exact each _ isForbidden ⟨name.toList, by simp⟩

/-- Nothing that is made for services has a forbidden name. -/
theorem declareServices_permitted {style : Style} {context : Context} {pool : NamePool} {naming : Naming}
    {decls : List Declaration}
    (declared : (declareServices style context).run { pool } = (.ok decls, naming)) :
    NamedWith (· ∉ Name.forbidden) decls := by
  have made := (declareServices_ensures_of (fun shape => declare_permitted (interface_permitted shape) _)
    (fun _ _ given => given) style context
    (fun service _ => declare_permitted (server_permitted service.name) _)
    (fun service _ => declare_permitted (client_permitted service.name) _)
    _ _ _ (Naming.given_initial _ pool) declared).2
  intro decl member
  rcases made decl member with shared | ⟨service, _, forService⟩
  · exact shared.named
  · exact forService.named

end Rpc

namespace Generator

variable {files : List File} {file : File} {generator : Generator} {word : String}

/-! ### Imports, second names and packages -/

/-- No import has a forbidden name, since all of them are numbered. -/
theorem importName_permitted {compilation : Compilation generator file} (isForbidden : word ∈ Name.forbidden) :
    word ∉ compilation.imports.map Import.name := by
  have spelled := Name.underscore_of_forbidden isForbidden
  intro isName
  rw [importNames_eq compilation.imported] at isName
  have isModule : word ∈ compilation.context.imports.moduleNames := by
    rw [Imports.moduleNames, List.mem_cons, List.mem_cons]
    simpa [or_comm, or_assoc, or_left_comm] using isName
  rcases (Imports.mem_moduleNames_iff compilation.toTranslation.imports_resolved).mp isModule with
    ⟨_, number, _, rfl, _⟩ | ⟨_, number, _, rfl, _⟩ | ⟨_, number, _, rfl, _⟩
  all_goals exact NamePool.numbered_ne_word spelled _ _ rfl

/-- The package of a file introduces a word exactly if the word is legal and one of its parts. -/
theorem mem_identifiers_wrap (spelled : '_' ∉ word.toList) (style : Style) (file : File)
    (body : List Declaration) :
    word ∈ identifiers (wrap style file body) ↔
      (Name.isLegal word = true ∧ ∃ package, file.package? = some package ∧ style.wraps file = true ∧
        word ∈ Text.segments package) ∨ word ∈ identifiers body := by
  rw [wrap]
  cases isPackage : file.package? with
  | none => simp
  | some package =>
    cases wraps : style.wraps file with
    | false => simp
    | true =>
      have parts : Text.segments (Name.namespacePath package) =
          (Text.segments package).map Name.legalize :=
        Text.segments_joinDots (packageParts_ne_nil package) (packageParts_dotFree package)
      -- Parts that are not legal get an underscore and are no words any more.
      have isPart : word ∈ (Text.segments package).map Name.legalize ↔
          Name.isLegal word = true ∧ word ∈ Text.segments package := by
        rw [List.mem_map]
        simp only [Name.legalize_eq_iff spelled]
        constructor
        · rintro ⟨part, isPart, legal, rfl⟩
          exact ⟨legal, isPart⟩
        · rintro ⟨legal, isPart⟩
          exact ⟨word, isPart, legal, rfl⟩
      simp [identifiers_namespaced, parts, isPart]

/-- Beside the types no forbidden word is introduced. -/
theorem beside_permitted {compilation : Compilation generator file}
    (settled : compilation.context.Settled files) (isForbidden : word ∈ Name.forbidden) :
    word ∉ identifiers (compilation.services ++ secondNames compilation.uses) := by
  have services := Rpc.declareServices_permitted compilation.declared
  have seconds : Rpc.NamedWith (· ∉ Name.forbidden) (secondNames compilation.uses) := by
    intro decl member
    obtain ⟨entry, used, rfl⟩ := mem_secondNames.mp member
    refine ⟨entry.1, rfl, fun second => ?_⟩
    -- Second names are numbered.
    have isRoot := (uses_recorded settled compilation.built).isRoot _ used
    obtain ⟨number, isNumbered⟩ := settled.resolution.numberedRoots _ (OrderedMap.mem_of_get? isRoot)
    exact NamePool.numbered_ne_word (Name.underscore_of_forbidden second) _ _ isNumbered.symm
  have all := List.forall_mem_append.mpr ⟨services, seconds⟩
  have flat : ∀ decl ∈ compilation.services ++ secondNames compilation.uses,
      decl.ownName?.isSome = true := by
    intro decl member
    obtain ⟨name, isNamed, _⟩ := all decl member
    rw [isNamed, Option.isSome_some]
  rw [identifiers_of_flat flat]
  intro isName
  obtain ⟨decl, member, isNamed⟩ := List.mem_filterMap.mp isName
  obtain ⟨name, isOwn, permitted⟩ := all decl member
  obtain rfl := Option.some.inj (isNamed.symm.trans isOwn)
  exact permitted isForbidden

/-- No import of a generated file has a forbidden name. A declaration introduces one, at some depth, exactly
if it is one of the three that are not guarded and the schema file has a type of that name, or a package with
a part of that name that becomes a namespace. -/
theorem written_globals_declared_iff (named : WellNamed files)
    (table : generator.symbols = SymbolTable.ofFiles files) (member : file ∈ files) {output : GeneratedFile}
    (generated : (generator.generateFile file).1 = .ok output) :
    ∃ compilation : Compilation generator file, compilation.output = output ∧
      ∀ word ∈ Name.reservedWords ++ Name.writtenGlobals,
        word ∉ compilation.imports.map Import.name ∧
        (word ∈ identifiers (wrap generator.style file compilation.body) ↔
          word ∈ ["Partial", "Infinity", "NaN"] ∧
            (word ∈ Schema.declaredNames file.enums file.messages ∨
              ∃ package, file.package? = some package ∧ generator.style.wraps file = true ∧
                word ∈ Text.segments package)) := by
  obtain ⟨compilation, isOutput⟩ := exists_compilation generated
  refine ⟨compilation, isOutput, fun word isForbidden => ⟨importName_permitted isForbidden, ?_⟩⟩
  obtain ⟨settled, isFile, _⟩ := compilation.toTranslation.settled table named member
  have spelled := Name.underscore_of_forbidden isForbidden
  have ofTypes := buildTypes_identifiers settled.named settled.member settled.table spelled compilation.built
  -- Neither services nor second names introduce the word, so it comes from a type or from the package.
  have ofOthers := beside_permitted settled isForbidden
  rw [mem_identifiers_wrap spelled, Compilation.body, Translation.body, identifiers_append, List.mem_append,
    or_iff_left ofOthers, ofTypes, isFile, Name.isLegal_forbidden_iff isForbidden, ← and_or_left,
    or_comm, Name.unguarded]

/-- A file that has types and a package by the names of globals, and a service whose client writes one of
them. -/
def eclipse : File :=
  { name := "eclipse.proto"
    package := some "NaN.Map"
    messages := [{ name := "Partial", nestedMessages := [{ name := "Promise" }] }]
    services := [{ name := "Sky" }] }

def eclipseCompilation : Compilation (nodeGenerator [eclipse]) eclipse :=
  (compile? (nodeGenerator [eclipse]) eclipse).get (by decide +kernel)

theorem written_globals_declared_in_eclipse :
    WellNamed [eclipse] ∧ ∃ compilation : Compilation (nodeGenerator [eclipse]) eclipse,
      compilation.output = eclipseCompilation.output ∧
      "Promise" ∉ identifiers (wrap .node eclipse compilation.body) ∧
      "Partial" ∈ identifiers (wrap .node eclipse compilation.body) := by
  have named : WellNamed [eclipse] := by decide +kernel
  obtain ⟨compilation, isOutput, each⟩ := written_globals_declared_iff named rfl List.mem_cons_self
    (congrArg Prod.fst eclipseCompilation.generateFile_eq)
  refine ⟨named, compilation, isOutput, ?_, ?_⟩
  · intro declared
    have unguarded := ((each "Promise" (by decide)).2.mp declared).1
    revert unguarded
    decide
  · exact (each "Partial" (by decide)).2.mpr ⟨by decide, .inl (by decide +kernel)⟩

/-- The class of a message takes the place of the global type that the constructor of a client refers to. -/
theorem partial_is_shadowed_in_eclipse :
    "Partial" ∈ Name.writtenGlobals ∧ "Partial" ∈ identifiers eclipseCompilation.body ∧
    "    constructor(address: string, credentials: grpc_1.ChannelCredentials, " ++
      "options?: Partial<grpc_1.ChannelOptions>) \x7b" ∈
        eclipseCompilation.services.flatMap Declaration.lines := by
  refine ⟨by decide, by decide +kernel, by decide +kernel⟩

end Generator

end Typewire
