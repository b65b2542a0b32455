import Typewire.Proofs.CarriedTexts
import Typewire.Proofs.LocalReferences
import Typewire.Proofs.Output

/-!
# Generated code is well bracketed

Declarations for a file are made in steps: single types of any scope, the types that services share, the server
and the client of a service, second names, a namespace around what there is. Of what was made any selection may
be written, in any order. Whatever list comes about in this way, its code is well bracketed, as long as no name
and no written default of the schema has a bracket, a quote or a line break. Defaults of strings and bytes may
be any texts.

Main result: `rendered_code_well_bracketed`.
-/
namespace Typewire

open Schema (Enum File Message ScopeConsists)
open Text (AdmitsWords Consists Discipline)
open Code

theorem Schema.File.HasScope.consists {admits : Char → Bool} {file : File} {scope : String} {enums : List Enum}
    {messages : List Message} (has : file.HasScope scope enums messages) (ofFile : file.Consists admits) :
    ScopeConsists admits enums messages := by
  induction has with
  | top => exact ofFile.scope
  | inside _ member _ outer => exact outer.inside member

namespace Generator

/-! ### Assembling declarations -/

/-- A list of declarations that was made for a file, with the second names in use and the names declared for
services at that point. -/
inductive Assembled (style : Style) (context : Context) :
    RootUses → Rpc.Naming → List Declaration → Prop where
  | start : Assembled style context [] { pool := context.imports.pool } []
  /-- An enumeration of the file is added. -/
  | enumeration {uses : RootUses} {naming : Rpc.Naming} {decls : List Declaration}
      (before : Assembled style context uses naming decls) {place scope : String} {enums : List Enum}
      {messages : List Message} (has : context.file.HasScope place enums messages) {enum : Enum}
      (member : enum ∈ enums) {made : Declaration} (built : buildEnum context scope enum = .ok made) :
      Assembled style context uses naming (decls ++ [made])
  /-- A message of the file is added, with what is nested in it. -/
  | message {uses later : RootUses} {naming : Rpc.Naming} {decls : List Declaration}
      (before : Assembled style context uses naming decls) {place scope : String} {enums : List Enum}
      {messages : List Message} (has : context.file.HasScope place enums messages) {message : Message}
      (member : message ∈ messages) {made : List Declaration}
      (built : (buildMessage context scope message).run uses = (.ok made, later)) :
      Assembled style context later naming (decls ++ made)
  /-- What the services of a file share is added. -/
  | shared {uses : RootUses} {naming later : Rpc.Naming} {decls : List Declaration}
      (before : Assembled style context uses naming decls) {made : List Declaration}
      (built : (Rpc.sharedTypes style context).run naming = (.ok made, later)) :
      Assembled style context uses later (decls ++ made)
  | server {uses : RootUses} {naming later : Rpc.Naming} {decls : List Declaration}
      (before : Assembled style context uses naming decls) {service : Schema.Service}
      (member : service ∈ context.file.services) {made? : Option Declaration}
      (built : (Rpc.server? style context service).run naming = (.ok made?, later)) :
      Assembled style context uses later (decls ++ made?.toList)
  | client {uses : RootUses} {naming later : Rpc.Naming} {decls : List Declaration}
      (before : Assembled style context uses naming decls) {service : Schema.Service}
      (member : service ∈ context.file.services) {made? : Option Declaration}
      (built : (Rpc.client? style context service).run naming = (.ok made?, later)) :
      Assembled style context uses later (decls ++ made?.toList)
  /-- The second names in use are added. -/
  | secondNames {uses : RootUses} {naming : Rpc.Naming} {decls : List Declaration}
      (before : Assembled style context uses naming decls) :
      Assembled style context uses naming (decls ++ secondNames uses)
  /-- Everything is put into the namespace of the package, if the style says so. -/
  | wrapped {uses : RootUses} {naming : Rpc.Naming} {decls : List Declaration}
      (before : Assembled style context uses naming decls) :
      Assembled style context uses naming (wrap style context.file decls)
  /-- Some of the declarations are taken, in any order. -/
  | chosen {uses : RootUses} {naming : Rpc.Naming} {decls some : List Declaration}
      (before : Assembled style context uses naming decls) (subset : some ⊆ decls) :
      Assembled style context uses naming some

/-- The namespace around a body carries the package and what the body carries. -/
theorem wrap_carried {admits : Char → Bool} {P : String → Prop} (words : AdmitsWords admits)
    (plain : ∀ text, Consists admits text → P text) {style : Style} {file : File}
    (ofFile : file.Consists admits) {decls : List Declaration} (carry : ∀ decl ∈ decls, decl.Carries P) :
    ∀ decl ∈ wrap style file decls, decl.Carries P := by
  rw [wrap]
  split
  next package isPackage =>
    split
    · have ofPackage := Name.namespacePath_consists words (ofFile.package isPackage)
      exact List.forall_mem_singleton.mpr (.namespaced (plain _ ofPackage) carry)
    · exact carry
  next => exact carry

/-- However declarations are assembled, what they carry keeps to a discipline. -/
theorem Assembled.carried {admits : Char → Bool} {P : String → Prop} {Q : List String → Prop}
    (rules : Discipline P Q) (words : AdmitsWords admits) (plain : ∀ text, Consists admits text → P text)
    {style : Style} {context : Context} (consists : context.Consists admits) {uses : RootUses}
    {naming : Rpc.Naming} {decls : List Declaration} (assembled : Assembled style context uses naming decls) :
    UsesConsist admits uses ∧ naming.Given (Consists admits) ∧ ∀ decl ∈ decls, decl.Carries P := by
  have serviceTexts : ∀ service ∈ context.file.services, ∀ text ∈ service.texts, Consists admits text := by
    intro service member text isText
    exact consists.file text (List.mem_append_right _ (List.mem_flatMap.mpr ⟨service, member, isText⟩))
  -- Types change only the second names in use, services only the names declared for them. Either may be
  -- written at a later step, so both invariants come along through all steps.
  induction assembled with
  | start => simp [UsesConsist, Rpc.Naming.Given]
  | enumeration _ has member built ih =>
    have carries := buildEnum_carried plain consists ((has.consists consists.file).enums _ member) built
    exact ⟨ih.1, ih.2.1, List.forall_mem_append.mpr ⟨ih.2.2, List.forall_mem_singleton.mpr carries⟩⟩
  | message _ has member built ih =>
    obtain ⟨ofUses, carry⟩ := buildMessage_carried rules words plain consists (has.consists consists.file)
      member _ _ _ ih.1 built
    exact ⟨ofUses, ih.2.1, List.forall_mem_append.mpr ⟨ih.2.2, carry⟩⟩
  | shared _ built ih =>
    obtain ⟨ofNaming, carry⟩ := Rpc.sharedTypes_carried words plain consists style _ _ _ ih.2.1 built
    exact ⟨ih.1, ofNaming, List.forall_mem_append.mpr ⟨ih.2.2, carry⟩⟩
  | server _ member built ih =>
    obtain ⟨ofNaming, carry⟩ := Rpc.server?_carried words plain consists (serviceTexts _ member) style
      _ _ _ ih.2.1 built
    exact ⟨ih.1, ofNaming, List.forall_mem_append.mpr ⟨ih.2.2, carry⟩⟩
  | client _ member built ih =>
    obtain ⟨ofNaming, carry⟩ := Rpc.client?_carried words plain consists (serviceTexts _ member) style
      _ _ _ ih.2.1 built
    exact ⟨ih.1, ofNaming, List.forall_mem_append.mpr ⟨ih.2.2, carry⟩⟩
  | secondNames _ ih =>
    refine ⟨ih.1, ih.2.1, List.forall_mem_append.mpr ⟨ih.2.2, fun decl member => ?_⟩⟩
    obtain ⟨entry, inUse, rfl⟩ := mem_secondNames.mp member
    exact .secondName (plain _ (ih.1 entry inUse).1) (plain _ (ih.1 entry inUse).2)
  | wrapped _ ih => exact ⟨ih.1, ih.2.1, wrap_carried words plain consists.file ih.2.2⟩
  | chosen _ subset ih => exact ⟨ih.1, ih.2.1, fun decl member => ih.2.2 decl (subset member)⟩

/-! ### The body of a file -/

namespace Assembled

variable {style : Style} {context : Context} {uses later : RootUses} {naming : Rpc.Naming}
  {decls : List Declaration} {place scope : String} {enums : List Enum} {messages : List Message}

/-- The enumerations of a scope can be added one after the other. -/
theorem add_enums (assembled : Assembled style context uses naming decls)
    (has : context.file.HasScope place enums messages) {added : List Enum} (subset : added ⊆ enums)
    {made : List Declaration} (built : buildEnums context scope added = .ok made) :
    Assembled style context uses naming (decls ++ made) := by
  have related := (except_mapM_eq_ok_iff _ _ _).mp built
  induction related generalizing decls with
  | nil => rwa [List.append_nil]
  | cons first _ ih =>
    obtain ⟨isFirst, others⟩ := List.cons_subset.mp subset
    rw [List.append_cons]
    exact ih (assembled.enumeration has isFirst first) others ((except_mapM_eq_ok_iff _ _ _).mpr ‹_›)

/-- The messages of a scope can be added one after the other. -/
theorem add_messages (assembled : Assembled style context uses naming decls)
    (has : context.file.HasScope place enums messages) {added : List Message} (subset : added ⊆ messages)
    {made : List Declaration} (built : (buildMessages context scope added).run uses = (.ok made, later)) :
    Assembled style context later naming (decls ++ made) := by
  induction added generalizing uses decls made with
  | nil =>
    cases built
    rwa [List.append_nil]
  | cons message added ih =>
    obtain ⟨isFirst, others⟩ := List.cons_subset.mp subset
    obtain ⟨first, between, ranFirst, rest⟩ := run_bind_eq_ok built
    obtain ⟨more, after, ranOthers, last⟩ := run_bind_eq_ok rest
    cases last
    rw [← List.append_assoc]
    exact ih (assembled.message has isFirst ranFirst) others ranOthers

/-- The classes of services can be added one service after the other. -/
theorem add_services {naming final : Rpc.Naming} (assembled : Assembled style context uses naming decls)
    {added : List Schema.Service} (subset : added ⊆ context.file.services) {made : List (List Declaration)}
    (built : (added.mapM fun service => do
      let server ← Rpc.server? style context service
      let client ← Rpc.client? style context service
      return server.toList ++ client.toList : Rpc.Declaring (List (List Declaration))).run naming =
        (.ok made, final)) :
    Assembled style context uses final (decls ++ made.flatten) := by
  -- Services are added one at a time, the server of each before its client.
  induction added generalizing naming decls made with
  | nil =>
    rw [List.mapM_nil] at built
    cases built
    rwa [List.flatten_nil, List.append_nil]
  | cons service added ih =>
    obtain ⟨isFirst, others⟩ := List.cons_subset.mp subset
    rw [List.mapM_cons] at built
    obtain ⟨classes, between, ranFirst, rest⟩ := run_bind_eq_ok built
    obtain ⟨more, after, ranOthers, last⟩ := run_bind_eq_ok rest
    cases last
    obtain ⟨server, withServer, ranServer, rest⟩ := run_bind_eq_ok ranFirst
    obtain ⟨client, withClient, ranClient, last⟩ := run_bind_eq_ok rest
    cases last
    have added := (assembled.server isFirst ranServer).client isFirst ranClient
    rw [List.flatten_cons, ← List.append_assoc, ← List.append_assoc]
    exact ih added others ranOthers

/-- What is built for a file and for its services is assembled step by step. -/
theorem of_built {types services : List Declaration} (built : (buildTypes context).run [] = (.ok types, uses))
    (declared : (Rpc.declareServices style context).run { pool := context.imports.pool } =
      (.ok services, naming)) :
    Assembled style context uses naming (types ++ services) := by
  obtain ⟨enums, _, ranEnums, rest⟩ := run_bind_eq_ok built
  obtain ⟨messages, _, ranMessages, last⟩ := run_bind_eq_ok rest
  cases last
  obtain ⟨shared, _, ranShared, rest⟩ := run_bind_eq_ok declared
  obtain ⟨classes, _, ranClasses, last⟩ := run_bind_eq_ok rest
  cases last
  rw [run_liftM, Prod.mk.injEq] at ranEnums
  obtain ⟨enumsBuilt, rfl⟩ := ranEnums
  have begun : Assembled style context [] { pool := context.imports.pool } [] := .start
  have ofEnums := begun.add_enums .top (List.Subset.refl _) enumsBuilt
  have ofTypes := ofEnums.add_messages .top (List.Subset.refl _) ranMessages
  have ofServices := (ofTypes.shared ranShared).add_services (List.Subset.refl _) ranClasses
  rwa [List.nil_append, List.append_assoc] at ofServices

end Assembled

/-- The body of a generated file is assembled in this way. -/
theorem Compilation.assembled {generator : Generator} {file : File} (compilation : Compilation generator file) :
    Assembled generator.style compilation.context compilation.uses compilation.naming
      (wrap generator.style file compilation.body) := by
  have isFile : compilation.context.file = file := by
    obtain ⟨imports, _, shape⟩ := context_eq_ok.mp compilation.resolved
    rw [shape]
  have complete := (Assembled.of_built compilation.built compilation.declared).secondNames.wrapped
  rwa [isFile, List.append_assoc] at complete

/-- The code of a list of declarations that was assembled for a file is well bracketed, if no text of the
schema that is written as it stands has a bracket, a quote or a line break. -/
theorem rendered_code_well_bracketed {files : List File}
    (neutral : ∀ file ∈ files, file.Consists Text.isNeutral) {file : File} (member : file ∈ files)
    {style : Style} {context : Context}
    (resolved : Generator.context (SymbolTable.ofFiles files) style file = .ok context) {uses : RootUses}
    {naming : Rpc.Naming} {decls : List Declaration} (assembled : Assembled style context uses naming decls) :
    Text.IsWellBracketed (render decls) := by
  have words : AdmitsWords Text.isNeutral := fun c isWord => Text.isNeutral_of_isWord isWord
  have consists : context.Consists Text.isNeutral := by
    obtain ⟨imports, named, rfl⟩ := context_eq_ok.mp resolved
    exact Context.consists_of_resolved words neutral member rfl named
  have plain : ∀ text, Consists Text.isNeutral text → Text.Balanced text := fun text =>
    Text.balanced_of_neutral
  obtain ⟨_, _, carry⟩ := assembled.carried Text.brackets words plain consists
  exact Text.isWellBracketed_unlines (renderLines_kept Text.brackets carry)

/-- A file with defaults that look like open brackets, closed quotes and new lines, beside a map, a oneof, a
shadowed type and a streaming service. -/
def riddle : File :=
  { name := "riddle.proto"
    package := some "riddle.v1"
    enums := [{ name := "Side", values := [{ name := "LEFT", number := 0 }, { name := "RIGHT", number := 1 }] }]
    messages := [
      { name := "Clue"
        fields := [
          { name := "motto", number := 1, cardinality := .singular, kind := .string
            defaultValue := some "\"); \x7d ]\\\n\u2028([\x7b" },
          { name := "seal", number := 2, cardinality := .singular, kind := .bytes
            defaultValue := some "(\"[" },
          { name := "side", number := 3, cardinality := .singular, kind := .enum
            typeName := some ".riddle.v1.Side", defaultValue := some "RIGHT" },
          { name := "weight", number := 4, cardinality := .singular, kind := .double
            defaultValue := some "-1.5e-3" },
          { name := "hint", number := 5, cardinality := .oneof, kind := .string, oneofIndex := some 0 },
          { messageField "next" 6 ".riddle.v1.Clue" with cardinality := .oneof, oneofIndex := some 0 }]
        oneofs := [{ name := "help" }] },
      { name := "Trail"
        fields := [
          { messageField "clues" 1 ".riddle.v1.Trail.CluesEntry" with
            cardinality := .repeated
            mapKey := some { name := "key", number := 1, cardinality := .singular, kind := .string }
            mapValue := some (messageField "value" 2 ".riddle.v1.Clue") }]
        nestedMessages := [
          { name := "CluesEntry", mapEntry := true },
          { name := "Clue", fields := [messageField "origin" 1 ".riddle.v1.Clue"] }] }]
    services := [{ name := "Desk", methods := [
      { name := "Ask", inputType := ".riddle.v1.Clue", outputType := ".riddle.v1.Trail"
        serverStreaming := true }] }] }

def riddleCompilation : Compilation (nodeGenerator [riddle]) riddle :=
  (compile? (nodeGenerator [riddle]) riddle).get (by decide +kernel)

theorem riddle_code_well_bracketed :
    (∀ file ∈ [riddle], file.Consists Text.isNeutral) ∧
    (riddleCompilation.uses ≠ []) ∧
    Text.IsWellBracketed (render (wrap .node riddle riddleCompilation.body)) := by
  have neutral : ∀ file ∈ [riddle], file.Consists Text.isNeutral := by decide +kernel
  refine ⟨neutral, by decide +kernel, ?_⟩
  exact rendered_code_well_bracketed neutral List.mem_cons_self riddleCompilation.resolved
    riddleCompilation.assembled

end Generator

end Typewire
