import Typewire.Proofs.Output

/-!
# References within a file

A reference to a type of the same file means the declaration that was emitted for the type, wherever in the
file it stands. A path that starts at the top of the file is looked up from the place outwards: either no
namespace around the place has its first name, and the look-up reaches the top, or one has, and then the
reference starts with a second name that no namespace has.

## Main result

`same_file_references_resolve`: every member of every emitted class whose type is declared in the file
means that type.
-/
namespace Typewire

open Schema (Enum File Message WellNamed fullName)
open Code Generator

namespace Code

variable {context : Context} {files : List File} {types others : List Declaration} {uses : RootUses}

/-- A name that no namespace around a place has is looked up at the top. -/
theorem binder?_eq_top (settled : context.Settled files)
    (built : (buildTypes context).run [] = (.ok types, uses)) (beside : Beside types others)
    {place : List String} {name : String}
    (absent : ∀ around ∈ Text.initials place,
      name ∉ (inside types around).filterMap Declaration.ownName?)
    (atTop : name ∈ (types ++ others).filterMap Declaration.ownName?) :
    binder? (types ++ others) place name = some [] := by
  -- The search from the place outwards skips every namespace and ends at the top.
  have none : (Text.initials place).find? (fun around =>
      (inside (types ++ others) around).any (Declaration.introduces name)) = none := by
    rw [List.find?_eq_none]
    intro around isAround introduced
    rw [beside.inside_below (Text.ne_nil_of_mem_initials isAround),
      any_introduces_at settled built] at introduced
    exact absent around isAround introduced
  have found : (types ++ others).any (Declaration.introduces name) = true := by
    obtain ⟨decl, member, isNamed⟩ := List.mem_filterMap.mp atTop
    refine List.any_eq_true.mpr ⟨decl, member, ?_⟩
    cases decl with
    | namespaced path body => cases isNamed
    | _ => simpa [Declaration.introduces] using isNamed
  rw [binder?, List.find?_append, none, Option.none_or]
  simp [inside, found]

/-- The parts of a reference through a second name. -/
theorem segments_throughRoot {name root : String} {rest : List String} (namePlain : Text.IsPlain name)
    (restPlain : ∀ part ∈ rest, Text.IsPlain part) :
    Text.segments (Reference.throughRoot name root (Text.joinDots rest)).text = name :: rest := by
  rw [Reference.text]
  by_cases empty : rest = []
  · subst empty
    have isEmpty : Text.joinDots [] = "" := rfl
    rw [if_pos isEmpty, namePlain.segments]
  · rw [if_neg fun equal => empty ((Text.joinDots_eq_empty_iff restPlain).mp equal),
      Text.segments_append_dot, namePlain.segments,
      Text.segments_joinDots empty fun part member => (restPlain part member).2]
    rfl

/-- What a path at the top of a body leads to. -/
theorem denoted?_of_type (settled : context.Settled files)
    (built : (buildTypes context).run [] = (.ok types, uses)) (beside : Beside types others)
    {place : List String} {first : String} {rest : List String} {found : List String × Declaration}
    (absent : ∀ around ∈ Text.initials place,
      first ∉ (inside types around).filterMap Declaration.ownName?)
    (atTop : first ∈ types.filterMap Declaration.ownName?)
    (located : locate (types ++ others) (first :: rest) = some found) :
    denoted? (types ++ others) place (first :: rest) = some found := by
  have bound : binder? (types ++ others) place first = some [] := by
    apply binder?_eq_top settled built beside absent
    rw [List.filterMap_append]
    exact List.mem_append_left _ atTop
  obtain ⟨decl, member, isNamed⟩ := List.mem_filterMap.mp atTop
  have only : named (inside (types ++ others) []) first = [decl] :=
    beside.named_type (ownNames_nodup settled built []) member isNamed
  -- The first name belongs to a type, so it is not followed as a second name.
  have noSecondName : decl.isBeside = false := isBeside_of_mem settled built member
  rw [denoted?, bound]
  simp only [only]
  split
  next name target shape =>
    rw [List.cons.inj shape |>.1] at noSecondName
    cases noSecondName
  next => exact located

/-- What a path through a second name leads to. -/
theorem denoted?_of_secondName (settled : context.Settled files)
    (built : (buildTypes context).run [] = (.ok types, uses)) (beside : Beside types others)
    {place : List String} {name root : String} {rest : List String} {found : List String × Declaration}
    (only : named others name = [.secondName name root]) (rootPlain : Text.IsPlain root)
    (located : locate (types ++ others) (root :: rest) = some found) :
    denoted? (types ++ others) place (name :: rest) = some found := by
  have isName : name ∈ others.filterMap Declaration.ownName? := by
    have member : .secondName name root ∈ named others name := only ▸ List.mem_singleton_self _
    exact List.mem_filterMap.mpr ⟨_, (List.mem_filter.mp member).1, rfl⟩
  have bound : binder? (types ++ others) place name = some [] := by
    refine binder?_eq_top settled built beside (fun around _ => beside.apart name isName around) ?_
    rw [List.filterMap_append]
    exact List.mem_append_right _ isName
  have onlyInBody : named (inside (types ++ others) []) name = [.secondName name root] :=
    (beside.named_other isName).trans only
  rw [denoted?, bound]
  simp only [onlyInBody, rootPlain.segments]
  exact located

/-- A name that is not shadowed at a place is in no namespace around it. -/
theorem absent_of_visible (settled : context.Settled files)
    (built : (buildTypes context).run [] = (.ok types, uses)) {path : List String} {scope : String}
    {enums : List Enum} {messages : List Message}
    (site : context.file.HasSite path scope enums messages) {name : String}
    (visible : context.isShadowed name scope = false) :
    ∀ around ∈ Text.initials path, name ∉ (inside types around).filterMap Declaration.ownName? := by
  intro around isAround taken
  have shadowed := (isShadowed_iff settled built site name).mpr ⟨around, isAround, taken⟩
  rw [visible] at shadowed
  cases shadowed

/-- A reference to a type of the same file means the declaration that was emitted for it. -/
theorem denoted?_of_spells (settled : context.Settled files)
    (built : (buildTypes context).run [] = (.ok types, uses)) {services : List Declaration}
    (beside : Beside types (services ++ secondNames uses))
    (servicesFree : ∀ name ∈ services.filterMap Declaration.ownName?,
      name ∉ context.imports.pool.taken)
    {path : List String} {scope : String} {enums : List Enum} {messages : List Message}
    (site : context.file.HasSite path scope enums messages) {typeName text : String}
    (isLocal : typeName ∈ context.file.fullNames) (spells : Spells context scope uses typeName text) :
    ∃ place decl,
      denoted? (types ++ (services ++ secondNames uses)) path (Text.segments text) = some (place, decl) ∧
      EmittedFor context.file (types ++ (services ++ secondNames uses)) typeName place decl := by
  obtain ⟨reference, spelled, rfl, used⟩ := spells
  obtain ⟨symbol, isSymbol, ways⟩ := Context.reference_eq_ok spelled
  obtain ⟨found, declared⟩ := Context.symbol_eq_ok.mp isSymbol
  have recorded : symbol ∈ Symbol.ofFile context.file ∧ symbol.fullName = typeName := by
    rw [settled.table] at found
    exact SymbolTable.mem_ofFile_of_lookup? settled.named settled.member isLocal found
  obtain ⟨isRecorded, rfl⟩ := recorded
  obtain ⟨place, given, decl, localPath, plain, atTop, only, emitted⟩ :=
    beside.emitted settled built isRecorded declared
  refine ⟨place, decl, ?_, emitted⟩
  have located := locate_concat _ place given only
  -- The path from the top, by its first name and the rest.
  obtain ⟨first, rest, split⟩ := List.exists_cons_of_ne_nil (List.concat_ne_nil given place)
  rw [split] at localPath plain located atTop
  have dotFree : ∀ part ∈ first :: rest, '.' ∉ part.toList := fun part member => (plain part member).2
  have isFirst : Text.firstSegment symbol.localPath = first := by
    rw [localPath, Text.firstSegment_joinDots dotFree]
  rcases ways with ⟨_, visible, rfl⟩ | ⟨_, _, name, isRoot, rfl⟩ | ⟨foreign, _⟩
  · rw [isFirst] at visible
    rw [Reference.text, localPath, Text.segments_joinDots (List.cons_ne_nil _ _) dotFree]
    exact denoted?_of_type settled built beside (absent_of_visible settled built site visible) atTop located
  · -- The root is shadowed: its second name is used, and nothing else has that name.
    have rootPlain : Text.IsPlain first := plain first List.mem_cons_self
    have restPlain : ∀ part ∈ rest, Text.IsPlain part := fun part member =>
      plain part (List.mem_cons_of_mem _ member)
    rw [isFirst] at isRoot used
    have namePlain := settled.root_plain isRoot rootPlain
    have free : name ∉ services.filterMap Declaration.ownName? := fun isService =>
      servicesFree name isService (settled.root_taken isRoot)
    have alone : named (services ++ secondNames uses) name = [.secondName name first] := by
      rw [named_append, named_eq_nil free, List.nil_append]
      exact named_secondNames (uses_recorded settled built) (used name first _ rfl)
    rw [isFirst, localPath, Text.afterFirst_joinDots dotFree, segments_throughRoot namePlain restPlain]
    exact denoted?_of_secondName settled built beside alone rootPlain located
  · exact absurd (Symbol.fileName_eq isRecorded) foreign

end Code

namespace Generator

/-- A field that refers to a type of a file means the declaration that was emitted for the type. -/
def FieldResolves (file : File) (body : List Declaration) (place : List String) (field : Schema.Field)
    (text : String) : Prop :=
  field.kind.isScalar = false → ∀ typeName, field.typeName = some typeName →
    typeName ∈ file.fullNames → ∃ target decl,
      denoted? body place (Text.segments text) = some (target, decl) ∧
      EmittedFor file body typeName target decl

/-- Every class that is emitted for a file, at whatever depth, is the class of a message of the file, and
each of its members that refers to a type of the file means that type. -/
theorem same_file_references_resolve {files : List File} (named : WellNamed files) {style : Style}
    {file : File} (member : file ∈ files)
    (translation : Translation (SymbolTable.ofFiles files) style file) {services : List Declaration}
    (serves : translation.Serves services) {place : List String} {decl : MessageClass}
    (emitted : .messageClass decl ∈ inside (translation.body services) place) :
    ∃ message, file.Declares decl.fullName message ∧
      List.Forall₂ (EachPart (FieldResolves file (translation.body services) place))
        message.fields decl.members := by
  obtain ⟨settled, isFile, _⟩ := translation.settled rfl named member
  have declared := serves.declared
  -- Services and second names stand beside the types under names of their own, so no type is hidden by them.
  have besideTypes := beside settled translation.built declared
  have servicesFree : ∀ name ∈ services.filterMap Declaration.ownName?,
      name ∉ translation.context.imports.pool.taken := by
    intro name isName
    obtain ⟨service, isService, isNamed⟩ := List.mem_filterMap.mp isName
    exact (declared service isService).free name isNamed
  obtain ⟨scope, enums, messages, message, site, isMessage, notEntry, isFor, spelled⟩ :=
    members_spelled settled translation.built (besideTypes.class_mem emitted)
  have declares : translation.context.file.Declares decl.fullName message :=
    ⟨scope, enums, messages, site.hasScope, isMessage, notEntry, isFor⟩
  refine ⟨message, isFile ▸ declares, spelled.imp fun field made each => each.imp ?_⟩
  intro part text spells notScalar typeName typed isLocal
  rw [← isFile] at isLocal
  obtain ⟨target, found, denotes, isEmitted⟩ := denoted?_of_spells settled translation.built
    besideTypes servicesFree site isLocal (spells notScalar typeName typed)
  rw [isFile] at isEmitted
  exact ⟨target, found, denotes, isEmitted⟩

def messageField (name : String) (number : Int) (typeName : String) : Schema.Field :=
  { name, number, cardinality := .singular, kind := .message, typeName := some typeName }

/-- A file in which `Scene` declares `Shape` again, so that a layer of a scene reaches the outer `Shape` only
through its second name. -/
def figures : File :=
  { name := "figures.proto"
    package := some "figures"
    messages := [
      { name := "Shape" },
      { name := "Scene"
        nestedMessages := [
          { name := "Shape" },
          { name := "Layer"
            fields := [
              messageField "outline" 1 ".figures.Shape",
              messageField "patch" 2 ".figures.Scene.Shape",
              { messageField "parts" 3 ".figures.Scene.Layer.PartsEntry" with
                mapKey := some { name := "key", number := 1, cardinality := .singular, kind := .string }
                mapValue := some (messageField "value" 2 ".figures.Shape") }]
            nestedMessages := [{ name := "PartsEntry", mapEntry := true }] }] }]
    services := [{ name := "Gallery", methods := [
      { name := "Show", inputType := ".figures.Scene", outputType := ".figures.Shape" }] }] }

def nodeGenerator (files : List File) : Generator :=
  { options := { style := "grpc-js", runtimePackage := "google-protobuf" }
    style := .node
    symbols := SymbolTable.ofFiles files
    compilerVersion := {} }

def figuresCompilation : Compilation (nodeGenerator [figures]) figures :=
  (compile? (nodeGenerator [figures]) figures).get (by decide +kernel)

theorem same_file_references_resolve_in_figures :
    WellNamed [figures] ∧ ∃ decl : MessageClass,
      .messageClass decl ∈ inside figuresCompilation.body ["Scene"] ∧
      decl.members.map Field.typeRef = ["Shape_1", "Scene.Shape", "Shape_1"] ∧
      ∃ message, figures.Declares decl.fullName message ∧
        List.Forall₂ (EachPart (FieldResolves figures figuresCompilation.body ["Scene"]))
          message.fields decl.members := by
  have named : WellNamed [figures] := by decide +kernel
  have emitted : (inside figuresCompilation.body ["Scene"]).any (fun decl => match decl with
      | .messageClass made => made.members.map Field.typeRef = ["Shape_1", "Scene.Shape", "Shape_1"]
      | _ => false) = true := by decide +kernel
  obtain ⟨decl, isEmitted, spelled⟩ := List.any_eq_true.mp emitted
  cases decl with
  | messageClass made =>
    exact ⟨named, made, isEmitted, of_decide_eq_true spelled,
      same_file_references_resolve named List.mem_cons_self figuresCompilation.toTranslation
        figuresCompilation.serves isEmitted⟩
  | _ => cases spelled

end Generator

end Typewire
