import Mathlib.Data.List.Induction
import Typewire.Proofs.Building
import Typewire.Proofs.Lookup

/-!
# Where types are emitted

The namespaces of a generated file follow the scopes of the schema: at the site of a scope stand the
declarations that were built for it, under the names that the site gives. So the declaration of a type is
found by following the path of its symbol, and a name is taken by a namespace around a place exactly when
spelling references there takes it for shadowed.
-/
namespace Typewire.Code

open Schema (Enum File Message fullName)

/-! ### Declarations of one scope -/

def Declaration.isEnumeration : Declaration → Bool
  | .enumeration _ _ => true
  | _ => false

/-- A declaration of a scope was made for a type of the scope: for an enumeration it has the same position
among the enumerations, and a class carries the full name of its message. -/
inductive DeclaredFor (scope : String) (enums : List Enum) (messages : List Message)
    (body : List Declaration) : String → Declaration → Prop where
  | enumeration {position : Nat} {enum : Enum} {decl : Declaration} (isEnum : enums[position]? = some enum)
      (atPosition : (body.filter Declaration.isEnumeration)[position]? = some decl) :
      DeclaredFor scope enums messages body (fullName scope enum.name) decl
  | messageClass {message : Message} {decl : MessageClass} (member : message ∈ messages)
      (declared : message.mapEntry = false) (emitted : .messageClass decl ∈ body)
      (isFor : decl.fullName = fullName scope message.name) :
      DeclaredFor scope enums messages body (fullName scope message.name) (.messageClass decl)

theorem withNested_ownNames (decl : MessageClass) (nested : List Declaration) :
    (withNested decl nested).filterMap Declaration.ownName? = [decl.name] := by
  rw [withNested]
  split <;> rfl

theorem withNested_enumerations (decl : MessageClass) (nested : List Declaration) :
    (withNested decl nested).filter Declaration.isEnumeration = [] := by
  rw [withNested]
  split <;> rfl

/-- The namespace behind a class opens by the name of the class. -/
theorem withNested_opened {decl : MessageClass} (plain : Text.IsPlain decl.name)
    (nested : List Declaration) (name : String) :
    (withNested decl nested).flatMap (Declaration.opened name) =
      if decl.name = name then nested else [] := by
  rw [withNested]
  split
  next empty =>
    have isEmpty : nested = [] := List.isEmpty_iff.mp empty
    simp [Declaration.opened, isEmpty]
  next =>
    simp only [List.flatMap_cons, List.flatMap_nil, List.append_nil, opened_namespaced plain]
    rfl

theorem class_mem_withNested (decl : MessageClass) (nested : List Declaration) :
    .messageClass decl ∈ withNested decl nested := by
  rw [withNested]
  split <;> exact List.mem_cons_self

theorem mem_withNested {decl other : MessageClass} {nested : List Declaration}
    (member : .messageClass other ∈ withNested decl nested) : other = decl := by
  rw [withNested] at member
  split at member <;> simpa using member

theorem name_of_namespaced_mem {decl : MessageClass} {nested body : List Declaration} {name : String}
    (member : .namespaced name body ∈ withNested decl nested) : name = decl.name := by
  rw [withNested] at member
  split at member
  · simp at member
  · simp only [List.mem_cons, reduceCtorEq, Declaration.namespaced.injEq, List.not_mem_nil,
      or_false, false_or] at member
    exact member.1

section Scope

variable {context : Context} {files : List File} {start finish : RootUses} {path : List String}
  {scope : String} {enums : List Enum} {messages : List Message} {body : List Declaration}

/-- The name under which a type is declared is the one given at its site. -/
theorem declaredName_eq (settled : context.Settled files)
    (site : context.file.HasSite path scope enums messages) {recorded symbol : Symbol} {given : String}
    (isRecorded : recorded ∈ (Symbol.atSite (context.file.siteAt path scope) enums messages).symbols)
    (located : recorded.localPath = (context.file.siteAt path scope).pathOf given)
    (named : given ∈ (Symbol.atSite (context.file.siteAt path scope) enums messages).names)
    (found : context.symbol recorded.fullName = .ok symbol) : symbol.declaredName = given := by
  have known := settled.lookup?_of_mem (site.recorded settled.plain isRecorded)
  obtain ⟨found', _⟩ := Context.symbol_eq_ok.mp found
  obtain rfl : recorded = symbol := Option.some.inj (known.symm.trans found')
  have namePlain := site.name_plain settled.plain named
  rw [Symbol.declaredName, located, site.pathOf_eq settled.plain]
  apply Text.lastSegment_joinDots
  intro part inPath
  rcases List.mem_append.mp inPath with before | last
  · exact (site.path_plain settled.plain part before).2
  · exact List.mem_singleton.mp last ▸ namePlain.2

/-- What building a scope comes to, with the names that its site gives. -/
structure ScopeMade (context : Context) (start finish : RootUses) (path : List String) (scope : String)
    (enums : List Enum) (messages : List Message) (body decls : List Declaration)
    (classes : List (MessageClass × List Declaration)) : Prop where
  body_eq : body = decls ++ classes.flatMap (fun made => withNested made.1 made.2)
  enumerations : List.Forall₂ (fun enum decl => buildEnum context scope enum = .ok decl) enums decls
  made : List.Forall₂ (fun message made => MadeFor context start finish scope message made.1 made.2)
    (messages.filter fun message => !message.mapEntry) classes
  names_eq : decls.filterMap Declaration.ownName? ++ classes.map (fun made => made.1.name) =
    (Symbol.atSite (context.file.siteAt path scope) enums messages).names
  name_of_given : ∀ message decl nested given, MadeFor context start finish scope message decl nested →
    Symbol.IsGiven (context.file.siteAt path scope) enums messages message given → decl.name = given

theorem enumeration_of_ok {enum : Enum} {decl : Declaration}
    (built : buildEnum context scope enum = .ok decl) : decl.isEnumeration = true := by
  obtain ⟨symbol, _, rfl⟩ := buildEnum_eq_ok built
  rfl

theorem enumerations_of_ok {decls : List Declaration}
    (built : List.Forall₂ (fun enum decl => buildEnum context scope enum = .ok decl) enums decls) :
    ∀ decl ∈ decls, decl.isEnumeration = true := by
  intro decl member
  obtain ⟨enum, _, isBuilt⟩ := exists_left_of_forall₂ built member
  exact enumeration_of_ok isBuilt

/-- Whatever is built for a scope has the names that the site of the scope gives. -/
theorem exists_scopeMade (settled : context.Settled files) (recorded : Recorded context start)
    (site : context.file.HasSite path scope enums messages)
    (made : During (Grows context) start finish (buildScope context scope enums messages) body) :
    ∃ decls classes,
      ScopeMade context start finish path scope enums messages body decls classes := by
  obtain ⟨decls, classes, body_eq, enumerations, madeFor⟩ := buildScope_during settled recorded made
  have name_of_given : ∀ message decl nested given,
      MadeFor context start finish scope message decl nested →
      Symbol.IsGiven (context.file.siteAt path scope) enums messages message given →
      decl.name = given := by
    intro message decl nested given isMade isGiven
    obtain ⟨symbol, found, isNamed⟩ := isMade.named
    rw [isMade.fullName] at found
    rw [isNamed]
    exact declaredName_eq settled site isGiven.recorded rfl isGiven.named found
  refine ⟨decls, classes, body_eq, enumerations, madeFor, ?_, name_of_given⟩
  obtain ⟨enumNames, messageNames, names_eq, enumsGiven, messagesGiven⟩ :=
    Symbol.atSite_given (context.file.siteAt path scope) enums messages
  -- Names were given in the order of declaration, so the lists can be compared element by element.
  have enumNames_eq : decls.map Declaration.ownName? = enumNames.map some := by
    refine map_eq_map_of_forall₂ enumerations (forall₂_mem enumsGiven) ?_
    rintro enum decl given built ⟨_, inNames, isRecorded⟩
    obtain ⟨symbol, found, rfl⟩ := buildEnum_eq_ok built
    have named : given ∈ (Symbol.atSite (context.file.siteAt path scope) enums messages).names :=
      names_eq ▸ List.mem_append_left _ inNames
    exact congrArg some (declaredName_eq settled site isRecorded rfl named found)
  have classNames_eq : classes.map (fun made => made.1.name) = messageNames.map id :=
    map_eq_map_of_forall₂ madeFor messagesGiven fun message made given isMade isGiven =>
      name_of_given message made.1 made.2 given isMade isGiven
  have ownNames_eq : decls.filterMap Declaration.ownName? = enumNames := by
    have through := congrArg (List.filterMap id) enumNames_eq
    simpa [List.filterMap_map, Function.comp_def] using through
  rw [ownNames_eq, classNames_eq, names_eq, List.map_id]

namespace ScopeMade

variable {decls : List Declaration} {classes : List (MessageClass × List Declaration)}

/-- The names declared at a site are those that it gives. -/
theorem ownNames (scopeMade : ScopeMade context start finish path scope enums messages body decls classes) :
    body.filterMap Declaration.ownName? =
      (Symbol.atSite (context.file.siteAt path scope) enums messages).names := by
  have classNames : (classes.flatMap fun made => withNested made.1 made.2).filterMap Declaration.ownName? =
      classes.map fun made => made.1.name := by
    rw [List.filterMap_flatMap, List.map_eq_flatMap]
    simp only [withNested_ownNames]
  rw [scopeMade.body_eq, List.filterMap_append, classNames, scopeMade.names_eq]

/-- The enumerations among the declarations are those of the scope. -/
theorem filter_isEnumeration
    (scopeMade : ScopeMade context start finish path scope enums messages body decls classes) :
    body.filter Declaration.isEnumeration = decls := by
  have all : decls.filter Declaration.isEnumeration = decls :=
    List.filter_eq_self.mpr (enumerations_of_ok scopeMade.enumerations)
  have none : (classes.flatMap fun made => withNested made.1 made.2).filter
      Declaration.isEnumeration = [] := by
    rw [List.filter_flatMap]
    simp only [withNested_enumerations, List.flatMap_eq_nil_iff, implies_true]
  rw [scopeMade.body_eq, List.filter_append, all, none, List.append_nil]

theorem classNames_nodup
    (scopeMade : ScopeMade context start finish path scope enums messages body decls classes) :
    (classes.map fun made => made.1.name).Nodup := by
  have distinct := Symbol.atSite_names_nodup (context.file.siteAt path scope) enums messages
  rw [← scopeMade.names_eq] at distinct
  exact distinct.of_append_right

theorem className_plain
    (scopeMade : ScopeMade context start finish path scope enums messages body decls classes)
    (settled : context.Settled files) (site : context.file.HasSite path scope enums messages)
    {made : MessageClass × List Declaration} (member : made ∈ classes) : Text.IsPlain made.1.name := by
  apply site.name_plain settled.plain
  rw [← scopeMade.names_eq]
  exact List.mem_append_right _ (List.mem_map.mpr ⟨made, member, rfl⟩)

/-- Under a name stands what is nested in the class of that name. -/
theorem opened (scopeMade : ScopeMade context start finish path scope enums messages body decls classes)
    (settled : context.Settled files) (site : context.file.HasSite path scope enums messages)
    (name : String) :
    body.flatMap (Declaration.opened name) =
      classes.flatMap fun made => if made.1.name = name then made.2 else [] := by
  -- Enumerations open under no name, and each class under its own only.
  have noEnums : decls.flatMap (Declaration.opened name) = [] := by
    rw [List.flatMap_eq_nil_iff]
    intro decl member
    obtain ⟨enum, _, built⟩ := exists_left_of_forall₂ scopeMade.enumerations member
    obtain ⟨symbol, _, rfl⟩ := buildEnum_eq_ok built
    rfl
  rw [scopeMade.body_eq, List.flatMap_append, noEnums, List.nil_append, List.flatMap_assoc]
  exact List.flatMap_congr fun made member =>
    withNested_opened (scopeMade.className_plain settled site member) made.2 name

/-- A message of the scope has its class, and what is nested in it stands under its name. -/
theorem class_of_message
    (scopeMade : ScopeMade context start finish path scope enums messages body decls classes)
    (settled : context.Settled files) (site : context.file.HasSite path scope enums messages)
    {message : Message} (member : message ∈ messages) (declared : message.mapEntry = false)
    {given : String}
    (isGiven : Symbol.IsGiven (context.file.siteAt path scope) enums messages message given) :
    ∃ decl nested, MadeFor context start finish scope message decl nested ∧ decl.name = given ∧
      withNested decl nested ⊆ body ∧ body.flatMap (Declaration.opened given) = nested := by
  obtain ⟨⟨decl, nested⟩, inClasses, isMade⟩ := exists_right_of_forall₂ scopeMade.made
    (List.mem_filter.mpr ⟨member, by simp [declared]⟩)
  have sameName : decl.name = given :=
    scopeMade.name_of_given message decl nested given isMade isGiven
  refine ⟨decl, nested, isMade, sameName, ?_, ?_⟩
  · rw [scopeMade.body_eq]
    intro inner inPart
    exact List.mem_append_right _ (List.mem_flatMap.mpr ⟨(decl, nested), inClasses, inPart⟩)
  · rw [scopeMade.opened settled site, ← sameName]
    have single := filter_key_eq_singleton scopeMade.classNames_nodup inClasses
    simpa [single] using flatMap_ite_eq (fun made => made.1.name = decl.name) Prod.snd classes

/-- Only messages of the scope open under their names. -/
theorem message_of_opened
    (scopeMade : ScopeMade context start finish path scope enums messages body decls classes)
    (settled : context.Settled files) (site : context.file.HasSite path scope enums messages)
    {name : String} (nonempty : body.flatMap (Declaration.opened name) ≠ []) :
    ∃ message ∈ messages, message.mapEntry = false ∧
      Symbol.IsGiven (context.file.siteAt path scope) enums messages message name := by
  rw [scopeMade.opened settled site] at nonempty
  obtain ⟨made, inClasses, notEmpty⟩ : ∃ made ∈ classes, made.1.name = name := by
    by_contra none
    apply nonempty
    rw [List.flatMap_eq_nil_iff]
    intro made inClasses
    rw [if_neg fun equal => none ⟨made, inClasses, equal⟩]
  obtain ⟨message, inFiltered, isMade⟩ := exists_left_of_forall₂ scopeMade.made inClasses
  have member := (List.mem_filter.mp inFiltered).1
  obtain ⟨given, isGiven⟩ := Symbol.atSite_message (context.file.siteAt path scope) enums member
    isMade.declared
  have sameName := scopeMade.name_of_given message made.1 made.2 given isMade isGiven
  exact ⟨message, member, isMade.declared, notEmpty ▸ sameName ▸ isGiven⟩

/-- Every class of the scope was made for one of its messages. -/
theorem madeFor_of_class
    (scopeMade : ScopeMade context start finish path scope enums messages body decls classes)
    {decl : MessageClass} (emitted : .messageClass decl ∈ body) :
    ∃ message ∈ messages, ∃ nested, MadeFor context start finish scope message decl nested := by
  rw [scopeMade.body_eq] at emitted
  rcases List.mem_append.mp emitted with inEnums | inClasses
  · cases enumerations_of_ok scopeMade.enumerations _ inEnums
  · obtain ⟨made, member, inPart⟩ := List.mem_flatMap.mp inClasses
    obtain ⟨message, inFiltered, isMade⟩ := exists_left_of_forall₂ scopeMade.made member
    exact ⟨message, (List.mem_filter.mp inFiltered).1, made.2, mem_withNested inPart ▸ isMade⟩

/-- Every type at a site has a declaration there, under its name. -/
theorem declaration_of_isAt
    (scopeMade : ScopeMade context start finish path scope enums messages body decls classes)
    (settled : context.Settled files) (site : context.file.HasSite path scope enums messages)
    {symbol : Symbol} {given : String}
    (isAt : Symbol.IsAt context.file path scope enums messages symbol given) :
    ∃ decl ∈ body, decl.ownName? = some given ∧
      DeclaredFor scope enums messages body symbol.fullName decl := by
  -- Enumerations are found by their position, messages by the name that the site gives.
  cases isAt with
  | @enumeration enum given member recorded named =>
    obtain ⟨position, isEnum⟩ := List.getElem?_of_mem member
    obtain ⟨decl, atPosition, built⟩ := getElem?_of_forall₂ scopeMade.enumerations isEnum
    have emitted : decl ∈ body := by
      rw [scopeMade.body_eq]
      exact List.mem_append_left _ (List.mem_of_getElem? atPosition)
    rw [← scopeMade.filter_isEnumeration] at atPosition
    refine ⟨decl, emitted, ?_, .enumeration isEnum atPosition⟩
    obtain ⟨symbol, found, rfl⟩ := buildEnum_eq_ok built
    exact congrArg some (declaredName_eq settled site recorded rfl named found)
  | @message message given member declared isGiven =>
    obtain ⟨decl, nested, isMade, sameName, inBody, _⟩ :=
      scopeMade.class_of_message settled site member declared isGiven
    have emitted := inBody (class_mem_withNested decl nested)
    exact ⟨.messageClass decl, emitted, congrArg some sameName,
      .messageClass member declared emitted isMade.fullName⟩

/-- A namespace at a site stands behind the class of its name. -/
theorem class_of_namespaced
    (scopeMade : ScopeMade context start finish path scope enums messages body decls classes)
    {given : String} {nested : List Declaration} (member : .namespaced given nested ∈ body) :
    ∃ made ∈ classes, .messageClass made.1 ∈ body ∧ made.1.name = given := by
  rw [scopeMade.body_eq] at member ⊢
  rcases List.mem_append.mp member with inEnums | inClasses
  · cases enumerations_of_ok scopeMade.enumerations _ inEnums
  · obtain ⟨made, isClass, inPart⟩ := List.mem_flatMap.mp inClasses
    refine ⟨made, isClass, ?_, (name_of_namespaced_mem inPart).symm⟩
    exact List.mem_append_right _
      (List.mem_flatMap.mpr ⟨made, isClass, class_mem_withNested made.1 made.2⟩)

/-- A name is visible at a site exactly if it is one of the names there. -/
theorem any_introduces
    (scopeMade : ScopeMade context start finish path scope enums messages body decls classes)
    (settled : context.Settled files) (site : context.file.HasSite path scope enums messages)
    (name : String) :
    body.any (Declaration.introduces name) = true ↔ name ∈ body.filterMap Declaration.ownName? := by
  rw [List.any_eq_true, List.mem_filterMap]
  -- The namespace of a class introduces the name that the class has anyway.
  constructor
  · rintro ⟨decl, member, introduced⟩
    cases decl with
    | namespaced given nested =>
      obtain ⟨made, isClass, emitted, rfl⟩ := scopeMade.class_of_namespaced member
      have plain := scopeMade.className_plain settled site isClass
      have isName : made.1.name = name := by
        have first : Text.firstSegment made.1.name = name := by
          simpa [Declaration.introduces] using introduced
        rw [← first, Text.firstSegment, plain.segments, List.headD_cons]
      exact ⟨.messageClass made.1, emitted, congrArg some isName⟩
    | _ => exact ⟨_, member, by simpa [Declaration.introduces] using introduced⟩
  · rintro ⟨decl, member, isNamed⟩
    refine ⟨decl, member, ?_⟩
    cases decl with
    | namespaced given nested => cases isNamed
    | _ => simpa [Declaration.introduces] using isNamed

end ScopeMade

end Scope

/-! ### All types of a file -/

section Types

variable {context : Context} {files : List File} {path : List String} {scope : String}
  {enums : List Enum} {messages : List Message} {types : List Declaration} {uses : RootUses}

theorem recorded_nil (context : Context) : Recorded context [] :=
  ⟨List.nodup_nil, by simp⟩

/-- What was built for a scope stands at its site. -/
theorem made_at (settled : context.Settled files)
    (built : (buildTypes context).run [] = (.ok types, uses))
    (site : context.file.HasSite path scope enums messages) :
    During (Grows context) [] uses (buildScope context scope enums messages) (inside types path) := by
  induction site with
  | top => exact ⟨[], uses, refl_of _ _, built, refl_of _ _⟩
  | @inside path scope enums messages message given outer member declared isGiven ih =>
    obtain ⟨decls, classes, scopeMade⟩ := exists_scopeMade settled (recorded_nil context) outer ih
    obtain ⟨decl, nested, isMade, _, _, opened⟩ :=
      scopeMade.class_of_message settled outer member declared isGiven
    rw [inside_concat, opened, ← isMade.fullName]
    exact isMade.nested

/-- At the path of every scope stands what was made for it. -/
theorem scopeMade_at (settled : context.Settled files)
    (built : (buildTypes context).run [] = (.ok types, uses))
    (site : context.file.HasSite path scope enums messages) :
    ∃ decls classes,
      ScopeMade context [] uses path scope enums messages (inside types path) decls classes :=
  exists_scopeMade settled (recorded_nil context) site (made_at settled built site)

/-- Wherever something is emitted there is a scope. -/
theorem site_of_inside (settled : context.Settled files)
    (built : (buildTypes context).run [] = (.ok types, uses)) {place : List String}
    (nonempty : inside types place ≠ []) :
    ∃ scope enums messages, context.file.HasSite place scope enums messages := by
  induction place using List.reverseRecOn with
  | nil => exact ⟨_, _, _, .top⟩
  | append_singleton place name ih =>
    rw [inside_concat] at nonempty
    -- What opens inside a place is emitted in it, so the induction goes from the place outwards.
    have outerNonempty : inside types place ≠ [] := by
      intro empty
      rw [empty] at nonempty
      exact nonempty rfl
    obtain ⟨scope, enums, messages, site⟩ := ih outerNonempty
    obtain ⟨decls, classes, scopeMade⟩ := scopeMade_at settled built site
    obtain ⟨message, member, declared, isGiven⟩ := scopeMade.message_of_opened settled site nonempty
    exact ⟨_, _, _, .inside site member declared isGiven⟩

/-- At the path of a scope stand the names that its site gives. -/
theorem ownNames_at (settled : context.Settled files)
    (built : (buildTypes context).run [] = (.ok types, uses))
    (site : context.file.HasSite path scope enums messages) :
    (inside types path).filterMap Declaration.ownName? =
      (Symbol.atSite (context.file.siteAt path scope) enums messages).names := by
  obtain ⟨decls, classes, scopeMade⟩ := scopeMade_at settled built site
  exact scopeMade.ownNames

/-- At no place are two types of one name. -/
theorem ownNames_nodup (settled : context.Settled files)
    (built : (buildTypes context).run [] = (.ok types, uses)) (place : List String) :
    ((inside types place).filterMap Declaration.ownName?).Nodup := by
  by_cases empty : inside types place = []
  · rw [empty]
    exact List.nodup_nil
  · obtain ⟨scope, enums, messages, site⟩ := site_of_inside settled built empty
    rw [ownNames_at settled built site]
    exact Symbol.atSite_names_nodup _ _ _

theorem any_introduces_at (settled : context.Settled files)
    (built : (buildTypes context).run [] = (.ok types, uses)) (place : List String) (name : String) :
    (inside types place).any (Declaration.introduces name) = true ↔
      name ∈ (inside types place).filterMap Declaration.ownName? := by
  by_cases empty : inside types place = []
  · simp [empty]
  · obtain ⟨scope, enums, messages, site⟩ := site_of_inside settled built empty
    obtain ⟨decls, classes, scopeMade⟩ := scopeMade_at settled built site
    exact scopeMade.any_introduces settled site name

/-- What is emitted for types is a type or a namespace. -/
theorem isBeside_of_mem (settled : context.Settled files)
    (built : (buildTypes context).run [] = (.ok types, uses)) {decl : Declaration}
    (member : decl ∈ types) : decl.isBeside = false := by
  obtain ⟨decls, classes, scopeMade⟩ := scopeMade_at settled built .top
  rw [inside] at scopeMade
  rw [scopeMade.body_eq] at member
  rcases List.mem_append.mp member with inEnums | inClasses
  · obtain ⟨enum, _, built⟩ := exists_left_of_forall₂ scopeMade.enumerations inEnums
    obtain ⟨symbol, _, rfl⟩ := buildEnum_eq_ok built
    rfl
  · obtain ⟨made, _, inPart⟩ := List.mem_flatMap.mp inClasses
    rw [withNested] at inPart
    split at inPart
    · rw [List.mem_singleton.mp inPart]
      rfl
    · rcases List.mem_cons.mp inPart with rfl | later
      · rfl
      · rw [List.mem_singleton.mp later]
        rfl

/-- A name is shadowed at a place exactly if a namespace around the place declares it. -/
theorem isShadowed_iff (settled : context.Settled files)
    (built : (buildTypes context).run [] = (.ok types, uses))
    (site : context.file.HasSite path scope enums messages) (name : String) :
    context.isShadowed name scope = true ↔
      ∃ around ∈ Text.initials path, name ∈ (inside types around).filterMap Declaration.ownName? := by
  induction site with
  | top => simp [Context.isShadowed, Context.enclosingMessages_top, Text.initials]
  | @inside path scope enums messages message given outer member declared isGiven ih =>
    have plain := (outer.hasScope.plain settled.plain).message member
    have inner : context.file.HasSite (path ++ [given]) (fullName scope message.name)
        message.nestedEnums message.nestedMessages := .inside outer member declared isGiven
    -- The names that the table records for a message are those emitted in its namespace.
    have children : context.symbols.children (fullName scope message.name) =
        (inside types (path ++ [given])).filterMap Declaration.ownName? := by
      rw [ownNames_at settled built inner, ← outer.inside_eq settled.plain, settled.table]
      exact SymbolTable.children_of_mem settled.named settled.member
        (outer.recorded settled.plain isGiven.recorded) rfl
    have split : context.isShadowed name (fullName scope message.name) = true ↔
        name ∈ context.symbols.children (fullName scope message.name) ∨
          context.isShadowed name scope = true := by
      simp [Context.isShadowed, Context.enclosingMessages_inside outer.hasScope plain]
    rw [split, ih, children, Text.initials_append_singleton]
    simp only [List.mem_cons, exists_eq_or_imp]

/-- Every emitted class is the class of a message, and its members have the types of the fields. -/
theorem members_spelled (settled : context.Settled files)
    (built : (buildTypes context).run [] = (.ok types, uses)) {place : List String} {decl : MessageClass}
    (emitted : .messageClass decl ∈ inside types place) :
    ∃ scope enums messages message, context.file.HasSite place scope enums messages ∧
      message ∈ messages ∧ message.mapEntry = false ∧ decl.fullName = fullName scope message.name ∧
      List.Forall₂ (EachPart (FieldSpells context scope uses)) message.fields decl.members := by
  obtain ⟨scope, enums, messages, site⟩ := site_of_inside settled built (List.ne_nil_of_mem emitted)
  obtain ⟨decls, classes, scopeMade⟩ := scopeMade_at settled built site
  obtain ⟨message, member, nested, isMade⟩ := scopeMade.madeFor_of_class emitted
  exact ⟨scope, enums, messages, message, site, member, isMade.declared, isMade.fullName, isMade.members⟩

end Types

/-! ### Bodies of files -/

/-- A scope of a schema and the declarations that a body holds for it. -/
inductive HasBody (file : File) (body : List Declaration) :
    List String → String → List Enum → List Message → List Declaration → Prop where
  | top : HasBody file body [] file.scope file.enums file.messages body
  | inside {place : List String} {scope : String} {enums : List Enum} {messages : List Message}
      {around nested : List Declaration} {message : Message} {decl : MessageClass}
      (outer : HasBody file body place scope enums messages around) (member : message ∈ messages)
      (declared : message.mapEntry = false) (emitted : .messageClass decl ∈ around)
      (isFor : decl.fullName = fullName scope message.name)
      (opens : .namespaced decl.name nested ∈ around) :
      HasBody file body (place ++ [decl.name]) (fullName scope message.name) message.nestedEnums
        message.nestedMessages nested

/-- A declaration at a place of a body was emitted for the type of a full name. -/
def EmittedFor (file : File) (body : List Declaration) (full : String) (place : List String)
    (decl : Declaration) : Prop :=
  ∃ scope enums messages nested, HasBody file body place scope enums messages nested ∧
    DeclaredFor scope enums messages nested full decl

theorem Declaration.isEnumeration_of_isBeside {decl : Declaration} (isBeside : decl.isBeside = true) :
    decl.isEnumeration = false := by
  cases decl <;> simp_all [Declaration.isBeside, Declaration.isEnumeration]

/-- Declarations beside the types of a file, under other names. -/
structure Beside (types others : List Declaration) : Prop where
  noTypes : ∀ decl ∈ others, decl.isBeside = true
  apart : ∀ name ∈ others.filterMap Declaration.ownName?, ∀ place,
    name ∉ (inside types place).filterMap Declaration.ownName?

namespace Beside

variable {types others : List Declaration}

/-- Only the top of a body shows more than the types. -/
theorem inside_below (beside : Beside types others) {place : List String} (below : place ≠ []) :
    inside (types ++ others) place = inside types place := by
  have flat : ∀ decl ∈ others, decl.ownName?.isSome = true := fun decl member =>
    Declaration.ownName?_of_isBeside (beside.noTypes decl member)
  rw [append_inside, inside_eq_nil flat below, List.append_nil]

theorem subset_inside (types others : List Declaration) (place : List String) :
    inside types place ⊆ inside (types ++ others) place := by
  rw [append_inside]
  exact List.subset_append_left _ _

/-- A class stands among the types, never beside them. -/
theorem class_mem (beside : Beside types others) {place : List String} {decl : MessageClass}
    (emitted : .messageClass decl ∈ inside (types ++ others) place) :
    .messageClass decl ∈ inside types place := by
  by_cases top : place = []
  · subst top
    rcases List.mem_append.mp emitted with inTypes | inOthers
    · exact inTypes
    · cases beside.noTypes _ inOthers
  · rwa [beside.inside_below top] at emitted

theorem declaredFor {scope full : String} {enums : List Enum} {messages : List Message}
    {place : List String} {decl : Declaration} (beside : Beside types others)
    (isFor : DeclaredFor scope enums messages (inside types place) full decl) :
    DeclaredFor scope enums messages (inside (types ++ others) place) full decl := by
  cases isFor with
  | enumeration isEnum atPosition =>
    refine .enumeration isEnum ?_
    by_cases top : place = []
    · subst top
      have none : others.filter Declaration.isEnumeration = [] := by
        rw [List.filter_eq_nil_iff]
        intro other member
        simp [Declaration.isEnumeration_of_isBeside (beside.noTypes other member)]
      rw [inside, List.filter_append, none, List.append_nil]
      exact atPosition
    · rwa [beside.inside_below top]
  | messageClass member declared emitted isFor =>
    exact .messageClass member declared (subset_inside types others place emitted) isFor

/-- A type is the only declaration of its name at its place. -/
theorem named_type (beside : Beside types others) {place : List String}
    (distinct : ((inside types place).filterMap Declaration.ownName?).Nodup) {decl : Declaration}
    {name : String} (member : decl ∈ inside types place) (isNamed : decl.ownName? = some name) :
    named (inside (types ++ others) place) name = [decl] := by
  have isName : name ∈ (inside types place).filterMap Declaration.ownName? :=
    List.mem_filterMap.mpr ⟨decl, member, isNamed⟩
  by_cases top : place = []
  · subst top
    have none : named others name = [] := named_eq_nil fun inOthers => beside.apart name inOthers [] isName
    rw [inside, named_append, none, List.append_nil]
    exact named_eq_singleton distinct member isNamed
  · rw [beside.inside_below top]
    exact named_eq_singleton distinct member isNamed

/-- A name beside the types stands for nothing else. -/
theorem named_other (beside : Beside types others) {name : String}
    (isName : name ∈ others.filterMap Declaration.ownName?) :
    named (types ++ others) name = named others name := by
  have none : named types name = [] := named_eq_nil (beside.apart name isName [])
  rw [named_append, none, List.nil_append]

variable {context : Context} {files : List File} {path : List String} {scope : String}
  {enums : List Enum} {messages : List Message} {uses : RootUses}

/-- The declarations at the site of a scope are those that the body holds for it. -/
theorem hasBody (beside : Beside types others) (settled : context.Settled files)
    (built : (buildTypes context).run [] = (.ok types, uses))
    (site : context.file.HasSite path scope enums messages) (nonempty : inside types path ≠ []) :
    HasBody context.file (types ++ others) path scope enums messages (inside (types ++ others) path) := by
  induction site with
  | top => exact .top
  | @inside path scope enums messages message given outer member declared isGiven ih =>
    obtain ⟨decls, classes, scopeMade⟩ := scopeMade_at settled built outer
    obtain ⟨decl, nested, isMade, sameName, inBody, opened⟩ :=
      scopeMade.class_of_message settled outer member declared isGiven
    -- Below the top there are only types; the namespace of a message stands next to its class.
    rw [beside.inside_below (by simp), inside_concat, opened]
    rw [inside_concat, opened] at nonempty
    have outerNonempty : inside types path ≠ [] :=
      List.ne_nil_of_mem (inBody (class_mem_withNested decl nested))
    have opens : .namespaced decl.name nested ∈ withNested decl nested := by
      simp [withNested, nonempty]
    rw [← sameName]
    exact .inside (ih outerNonempty) member declared
      (subset_inside types others path (inBody (class_mem_withNested decl nested))) isMade.fullName
      (subset_inside types others path (inBody opens))

/-- Every type that is no map entry is emitted at the end of the path of its symbol, and nothing else
there has its name. -/
theorem emitted (beside : Beside types others) (settled : context.Settled files)
    (built : (buildTypes context).run [] = (.ok types, uses)) {symbol : Symbol}
    (found : symbol ∈ Symbol.ofFile context.file) (declared : symbol.isMapEntry = false) :
    ∃ place given decl, symbol.localPath = Text.joinDots (place ++ [given]) ∧
      (∀ part ∈ place ++ [given], Text.IsPlain part) ∧
      (place ++ [given]).headD "" ∈ types.filterMap Declaration.ownName? ∧
      named (inside (types ++ others) place) given = [decl] ∧
      EmittedFor context.file (types ++ others) symbol.fullName place decl := by
  obtain ⟨path, scope, enums, messages, given, site, isAt⟩ :=
    Symbol.exists_site settled.plain found declared
  obtain ⟨decls, classes, scopeMade⟩ := scopeMade_at settled built site
  obtain ⟨decl, member, isNamed, isFor⟩ := scopeMade.declaration_of_isAt settled site isAt
  refine ⟨path, given, decl, isAt.localPath_eq site settled.plain,
    isAt.path_plain site settled.plain, ?_, ?_, ?_⟩
  · have atTop := ownNames_at settled built .top
    rw [inside] at atTop
    rw [atTop]
    exact site.head_mem isAt.named
  · exact beside.named_type (ownNames_nodup settled built path) member isNamed
  · exact ⟨scope, enums, messages, _,
      beside.hasBody settled built site (List.ne_nil_of_mem member), beside.declaredFor isFor⟩

end Beside

end Typewire.Code
