import Mathlib.Data.List.Flatten
import Mathlib.Data.List.Induction
import Typewire.Proofs.NameRequests
import Typewire.Proofs.SymbolTables

/-!
# Names given to the types of a scope

The types that a scope declares have different names in the schema. They are given names in the generated
code in the order of declaration, each the first one that is still free, so that types and given names
correspond one to one. Going down from the top of a file, the given names on a path therefore lead to one
scope only.
-/
namespace Typewire

open Schema (Enum File Message fullName)

/-! ### Types of a scope -/

namespace Schema

/-- The names of the types that a scope declares. Nothing is declared for map entries. -/
def declaredTypes (enums : List Enum) (messages : List Message) : List String :=
  enums.map Enum.name ++ (messages.filter fun message => !message.mapEntry).map Message.name

theorem fullName_injective {scope name other : String} (same : fullName scope name = fullName scope other) :
    name = other := by
  rw [fullName, fullName] at same
  exact String.append_right_inj _ |>.mp same

/-- A full name with a plain last part tells its scope and that part. -/
theorem fullName_inj {scope scope' name name' : String} (plain : Text.IsPlain name)
    (plain' : Text.IsPlain name') (same : fullName scope name = fullName scope' name') :
    scope = scope' ∧ name = name' := by
  have parts := congrArg Text.segments same
  rw [fullName, fullName, Text.segments_append_dot, Text.segments_append_dot, plain.segments,
    plain'.segments] at parts
  obtain ⟨sameScope, sameName⟩ := List.append_inj' parts rfl
  refine ⟨?_, by simpa using sameName⟩
  rw [← Text.joinDots_segments scope, sameScope, Text.joinDots_segments]

theorem mem_scopeTypeNames (scope : String) {enums : List Enum} {messages : List Message} {type : String}
    (declared : type ∈ declaredTypes enums messages) :
    ⟨scope, type⟩ ∈ scopeTypeNames scope enums messages := by
  rcases List.mem_append.mp declared with inEnums | inMessages
  · obtain ⟨enum, member, rfl⟩ := List.mem_map.mp inEnums
    exact enum_mem_scopeTypeNames scope messages member
  · obtain ⟨message, among, rfl⟩ := List.mem_map.mp inMessages
    apply message_subset_scopeTypeNames scope enums (List.mem_filter.mp among).1
    rw [Message.typeNames_eq]
    exact List.mem_cons_self

namespace File.HasScope

variable {file : File} {scope : String} {enums : List Enum} {messages : List Message}

/-- The types of a scope are types of the file, in the same order. -/
theorem typeNames_sublist (has : file.HasScope scope enums messages) :
    (scopeTypeNames scope enums messages).Sublist file.typeNames := by
  induction has with
  | top => exact List.Sublist.refl _
  | @inside scope enums messages message outer member declared ih =>
    refine List.Sublist.trans ?_ ih
    -- What a message declares comes right after the message itself.
    have inMessage : (scopeTypeNames (fullName scope message.name) message.nestedEnums
        message.nestedMessages).Sublist (message.typeNames scope) := by
      rw [Message.typeNames_eq]
      exact List.sublist_cons_self _ _
    have inScope : (message.typeNames scope).Sublist (Message.allTypeNames scope messages) := by
      rw [Message.allTypeNames_eq_flatMap, List.flatMap_def]
      exact List.sublist_flatten_of_mem (List.mem_map_of_mem member)
    exact (inMessage.trans inScope).trans (List.sublist_append_right _ _)

/-- The types of one scope have different names. -/
theorem names_nodup (has : file.HasScope scope enums messages) (distinct : file.fullNames.Nodup) :
    (enums.map Enum.name ++ messages.map Message.name).Nodup := by
  have siblings : ((enums.map Enum.name ++ messages.map Message.name).map (fullName scope)).Sublist
      ((scopeTypeNames scope enums messages).map TypeName.full) := by
    have classes : (messages.map fun message => (⟨scope, message.name⟩ : TypeName)).Sublist
        (Message.allTypeNames scope messages) := by
      rw [Message.allTypeNames_eq_flatMap, List.map_eq_flatMap]
      refine List.Sublist.flatMap_right messages fun message _ => ?_
      rw [Message.typeNames_eq]
      exact List.Sublist.cons_cons _ (List.nil_sublist _)
    have all := ((List.Sublist.refl (Enum.typeNames scope enums)).append classes).map TypeName.full
    simpa [Enum.typeNames, TypeName.full, Function.comp_def, scopeTypeNames] using all
  have fullNames := (has.typeNames_sublist.map TypeName.full).nodup distinct
  exact List.Nodup.of_map _ (siblings.nodup fullNames)

theorem declaredTypes_nodup (has : file.HasScope scope enums messages) (distinct : file.fullNames.Nodup) :
    (declaredTypes enums messages).Nodup :=
  ((List.Sublist.refl _).append (List.filter_sublist.map _)).nodup (has.names_nodup distinct)

theorem message_eq (has : file.HasScope scope enums messages) (distinct : file.fullNames.Nodup)
    {first second : Message} (firstMember : first ∈ messages) (secondMember : second ∈ messages)
    (same : first.name = second.name) : first = second :=
  List.inj_on_of_nodup_map (has.names_nodup distinct).of_append_right firstMember secondMember same

end File.HasScope

end Schema

/-! ### Claiming one name after the other -/

namespace NamePool

variable {pool : NamePool}

theorem claimAll_cons (pool : NamePool) (name : String) (names : List String) :
    pool.claimAll (name :: names) = ((pool.claim name).1 :: ((pool.claim name).2.claimAll names).1,
      ((pool.claim name).2.claimAll names).2) := rfl

theorem claimAll_append (pool : NamePool) (first second : List String) :
    pool.claimAll (first ++ second) =
      ((pool.claimAll first).1 ++ ((pool.claimAll first).2.claimAll second).1,
        ((pool.claimAll first).2.claimAll second).2) := by
  induction first generalizing pool with
  | nil => rfl
  | cons name first ih => rw [List.cons_append, claimAll_cons, ih, claimAll_cons, List.cons_append]

/-- Legal names that are free and distinct are given as they are. -/
theorem claimAll_eq_self {names : List String} (distinct : names.Nodup)
    (legal : ∀ name ∈ names, Name.isLegal name = true) (free : ∀ name ∈ names, name ∉ pool.taken) :
    (pool.claimAll names).1 = names := by
  induction names generalizing pool with
  | nil => rfl
  | cons name names ih =>
    obtain ⟨absent, distinct⟩ := List.nodup_cons.mp distinct
    have unchanged : Name.legalize name = name :=
      Name.legalize_of_isLegal (legal name List.mem_cons_self)
    have given := claim_of_free (unchanged.symm ▸ free name List.mem_cons_self)
    rw [unchanged] at given
    rw [claimAll_cons, given]
    refine congrArg (name :: ·) (ih distinct ?_ ?_)
    · exact fun other member => legal other (List.mem_cons_of_mem _ member)
    · intro other member taken
      -- Only the name just given is new among those taken.
      rcases List.mem_cons.mp taken with rfl | before
      · exact absent member
      · exact free other (List.mem_cons_of_mem _ member) before

end NamePool

namespace Symbol

/-- The enumerations of a scope claim their names one after the other. -/
theorem ofEnums_eq_claimAll (site : Site) (pool : NamePool) (enums : List Enum) :
    ((ofEnums site pool enums).names, (ofEnums site pool enums).pool) =
      pool.claimAll (enums.map Enum.name) := by
  induction enums generalizing pool with
  | nil => rfl
  | cons enum enums ih => rw [ofEnums_cons, List.map_cons, NamePool.claimAll_cons, ← ih]

/-- The messages of a scope claim their names one after the other, map entries left out. -/
theorem ofMessages_eq_claimAll (site : Site) (pool : NamePool) (messages : List Message) :
    ((ofMessages site pool messages).names, (ofMessages site pool messages).pool) =
      pool.claimAll ((messages.filter fun message => !message.mapEntry).map Message.name) := by
  induction messages generalizing pool with
  | nil => rfl
  | cons message messages ih =>
    rw [ofMessages_cons]
    cases entry : message.mapEntry with
    | true =>
      rw [ofMessage_of_entry entry, List.filter_cons_of_neg (by simp [entry]), ← ih, List.nil_append]
    | false =>
      rw [ofMessage_of_declared entry, List.filter_cons_of_pos (by simp [entry]), List.map_cons,
        NamePool.claimAll_cons, ← ih]
      rfl

/-- The names given at a site are those that an empty pool has for its types. -/
theorem atSite_names_eq (site : Site) (enums : List Enum) (messages : List Message) :
    (atSite site enums messages).names =
      (({} : NamePool).claimAll (Schema.declaredTypes enums messages)).1 := by
  rw [Schema.declaredTypes, NamePool.claimAll_append, ← ofEnums_eq_claimAll site,
    ← ofMessages_eq_claimAll site]
  rfl

/-! ### Types and their names -/

/-- A type of a scope was given a name: it is declared at the site under that name. -/
def IsGivenTo (file : File) (path : List String) (scope : String) (enums : List Enum)
    (messages : List Message) (type given : String) : Prop :=
  ∃ symbol, IsAt file path scope enums messages symbol given ∧
    symbol.fullName = Schema.fullName scope type

/-- The names of a site are given to its types in the order of declaration. -/
theorem atSite_isGivenTo (file : File) (path : List String) (scope : String) (enums : List Enum)
    (messages : List Message) :
    List.Forall₂ (IsGivenTo file path scope enums messages) (Schema.declaredTypes enums messages)
      (atSite (file.siteAt path scope) enums messages).names := by
  obtain ⟨enumNames, messageNames, names_eq, enumsGiven, messagesGiven⟩ :=
    atSite_given (file.siteAt path scope) enums messages
  rw [names_eq, Schema.declaredTypes]
  refine List.rel_append ?_ ?_
  · rw [List.forall₂_map_left_iff]
    refine (forall₂_mem enumsGiven).imp ?_
    rintro enum given ⟨member, inNames, recorded⟩
    have named : given ∈ (atSite (file.siteAt path scope) enums messages).names :=
      names_eq ▸ List.mem_append_left _ inNames
    exact ⟨_, .enumeration member recorded named, rfl⟩
  · rw [List.forall₂_map_left_iff]
    refine (forall₂_mem messagesGiven).imp ?_
    rintro message given ⟨among, _, isGiven⟩
    obtain ⟨member, declared⟩ := List.mem_filter.mp among
    exact ⟨_, .message member (by simpa using declared) isGiven, rfl⟩

variable {file : File} {path : List String} {scope : String} {enums : List Enum} {messages : List Message}
  {symbol : Symbol} {given type : String}

theorem IsAt.exists_type (isAt : IsAt file path scope enums messages symbol given) :
    ∃ type ∈ Schema.declaredTypes enums messages, symbol.fullName = Schema.fullName scope type := by
  cases isAt with
  | @enumeration enum given member recorded named =>
    exact ⟨enum.name, List.mem_append_left _ (List.mem_map_of_mem member), rfl⟩
  | @message message given member declared isGiven =>
    refine ⟨message.name, List.mem_append_right _ (List.mem_map_of_mem ?_), rfl⟩
    exact List.mem_filter.mpr ⟨member, by simp [declared]⟩

theorem IsAt.recorded (isAt : IsAt file path scope enums messages symbol given) :
    symbol ∈ (atSite (file.siteAt path scope) enums messages).symbols := by
  cases isAt with
  | enumeration member recorded named => exact recorded
  | message member declared isGiven => exact isGiven.recorded

theorem IsAt.isMapEntry_eq (isAt : IsAt file path scope enums messages symbol given) :
    symbol.isMapEntry = false := by
  cases isAt <;> rfl

section Unique

variable (site : file.HasSite path scope enums messages) (distinct : file.fullNames.Nodup)
  (plain : ∀ type ∈ file.typeNames, Text.IsPlain type.name)

include site distinct plain

theorem IsGivenTo.unique {other : String} (isGiven : IsGivenTo file path scope enums messages type given)
    (isOther : IsGivenTo file path scope enums messages type other) : given = other := by
  obtain ⟨symbol, isAt, isType⟩ := isGiven
  obtain ⟨symbol', isAt', isType'⟩ := isOther
  obtain rfl : symbol = symbol' := Symbol.eq_of_fullName_eq distinct (site.recorded plain isAt.recorded)
    (site.recorded plain isAt'.recorded) (isType.trans isType'.symm)
  -- It is one symbol, so both names are the last part of its path.
  have same := (isAt.segments_localPath site plain).symm.trans (isAt'.segments_localPath site plain)
  simpa using same

/-- A name is given to one type only. -/
theorem IsAt.symbol_eq {other : Symbol} (isAt : IsAt file path scope enums messages symbol given)
    (isOther : IsAt file path scope enums messages other given) : symbol = other := by
  obtain ⟨type, declared, isType⟩ := isAt.exists_type
  obtain ⟨type', declared', isType'⟩ := isOther.exists_type
  have sameType : type = type' :=
    eq_of_forall₂ (atSite_isGivenTo file path scope enums messages)
      (atSite_names_nodup (file.siteAt path scope) enums messages)
      (fun _ _ _ isGiven isOther => isGiven.unique site distinct plain isOther)
      declared declared' ⟨symbol, isAt, isType⟩ ⟨other, isOther, isType'⟩
  exact Symbol.eq_of_fullName_eq distinct (site.recorded plain isAt.recorded)
    (site.recorded plain isOther.recorded) (by rw [isType, isType', sameType])

/-- A type with a legal name keeps it, if the names of its file are all legal. -/
theorem IsGivenTo.eq_of_legal (legal : ∀ type ∈ file.typeNames, Name.isLegal type.name = true)
    (isGiven : IsGivenTo file path scope enums messages type given) : given = type := by
  have has := site.hasScope
  have legalHere : ∀ name ∈ Schema.declaredTypes enums messages, Name.isLegal name = true :=
    fun name declared => legal _ (has.typeNames_sublist.subset (Schema.mem_scopeTypeNames scope declared))
  have kept : (atSite (file.siteAt path scope) enums messages).names =
      Schema.declaredTypes enums messages := by
    rw [atSite_names_eq]
    exact NamePool.claimAll_eq_self (has.declaredTypes_nodup distinct) legalHere
      fun _ _ taken => List.not_mem_nil taken
  -- The list of types is related to itself, so each type has its own name.
  have each := atSite_isGivenTo file path scope enums messages
  rw [kept, List.forall₂_same] at each
  obtain ⟨symbol, isAt, isType⟩ := isGiven
  obtain ⟨type', declared, isType'⟩ := isAt.exists_type
  obtain rfl : type = type' := Schema.fullName_injective (isType.symm.trans isType')
  exact IsGivenTo.unique site distinct plain ⟨symbol, isAt, isType⟩ (each type declared)

end Unique

end Symbol

/-! ### Sites and their paths -/

namespace Schema.File

variable {file : File} {path : List String} {scope scope' : String} {enums enums' : List Enum}
  {messages messages' : List Message} {given : String}

theorem HasSite.of_nil (site : file.HasSite [] scope enums messages) :
    scope = file.scope ∧ enums = file.enums ∧ messages = file.messages := by
  generalize isPath : ([] : List String) = path at site
  cases site with
  | top => exact ⟨rfl, rfl, rfl⟩
  | inside => simp at isPath

/-- A scope below the top is the inside of a message of the scope around it. -/
theorem HasSite.of_concat (site : file.HasSite (path ++ [given]) scope enums messages) :
    ∃ outerScope outerEnums outerMessages message,
      file.HasSite path outerScope outerEnums outerMessages ∧ message ∈ outerMessages ∧
      message.mapEntry = false ∧
      Symbol.IsGiven (file.siteAt path outerScope) outerEnums outerMessages message given ∧
      scope = fullName outerScope message.name ∧ enums = message.nestedEnums ∧
      messages = message.nestedMessages := by
  generalize isPath : path ++ [given] = whole at site
  cases site with
  | top => simp at isPath
  | @inside path' scope' enums' messages' message given' outer member declared isGiven =>
    obtain ⟨rfl, last⟩ := List.append_inj' isPath rfl
    obtain rfl : given = given' := by simpa using last
    exact ⟨scope', enums', messages', message, outer, member, declared, isGiven, rfl, rfl, rfl⟩

/-- A path leads to one scope. -/
theorem HasSite.unique (distinct : file.fullNames.Nodup)
    (plain : ∀ type ∈ file.typeNames, Text.IsPlain type.name)
    (site : file.HasSite path scope enums messages) (site' : file.HasSite path scope' enums' messages') :
    scope = scope' ∧ enums = enums' ∧ messages = messages' := by
  induction path using List.reverseRecOn generalizing scope scope' enums enums' messages messages' with
  | nil =>
    obtain ⟨rfl, rfl, rfl⟩ := site.of_nil
    obtain ⟨rfl, rfl, rfl⟩ := site'.of_nil
    exact ⟨rfl, rfl, rfl⟩
  | append_singleton path given ih =>
    obtain ⟨_, _, _, message, outer, member, declared, isGiven, rfl, rfl, rfl⟩ := site.of_concat
    obtain ⟨_, _, _, message', outer', member', declared', isGiven', rfl, rfl, rfl⟩ := site'.of_concat
    obtain ⟨rfl, rfl, rfl⟩ := ih outer outer'
    -- The scopes around are the same, and there one message has the last name of the path.
    have sameSymbol := Symbol.IsAt.symbol_eq outer distinct plain (.message member declared isGiven)
      (.message member' declared' isGiven')
    obtain rfl := outer.hasScope.message_eq distinct member member'
      (fullName_injective (congrArg Symbol.fullName sameSymbol))
    exact ⟨rfl, rfl, rfl⟩

/-- Below legal names only, the names on a path are those of the messages in the schema. -/
theorem HasSite.scope_eq (distinct : file.fullNames.Nodup)
    (plain : ∀ type ∈ file.typeNames, Text.IsPlain type.name)
    (legal : ∀ type ∈ file.typeNames, Name.isLegal type.name = true)
    (site : file.HasSite path scope enums messages) : scope = Text.joinDots (file.scope :: path) := by
  induction site with
  | top => exact (Text.joinDots_singleton _).symm
  | @inside path scope enums messages message given outer member declared isGiven ih =>
    obtain rfl : given = message.name := Symbol.IsGivenTo.eq_of_legal outer distinct plain legal
      ⟨_, .message member declared isGiven, rfl⟩
    rw [← List.cons_append, Text.joinDots_append (List.cons_ne_nil _ _) (List.cons_ne_nil _ _),
      Text.joinDots_singleton, ← ih, fullName]

end Schema.File

end Typewire
