import Typewire.Proofs.Emission
import Typewire.Proofs.GivenNames

/-!
# Local paths identify types

A type is declared in the generated code at the end of its local path. In the table of well-named files
the paths of a file are all different, the path of a nested type continues the path of the message around
it, and the names that the table lists for a place are the last parts of the paths that lead there. They
are also the names under which the types are built: a type is built under the name that its symbol ends in,
so two lists of names for the same types are equal. Map entries have no path and nothing is recorded inside
them.
-/
namespace Typewire

open Schema (Enum File Message WellNamed declaredTypes fullName)
open Code (Declaration buildEnum buildMessage buildScope buildTypes)

namespace SymbolTable

/-- A type is recorded for a file. -/
def Records (table : SymbolTable) (file : File) (symbol : Symbol) : Prop :=
  table.lookup? symbol.fullName = some symbol ∧ symbol.fileName = file.name

/-- A recorded type that is no map entry has a path, and the name is the last part of it. -/
def Calls (table : SymbolTable) (full name : String) : Prop :=
  ∃ symbol, table.lookup? full = some symbol ∧ symbol.isMapEntry = false ∧
    Text.lastSegment symbol.localPath = name

/-- The names are those of the types of a scope, in the order of declaration. -/
def CallsAll (table : SymbolTable) (scope : String) (enums : List Enum) (messages : List Message)
    (names : List String) : Prop :=
  List.Forall₂ (fun type name => table.Calls (fullName scope type) name) (declaredTypes enums messages)
    names

/-- No two types of a file have the same path. -/
def DistinctPaths (table : SymbolTable) (file : File) : Prop :=
  ∀ first second, table.Records file first → table.Records file second →
    first.isMapEntry = false → second.isMapEntry = false →
    first.localPath = second.localPath → first = second

/-- The path of a type inside a message is the path of the message and one more part. -/
def NestedPaths (table : SymbolTable) (file : File) : Prop :=
  ∀ full message, file.Declares full message → ∃ parent, table.lookup? full = some parent ∧
    ∀ type ∈ declaredTypes message.nestedEnums message.nestedMessages, ∃ child segment,
      table.lookup? (fullName full type) = some child ∧ Text.IsPlain segment ∧
        child.localPath = parent.localPath ++ "." ++ segment

/-- The names that the table lists for the places of a file. -/
structure ListsNames (table : SymbolTable) (file : File) : Prop where
  top : table.CallsAll file.scope file.enums file.messages (table.topLevel file.name)
  inside : ∀ full message, file.Declares full message →
    table.CallsAll full message.nestedEnums message.nestedMessages (table.children full)
  nested : ∀ name, name ∈ table.nested file.name ↔
    ∃ full message, file.Declares full message ∧ name ∈ table.children full
  entry : ∀ symbol, table.Records file symbol → symbol.isMapEntry = true →
    symbol.localPath = "" ∧ table.children symbol.fullName = [] ∧
      ∀ name, Text.IsPlain name → ∀ other, table.Records file other →
        other.fullName ≠ fullName symbol.fullName name

/-- The paths of the types of a file are their full names below the package. -/
def KeepsNames (table : SymbolTable) (file : File) : Prop :=
  ∀ symbol, table.Records file symbol → symbol.isMapEntry = false →
    symbol.fullName = fullName file.scope symbol.localPath

end SymbolTable

/-- The types of a file are built under the names that the table lists. -/
structure Context.BuildsListed (context : Context) (file : File) : Prop where
  enumeration : ∀ scope enums messages, file.HasScope scope enums messages → ∀ enum ∈ enums,
    ∃ decl name, buildEnum context scope enum = .ok decl ∧ decl.ownName? = some name ∧
      context.symbols.Calls (fullName scope enum.name) name
  message : ∀ scope enums messages, file.HasScope scope enums messages → ∀ message ∈ messages,
    message.mapEntry = false → ∀ before decls after,
      (buildMessage context scope message).run before = (.ok decls, after) →
      ∃ name, context.symbols.Calls (fullName scope message.name) name ∧
        decls.filterMap Declaration.ownName? = [name] ∧
        (Code.inside decls [name]).filterMap Declaration.ownName? =
          context.symbols.children (fullName scope message.name)
  top : context.file = file → ∀ before decls after,
    (buildTypes context).run before = (.ok decls, after) →
      decls.filterMap Declaration.ownName? = context.symbols.topLevel file.name

/-! ### Names of a site -/

theorem Schema.declaredTypes_append (enums : List Enum) (first second : List Message) :
    declaredTypes enums (first ++ second) = declaredTypes enums first ++ declaredTypes [] second := by
  simp [declaredTypes]

namespace SymbolTable

variable {table : SymbolTable}

theorem Calls.unique {full name other : String} (isName : table.Calls full name)
    (isOther : table.Calls full other) : name = other := by
  obtain ⟨symbol, found, _, rfl⟩ := isName
  obtain ⟨symbol', found', _, rfl⟩ := isOther
  rw [Option.some.inj (found.symm.trans found')]

/-- The names of the types of a scope are determined. -/
theorem CallsAll.unique {scope : String} {enums : List Enum} {messages : List Message}
    {names others : List String} (areNames : table.CallsAll scope enums messages names)
    (areOthers : table.CallsAll scope enums messages others) : names = others := by
  have determined : Relator.RightUnique fun type name => table.Calls (fullName scope type) name :=
    fun _ _ _ => Calls.unique
  exact determined.forall₂ areNames areOthers

theorem CallsAll.append {scope : String} {enums : List Enum} {messages others : List Message}
    {names otherNames : List String} (first : table.CallsAll scope enums messages names)
    (second : table.CallsAll scope [] others otherNames) :
    table.CallsAll scope enums (messages ++ others) (names ++ otherNames) := by
  rw [CallsAll, Schema.declaredTypes_append]
  exact List.rel_append first second

section WellNamed

variable {files : List File} {file : File} {path : List String} {scope : String} {enums : List Enum}
  {messages : List Message} (named : WellNamed files) (member : file ∈ files)

include named member

theorem Records.mem {symbol : Symbol} (records : (ofFiles files).Records file symbol) :
    symbol ∈ Symbol.ofFile file :=
  mem_of_fileName named member records.1 records.2

/-- A symbol of a site is found under its full name. -/
theorem lookup?_of_isAt (site : file.HasSite path scope enums messages) {symbol : Symbol} {given : String}
    (isAt : Symbol.IsAt file path scope enums messages symbol given) :
    (ofFiles files).lookup? symbol.fullName = some symbol :=
  lookup?_of_mem named member (site.recorded (named.plainNames file member) isAt.recorded)

theorem calls_of_isAt (site : file.HasSite path scope enums messages) {symbol : Symbol} {given : String}
    (isAt : Symbol.IsAt file path scope enums messages symbol given) :
    (ofFiles files).Calls symbol.fullName given := by
  refine ⟨symbol, lookup?_of_isAt named member site isAt, isAt.isMapEntry_eq, ?_⟩
  rw [Text.lastSegment, isAt.segments_localPath site (named.plainNames file member), List.getLastD_concat]

/-- The names given at a site are the last parts of the paths of its types. -/
theorem callsAll_at (site : file.HasSite path scope enums messages) :
    (ofFiles files).CallsAll scope enums messages
      (Symbol.atSite (file.siteAt path scope) enums messages).names := by
  refine (Symbol.atSite_isGivenTo file path scope enums messages).imp ?_
  rintro type given ⟨symbol, isAt, isType⟩
  exact isType ▸ calls_of_isAt named member site isAt

/-- The names listed for a message are those given at the site inside it. -/
theorem children_at (outer : file.HasSite path scope enums messages) {message : Message} {given : String}
    (isGiven : Symbol.IsGiven (file.siteAt path scope) enums messages message given) :
    (ofFiles files).children (fullName scope message.name) =
      (Symbol.atSite (file.siteAt (path ++ [given]) (fullName scope message.name)) message.nestedEnums
        message.nestedMessages).names := by
  have plain := named.plainNames file member
  rw [← outer.inside_eq plain]
  exact children_of_mem named member (outer.recorded plain isGiven.recorded) rfl

/-- The names inside a message are those that its types are called by, in order. -/
theorem callsAll_children (has : file.HasScope scope enums messages) {message : Message}
    (among : message ∈ messages) (declared : message.mapEntry = false) :
    (ofFiles files).CallsAll (fullName scope message.name) message.nestedEnums message.nestedMessages
      ((ofFiles files).children (fullName scope message.name)) := by
  obtain ⟨path, outer⟩ := has.exists_site
  obtain ⟨given, isGiven⟩ := Symbol.atSite_message (file.siteAt path scope) enums among declared
  rw [children_at named member outer isGiven]
  exact callsAll_at named member (.inside outer among declared isGiven)

/-- At the top of a file the path of a type is its name, so names are listed as paths there. -/
theorem callsAll_topLevel (noEntries : ∀ message ∈ file.messages, message.mapEntry = false) :
    (ofFiles files).CallsAll file.scope file.enums file.messages ((ofFiles files).topLevel file.name) := by
  -- Without entries the table looks up exactly the declared types.
  have all : declaredTypes file.enums file.messages =
      file.enums.map Enum.name ++ file.messages.map Message.name := by
    rw [declaredTypes, List.filter_eq_self.mpr fun message among => by simp [noEntries message among]]
  rw [topLevel_of_mem named member, FileSymbols.topLevel, CallsAll]
  change List.Forall₂ _ _ (List.filterMap _ (file.enums.map Enum.name ++ file.messages.map Message.name))
  rw [← all]
  refine forall₂_filterMap fun type declared => ?_
  obtain ⟨given, _, symbol, isAt, isType⟩ := exists_right_of_forall₂
    (Symbol.atSite_isGivenTo file [] file.scope file.enums file.messages) declared
  have plain := named.plainNames file member
  have found := FileSymbols.lookup?_of_mem (named.fullNames_nodup member)
    (File.HasSite.top.recorded plain isAt.recorded)
  have path : symbol.localPath = given := by
    rw [isAt.localPath_eq .top plain, List.nil_append, Text.joinDots_singleton]
  refine ⟨given, ?_, isType ▸ calls_of_isAt named member .top isAt⟩
  rw [isType] at found
  exact (congrArg (Option.map Symbol.localPath) found).trans (congrArg some path)

/-- A name is nested in a file exactly if one of its messages declares it. -/
theorem mem_nested_iff (name : String) :
    name ∈ (ofFiles files).nested file.name ↔
      ∃ full message, file.Declares full message ∧ name ∈ (ofFiles files).children full := by
  have plain := named.plainNames file member
  rw [nested_of_mem named member]
  constructor
  · intro listed
    obtain ⟨symbol, found, isChild⟩ := List.mem_flatMap.mp listed
    obtain ⟨path, scope, enums, messages, site, ⟨_, _, rfl⟩ | ⟨given, isAt⟩⟩ :=
      Symbol.site_cases plain found
    · simp [Symbol.children?, Symbol.ofEntry] at isChild
    · -- Of the types only messages have names inside.
      cases isAt with
      | enumeration => simp [Symbol.children?, Symbol.ofEnum] at isChild
      | @message message given among declared isGiven =>
        refine ⟨_, message, ⟨scope, enums, messages, site.hasScope, among, declared, rfl⟩, ?_⟩
        have children := children_of_mem named member found rfl
        exact children ▸ isChild
  · rintro ⟨full, message, ⟨scope, enums, messages, has, among, declared, rfl⟩, listed⟩
    obtain ⟨symbol, found, isFull, names, isMessage⟩ := has.message_symbol plain among declared
    rw [← isFull, children_of_mem named member found isMessage] at listed
    exact FileSymbols.mem_nested found isMessage listed

/-! ### Paths -/

theorem distinctPaths_of_wellNamed : (ofFiles files).DistinctPaths file := by
  intro first second records records' declared declared' same
  have distinct := named.fullNames_nodup member
  have plain := named.plainNames file member
  obtain ⟨path, scope, enums, messages, given, site, isAt⟩ :=
    Symbol.exists_site plain (records.mem named member) declared
  obtain ⟨path', scope', enums', messages', given', site', isAt'⟩ :=
    Symbol.exists_site plain (records'.mem named member) declared'
  have sameParts : path ++ [given] = path' ++ [given'] := by
    rw [← isAt.segments_localPath site plain, same, isAt'.segments_localPath site' plain]
  obtain ⟨rfl, sameLast⟩ := List.append_inj' sameParts rfl
  obtain rfl : given = given' := by simpa using sameLast
  -- The same path leads to the same scope, and there the same name to the same type.
  obtain ⟨rfl, rfl, rfl⟩ := site.unique distinct plain site'
  exact isAt.symbol_eq site distinct plain isAt'

theorem nestedPaths_of_wellNamed : (ofFiles files).NestedPaths file := by
  rintro full message ⟨scope, enums, messages, has, among, declared, rfl⟩
  have plain := named.plainNames file member
  obtain ⟨path, outer⟩ := has.exists_site
  obtain ⟨given, isGiven⟩ := Symbol.atSite_message (file.siteAt path scope) enums among declared
  have parentAt : Symbol.IsAt file path scope enums messages _ given := .message among declared isGiven
  have inner := File.HasSite.inside outer among declared isGiven
  refine ⟨_, lookup?_of_isAt named member outer parentAt, fun type nested => ?_⟩
  -- The site inside the message gives the type the last part of its path.
  obtain ⟨segment, _, child, childAt, isType⟩ :=
    exists_right_of_forall₂ (Symbol.atSite_isGivenTo file (path ++ [given]) _ _ _) nested
  refine ⟨child, segment, ?_, inner.name_plain plain childAt.named, ?_⟩
  · exact isType ▸ lookup?_of_isAt named member inner childAt
  · rw [childAt.localPath_eq inner plain, parentAt.localPath_eq outer plain,
      Text.joinDots_append (by simp) (by simp), Text.joinDots_singleton]

theorem keepsNames_of_legal (legal : ∀ type ∈ file.typeNames, Name.isLegal type.name = true) :
    (ofFiles files).KeepsNames file := by
  intro symbol records declared
  have distinct := named.fullNames_nodup member
  have plain := named.plainNames file member
  obtain ⟨path, scope, enums, messages, given, site, isAt⟩ :=
    Symbol.exists_site plain (records.mem named member) declared
  obtain ⟨type, _, isType⟩ := isAt.exists_type
  obtain rfl : given = type :=
    Symbol.IsGivenTo.eq_of_legal site distinct plain legal ⟨symbol, isAt, isType⟩
  calc symbol.fullName
    _ = Text.joinDots (file.scope :: path) ++ "." ++ given := by
      rw [isType, fullName, ← site.scope_eq distinct plain legal]
    _ = Text.joinDots (file.scope :: (path ++ [given])) := by
      rw [← List.cons_append, Text.joinDots_append (by simp) (by simp), Text.joinDots_singleton]
    _ = file.scope ++ "." ++ Text.joinDots (path ++ [given]) := by
      rw [← List.singleton_append, Text.joinDots_append (by simp) (by simp), Text.joinDots_singleton]
    _ = fullName file.scope symbol.localPath := by rw [isAt.localPath_eq site plain, fullName]

/-! ### Map entries -/

theorem entry_at {entry : Symbol} (found : entry ∈ Symbol.ofFile file) (isEntry : entry.isMapEntry = true) :
    ∃ path scope enums messages message, file.HasSite path scope enums messages ∧
      entry = Symbol.ofEntry (file.siteAt path scope) message := by
  obtain ⟨path, scope, enums, messages, site, ⟨message, _, isSymbol⟩ | ⟨given, isAt⟩⟩ :=
    Symbol.site_cases (named.plainNames file member) found
  · exact ⟨path, scope, enums, messages, message, site, isSymbol⟩
  · simp [isAt.isMapEntry_eq] at isEntry

/-- A map entry is no scope. -/
theorem fullName_ne_scope {entry : Symbol} (found : entry ∈ Symbol.ofFile file)
    (isEntry : entry.isMapEntry = true) (has : file.HasScope scope enums messages) :
    entry.fullName ≠ scope := by
  have plain := named.plainNames file member
  intro same
  cases has with
  | top =>
    -- The full name of a type is longer than the scope of its file.
    obtain ⟨path, around, enums, messages, message, site, rfl⟩ := entry_at named member found isEntry
    have shorter := site.hasScope.length_le
    have longer := congrArg String.length same
    have dot : ".".length = 1 := rfl
    simp only [Symbol.ofEntry, File.siteAt, fullName, String.length_append] at longer
    omega
  | inside outer among declared =>
    obtain ⟨symbol, isFound, isFull, names, isMessage⟩ := outer.message_symbol plain among declared
    obtain rfl : entry = symbol := Symbol.eq_of_fullName_eq (named.fullNames_nodup member) found isFound
      (same.trans isFull.symm)
    simp [Symbol.isMapEntry, isMessage] at isEntry

/-- There are no names inside a map entry. -/
theorem children_of_entry {entry : Symbol} (found : entry ∈ Symbol.ofFile file)
    (isEntry : entry.isMapEntry = true) : (ofFiles files).children entry.fullName = [] := by
  have noChildren : entry.children? = none := by
    obtain ⟨_, _, _, _, message, _, rfl⟩ := entry_at named member found isEntry
    rfl
  have unanswered : ∀ symbols ∈ (ofFiles files).files.reverse,
      symbols.children? entry.fullName = none := by
    intro symbols inTable
    obtain ⟨other, inFiles, rfl⟩ := List.mem_map.mp (List.mem_reverse.mp inTable)
    cases answered : (FileSymbols.ofFile other).children? entry.fullName with
    | none => rfl
    | some names =>
      -- The full name leads to the entry, whichever file has an answer.
      obtain ⟨candidate, recorded, sameName, gives⟩ := FileSymbols.mem_of_children? answered
      have sameSymbol := lookup?_of_mem named inFiles recorded
      rw [sameName, lookup?_of_mem named member found] at sameSymbol
      cases sameSymbol
      rw [noChildren] at gives
      cases gives
  rw [children, List.findSomeRev?_eq_findSome?_reverse, List.findSome?_eq_none_iff.mpr unanswered,
    Option.getD_none]

/-- Every symbol of a file has a plain name in a scope of the file. -/
theorem exists_scope {symbol : Symbol} (found : symbol ∈ Symbol.ofFile file) :
    ∃ scope enums messages name, file.HasScope scope enums messages ∧ Text.IsPlain name ∧
      symbol.fullName = fullName scope name := by
  have plain := named.plainNames file member
  obtain ⟨path, scope, enums, messages, site, ⟨message, among, rfl⟩ | ⟨given, isAt⟩⟩ :=
    Symbol.site_cases plain found
  · exact ⟨scope, enums, messages, message.name, site.hasScope,
      (site.hasScope.plain plain).message among, rfl⟩
  · obtain ⟨type, declared, isType⟩ := isAt.exists_type
    exact ⟨scope, enums, messages, type, site.hasScope,
      site.hasScope.plain plain _ (Schema.mem_scopeTypeNames scope declared), isType⟩

theorem listsNames_of_wellNamed (noEntries : ∀ message ∈ file.messages, message.mapEntry = false) :
    (ofFiles files).ListsNames file where
  top := callsAll_topLevel named member noEntries
  inside := by
    rintro full message ⟨scope, enums, messages, has, among, declared, rfl⟩
    exact callsAll_children named member has among declared
  nested := mem_nested_iff named member
  entry := by
    intro entry records isEntry
    have found := records.mem named member
    refine ⟨?_, children_of_entry named member found isEntry, ?_⟩
    · obtain ⟨_, _, _, _, message, _, rfl⟩ := entry_at named member found isEntry
      rfl
    · intro name namePlain other isRecorded inside
      obtain ⟨scope, enums, messages, type, has, typePlain, isType⟩ :=
        exists_scope named member (isRecorded.mem named member)
      -- A type inside the entry would make the entry a scope.
      have sameScope := (Schema.fullName_inj namePlain typePlain (inside.symm.trans isType)).1
      exact fullName_ne_scope named member found isEntry has sameScope

end WellNamed

end SymbolTable

/-! ### Names of built types -/

namespace Code

open SymbolTable (CallsAll)

variable {context : Context} {scope : String}

/-- A type is called by the name under which its symbol is declared. -/
theorem calls_of_symbol {full : String} {symbol : Symbol} (found : context.symbol full = .ok symbol) :
    context.symbols.Calls full symbol.declaredName := by
  obtain ⟨isFound, declared⟩ := Context.symbol_eq_ok.mp found
  exact ⟨symbol, isFound, declared, rfl⟩

theorem callsAll_of_buildEnums {enums : List Enum} {decls : List Declaration}
    (built : List.Forall₂ (fun enum decl => buildEnum context scope enum = .ok decl) enums decls) :
    context.symbols.CallsAll scope enums [] (decls.filterMap Declaration.ownName?) := by
  induction built with
  | nil => exact .nil
  | @cons enum decl enums decls here _ ih =>
    obtain ⟨symbol, found, rfl⟩ := buildEnum_eq_ok here
    exact .cons (calls_of_symbol found) ih

/-- A message becomes a class under the name of its symbol, around what was built for its inside. -/
theorem buildMessage_ensures {message : Message} (declared : message.mapEntry = false)
    {Q : List Declaration → Prop} (ofScope : Ensures (fun _ => True) (buildScope context
      (fullName scope message.name) message.nestedEnums message.nestedMessages) Q) :
    Ensures (fun _ => True) (buildMessage context scope message) fun decls =>
      ∃ decl nested, context.symbols.Calls (fullName scope message.name) decl.name ∧ Q nested ∧
        decls = withNested decl nested := by
  rw [buildMessage_of_declared declared]
  refine Ensures.bind (Ensures.liftM fun symbol found => calls_of_symbol found) fun symbol calls => ?_
  refine Ensures.bind ofScope fun nested holds => ?_
  -- Neither the name nor what is inside depends on the members.
  refine Ensures.bind (Ensures.anything _) fun members _ => ?_
  exact Ensures.pure ⟨_, nested, calls, holds, rfl⟩

/-- A message is built under the name that the table calls it by. -/
theorem buildMessage_callsAll (message : Message) :
    Ensures (fun _ => True) (buildMessage context scope message) fun decls =>
      context.symbols.CallsAll scope [] [message] (decls.filterMap Declaration.ownName?) := by
  cases entry : message.mapEntry with
  | true =>
    rw [buildMessage_of_entry entry]
    refine Ensures.pure ?_
    simp [CallsAll, declaredTypes, entry]
  | false =>
    refine (buildMessage_ensures entry (Ensures.anything _)).imp ?_
    rintro _ ⟨decl, nested, calls, _, rfl⟩
    rw [withNested_ownNames]
    simpa [CallsAll, declaredTypes, entry] using calls

theorem callsAll_flatten {messages : List Message} {parts : List (List Declaration)}
    (each : List.Forall₂ (fun message part =>
      context.symbols.CallsAll scope [] [message] (part.filterMap Declaration.ownName?)) messages parts) :
    context.symbols.CallsAll scope [] messages (parts.flatten.filterMap Declaration.ownName?) := by
  induction each with
  | nil => exact .nil
  | cons here _ ih =>
    rw [List.flatten_cons, List.filterMap_append]
    exact here.append ih

theorem buildMessages_callsAll (messages : List Message) :
    Ensures (fun _ => True) (buildMessages context scope messages) fun decls =>
      context.symbols.CallsAll scope [] messages (decls.filterMap Declaration.ownName?) := by
  rw [buildMessages_eq]
  refine Ensures.bind (Ensures.mapM_forall₂ fun message _ => buildMessage_callsAll message) ?_
  exact fun parts named => Ensures.pure (callsAll_flatten named)

/-- The types of a scope are built under the names of their symbols. -/
theorem buildScope_callsAll (enums : List Enum) (messages : List Message) :
    Ensures (fun _ => True) (buildScope context scope enums messages) fun body =>
      context.symbols.CallsAll scope enums messages (body.filterMap Declaration.ownName?) := by
  refine Ensures.bind (Ensures.liftM fun decls built =>
    callsAll_of_buildEnums ((except_mapM_eq_ok_iff _ _ _).mp built)) fun decls enumsNamed => ?_
  refine Ensures.bind (buildMessages_callsAll messages) fun classes messagesNamed => Ensures.pure ?_
  rw [List.filterMap_append]
  exact enumsNamed.append messagesNamed

end Code

namespace SymbolTable

variable {files : List File} {file : File}

theorem buildsListed_of_wellNamed (named : WellNamed files) (member : file ∈ files)
    (noEntries : ∀ message ∈ file.messages, message.mapEntry = false) {context : Context}
    (table : context.symbols = ofFiles files) : context.BuildsListed file where
  enumeration := by
    intro scope enums messages has enum among
    obtain ⟨symbol, found, isFull, declared⟩ := has.enum_symbol (named.plainNames file member) among
    have known : context.symbol (fullName scope enum.name) = .ok symbol := by
      rw [Context.symbol_eq_ok, table, ← isFull]
      exact ⟨lookup?_of_mem named member found, declared⟩
    refine ⟨.enumeration symbol.declaredName (enum.values.map fun value => ⟨value.name, value.number⟩),
      symbol.declaredName, ?_, rfl, Code.calls_of_symbol known⟩
    rw [buildEnum, known]
    rfl
  message := by
    intro scope enums messages has message among declared before decls after ran
    obtain ⟨_, decl, nested, calls, nestedNamed, rfl⟩ := Code.buildMessage_ensures declared
      (Code.buildScope_callsAll _ _) before decls after trivial ran
    obtain ⟨path, site⟩ := has.exists_site
    obtain ⟨given, isGiven⟩ := Symbol.atSite_message (file.siteAt path scope) enums among declared
    -- A namespace opens under its name only if the name is plain, and given names are.
    have isGivenName : decl.name = given :=
      (table ▸ calls).unique (calls_of_isAt named member site (.message among declared isGiven))
    have namePlain : Text.IsPlain decl.name :=
      isGivenName ▸ site.name_plain (named.plainNames file member) isGiven.named
    refine ⟨decl.name, calls, Code.withNested_ownNames decl nested, ?_⟩
    rw [Code.inside, Code.inside, Code.withNested_opened namePlain, if_pos rfl]
    exact nestedNamed.unique (table ▸ callsAll_children named member has among declared)
  top := by
    rintro rfl before decls after ran
    obtain ⟨_, areNamed⟩ := Code.buildScope_callsAll _ _ before decls after trivial ran
    exact areNamed.unique (table ▸ callsAll_topLevel named member noEntries)

/-- In the table of well-named files the paths of a file without map entries at its top identify its types.
Different types have different paths; the path of a nested type is the path of the message around it and
one more part; the names listed for a place are the last parts of the paths that lead there, and the types
are built under them; and where all names are legal, paths are full names. -/
theorem local_paths_identify_types (named : WellNamed files) (member : file ∈ files)
    (noEntries : ∀ message ∈ file.messages, message.mapEntry = false) :
    (ofFiles files).DistinctPaths file ∧ (ofFiles files).NestedPaths file ∧
    (ofFiles files).ListsNames file ∧
    (∀ context : Context, context.symbols = ofFiles files → context.BuildsListed file) ∧
    ((∀ type ∈ file.typeNames, Name.isLegal type.name = true) → (ofFiles files).KeepsNames file) :=
  ⟨distinctPaths_of_wellNamed named member, nestedPaths_of_wellNamed named member,
    listsNames_of_wellNamed named member noEntries,
    fun _ table => buildsListed_of_wellNamed named member noEntries table,
    keepsNames_of_legal named member⟩

/-- A file whose types compete for names, at the top and once more inside a message. -/
def wharf : File :=
  { name := "wharf.proto"
    package := some "wharf"
    enums := [{ name := "class" }, { name := "class__1" }]
    messages := [
      { name := "class_"
        nestedEnums := [{ name := "class__1" }]
        nestedMessages := [{ name := "class_" }, { name := "class" },
          { name := "MarksEntry", mapEntry := true }] }] }

/-- A file with legal names only and a map entry. -/
def chart : File :=
  { name := "chart.proto"
    messages := [
      { name := "Chart"
        nestedMessages := [{ name := "MarksEntry", mapEntry := true }, { name := "Mark" }] }] }

def wharfContext : Context :=
  { file := wharf
    symbols := ofFiles [wharf, chart]
    imports := { fileName := wharf.name, runtime := "pb_1", rpc := "grpc_1" }
    wraps := fun _ => false }

theorem local_paths_identify_types_at_the_wharf :
    WellNamed [wharf, chart] ∧ (∀ message ∈ wharf.messages, message.mapEntry = false) ∧
    (ofFiles [wharf, chart]).topLevel wharf.name = ["class_", "class__1", "class__2"] ∧
    (ofFiles [wharf, chart]).children ".wharf.class_" = ["class__1", "class_", "class__2"] ∧
    ((ofFiles [wharf, chart]).lookup? ".wharf.class_.class").map Symbol.localPath =
      some "class__2.class__2" ∧
    (ofFiles [wharf, chart]).DistinctPaths wharf ∧ (ofFiles [wharf, chart]).NestedPaths wharf ∧
    (ofFiles [wharf, chart]).ListsNames wharf ∧
    ((buildTypes wharfContext).run []).1.isOk = true ∧ wharfContext.BuildsListed wharf ∧
    (∀ type ∈ chart.typeNames, Name.isLegal type.name = true) ∧
    (ofFiles [wharf, chart]).KeepsNames chart := by
  have named : WellNamed [wharf, chart] := by decide +kernel
  have noEntries : ∀ message ∈ wharf.messages, message.mapEntry = false := by simp [wharf]
  have legal : ∀ type ∈ chart.typeNames, Name.isLegal type.name = true := by decide +kernel
  obtain ⟨distinct, nested, lists, builds, _⟩ :=
    local_paths_identify_types named (List.mem_cons_self (a := wharf)) noEntries
  obtain ⟨_, _, _, _, keeps⟩ := local_paths_identify_types named
    (List.mem_cons_of_mem wharf (List.mem_singleton_self chart)) (by simp [chart])
  exact ⟨named, noEntries, by decide +kernel, by decide +kernel, by decide +kernel, distinct, nested, lists,
    by decide +kernel, builds wharfContext rfl, legal, keeps legal⟩

/-- A map entry inside a message has no path, although its name is legal. -/
theorem map_entry_without_path_in_chart :
    WellNamed [chart] ∧ (∀ message ∈ chart.messages, message.mapEntry = false) ∧
    (∀ type ∈ chart.typeNames, Name.isLegal type.name = true) ∧
    ∃ parent child, (ofFiles [chart]).lookup? ".Chart" = some parent ∧ parent.isMapEntry = false ∧
      (ofFiles [chart]).lookup? ".Chart.MarksEntry" = some child ∧ child.localPath ≠ "Chart.MarksEntry" ∧
      ∀ segment, child.localPath ≠ parent.localPath ++ "." ++ segment := by
  refine ⟨by decide +kernel, by simp [chart], by decide +kernel,
    { fullName := ".Chart", fileName := "chart.proto", localPath := "Chart", kind := .message ["Mark"] },
    { fullName := ".Chart.MarksEntry", fileName := "chart.proto", localPath := "", kind := .mapEntry },
    by decide +kernel, rfl, by decide +kernel, by decide, ?_⟩
  intro segment same
  have characters := congrArg String.toList same
  simp at characters

end SymbolTable

end Typewire
