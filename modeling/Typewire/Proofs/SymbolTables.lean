import Typewire.Proofs.SymbolSites

/-!
# Look-up in the table of well-named files

In the table of well-named files a full name leads to the one symbol of the one file that declares it.
Names at the top of a file and names inside its messages are those that its sites give.
-/
namespace Typewire

open Schema (Enum File Message WellNamed fullName)

/-! ### The only match is found -/

theorem find?_eq_some_of_unique {α : Type} {xs : List α} {p : α → Bool} {x : α} (member : x ∈ xs)
    (holds : p x = true) (unique : ∀ y ∈ xs, p y = true → y = x) : xs.find? p = some x := by
  cases found : xs.find? p with
  | none => exact absurd holds (List.find?_eq_none.mp found x member)
  | some y => rw [unique y (List.mem_of_find?_eq_some found) (List.find?_some found)]

theorem findSome?_eq_some_of_unique {α β : Type} {xs : List α} {f : α → Option β} {x : α} {value : β}
    (member : x ∈ xs) (holds : f x = some value)
    (unique : ∀ y ∈ xs, ∀ other, f y = some other → other = value) :
    xs.findSome? f = some value := by
  cases found : xs.findSome? f with
  | none =>
    have missing := List.findSome?_eq_none_iff.mp found x member
    rw [holds] at missing
    cases missing
  | some other =>
    obtain ⟨y, inList, gives⟩ := List.exists_of_findSome?_eq_some found
    rw [unique y inList other gives]

/-! ### One file -/

theorem Symbol.fullName_mem {file : File} {symbol : Symbol} (found : symbol ∈ Symbol.ofFile file) :
    symbol.fullName ∈ file.fullNames :=
  (Symbol.ofFile_fullNames file).subset (List.mem_map.mpr ⟨symbol, found, rfl⟩)

theorem Symbol.fileName_eq {file : File} {symbol : Symbol} (found : symbol ∈ Symbol.ofFile file) :
    symbol.fileName = file.name := by
  rw [Symbol.ofFile_eq] at found
  exact Symbol.atSite_fileName found

/-- Two symbols of a file with one full name are the same. -/
theorem Symbol.eq_of_fullName_eq {file : File} (distinct : file.fullNames.Nodup)
    {first second : Symbol} (firstFound : first ∈ Symbol.ofFile file)
    (secondFound : second ∈ Symbol.ofFile file) (equal : first.fullName = second.fullName) :
    first = second :=
  List.inj_on_of_nodup_map ((Symbol.ofFile_fullNames file).nodup distinct) firstFound secondFound equal

/-- Where full names are distinct, every symbol is found under its own. -/
theorem FileSymbols.lookup?_of_mem {file : File} (distinct : file.fullNames.Nodup) {symbol : Symbol}
    (found : symbol ∈ Symbol.ofFile file) :
    (FileSymbols.ofFile file).lookup? symbol.fullName = some symbol := by
  rw [FileSymbols.lookup?, List.findRev?_eq_find?_reverse]
  apply find?_eq_some_of_unique
  · exact List.mem_reverse.mpr found
  · simp
  · intro other inSymbols equal
    exact Symbol.eq_of_fullName_eq distinct (List.mem_reverse.mp inSymbols) found (by simpa using equal)

theorem FileSymbols.mem_of_lookup? {file : File} {full : String} {symbol : Symbol}
    (found : (FileSymbols.ofFile file).lookup? full = some symbol) :
    symbol ∈ Symbol.ofFile file ∧ symbol.fullName = full := by
  rw [FileSymbols.lookup?, List.findRev?_eq_find?_reverse] at found
  exact ⟨List.mem_reverse.mp (List.mem_of_find?_eq_some found), by simpa using List.find?_some found⟩

/-- A name given at the top of a file is one of its names at the top. -/
theorem FileSymbols.mem_topLevel {file : File} (distinct : file.fullNames.Nodup) {given : String}
    (named : given ∈ (Symbol.atSite (.top file) file.enums file.messages).names) :
    given ∈ (FileSymbols.ofFile file).topLevel := by
  rw [FileSymbols.topLevel, List.mem_filterMap]
  rcases Symbol.atSite_name_symbol named with ⟨enum, member, found⟩ | ⟨message, member, _, found⟩
  · refine ⟨enum.name, List.mem_append_left _ (List.mem_map.mpr ⟨enum, member, rfl⟩), ?_⟩
    have answer := congrArg (Option.map Symbol.localPath) (FileSymbols.lookup?_of_mem distinct found)
    exact answer.trans (by simp [Symbol.ofEnum, Symbol.Site.pathOf, Symbol.Site.top])
  · refine ⟨message.name, List.mem_append_right _ (List.mem_map.mpr ⟨message, member, rfl⟩), ?_⟩
    have answer := congrArg (Option.map Symbol.localPath) (FileSymbols.lookup?_of_mem distinct found)
    exact answer.trans (by simp [Symbol.ofClass, Symbol.Site.pathOf, Symbol.Site.top])

/-- A name inside a message is nested in the file. -/
theorem FileSymbols.mem_nested {file : File} {symbol : Symbol} (found : symbol ∈ Symbol.ofFile file)
    {names : List String} (isMessage : symbol.kind = .message names) {name : String}
    (member : name ∈ names) : name ∈ (FileSymbols.ofFile file).nested := by
  refine List.mem_flatMap.mpr ⟨symbol, found, ?_⟩
  simpa [Symbol.children?, isMessage] using member

theorem FileSymbols.mem_of_children? {file : File} {full : String} {names : List String}
    (answered : (FileSymbols.ofFile file).children? full = some names) :
    ∃ symbol ∈ Symbol.ofFile file, symbol.fullName = full ∧ symbol.children? = some names := by
  rw [FileSymbols.children?, List.findSomeRev?_eq_findSome?_reverse] at answered
  obtain ⟨symbol, inSymbols, chosen⟩ := List.exists_of_findSome?_eq_some answered
  split at chosen
  next equal => exact ⟨symbol, List.mem_reverse.mp inSymbols, equal, chosen⟩
  next => cases chosen

theorem FileSymbols.not_mem_of_children?_eq_none {file : File} {symbol : Symbol}
    (unanswered : (FileSymbols.ofFile file).children? symbol.fullName = none) {names : List String}
    (gives : symbol.children? = some names) : symbol ∉ Symbol.ofFile file := by
  intro recorded
  rw [FileSymbols.children?, List.findSomeRev?_eq_findSome?_reverse] at unanswered
  have missing := List.findSome?_eq_none_iff.mp unanswered symbol (List.mem_reverse.mpr recorded)
  rw [if_pos rfl, gives] at missing
  cases missing

/-! ### Scopes of a file -/

namespace Schema.File

/-- The site of a scope, given the names of the messages around it in the generated code. -/
def siteAt (file : File) (path : List String) (scope : String) : Symbol.Site :=
  { fileName := file.name, scope, path := Text.joinDots path }

/-- A scope of a file together with the names of the messages around it in the generated code. -/
inductive HasSite (file : File) : List String → String → List Enum → List Message → Prop where
  | top : file.HasSite [] file.scope file.enums file.messages
  | inside {path : List String} {scope : String} {enums : List Enum} {messages : List Message}
      {message : Message} {given : String} (outer : file.HasSite path scope enums messages)
      (member : message ∈ messages) (declared : message.mapEntry = false)
      (isGiven : Symbol.IsGiven (file.siteAt path scope) enums messages message given) :
      file.HasSite (path ++ [given]) (fullName scope message.name) message.nestedEnums
        message.nestedMessages

/-- Every scope has a path of given names. -/
theorem HasScope.exists_site {file : File} {scope : String} {enums : List Enum}
    {messages : List Message} (has : file.HasScope scope enums messages) :
    ∃ path, file.HasSite path scope enums messages := by
  induction has with
  | top => exact ⟨[], .top⟩
  | @inside scope enums messages message outer member declared ih =>
    obtain ⟨path, site⟩ := ih
    obtain ⟨given, isGiven⟩ := Symbol.atSite_message (file.siteAt path scope) enums member declared
    exact ⟨path ++ [given], .inside site member declared isGiven⟩

namespace HasSite

variable {file : File} {path : List String} {scope : String} {enums : List Enum}
  {messages : List Message}

theorem hasScope (site : file.HasSite path scope enums messages) :
    file.HasScope scope enums messages := by
  induction site with
  | top => exact .top
  | inside _ member declared _ ih => exact .inside ih member declared

theorem name_plain (site : file.HasSite path scope enums messages)
    (plain : ∀ type ∈ file.typeNames, Text.IsPlain type.name) {given : String}
    (named : given ∈ (Symbol.atSite (file.siteAt path scope) enums messages).names) :
    Text.IsPlain given := by
  have scopePlain : PlainScope (file.siteAt path scope).scope enums messages :=
    site.hasScope.plain plain
  exact Symbol.atSite_names_plain scopePlain given named

/-- The names around a scope are plain. -/
theorem path_plain (site : file.HasSite path scope enums messages)
    (plain : ∀ type ∈ file.typeNames, Text.IsPlain type.name) :
    ∀ part ∈ path, Text.IsPlain part := by
  induction site with
  | top => simp
  | inside outer member declared isGiven ih =>
    intro part inPath
    rcases List.mem_append.mp inPath with before | last
    · exact ih part before
    · rw [List.mem_singleton.mp last]
      exact outer.name_plain plain isGiven.named

/-- The inside of a message is the site that its symbol was recorded for. -/
theorem inside_eq (site : file.HasSite path scope enums messages)
    (plain : ∀ type ∈ file.typeNames, Text.IsPlain type.name) (name given : String) :
    (file.siteAt path scope).inside name given = file.siteAt (path ++ [given]) (fullName scope name) := by
  have located : (file.siteAt path scope).path = Text.joinDots path := rfl
  rw [Symbol.Site.inside, Symbol.Site.pathOf_eq located (site.path_plain plain)]
  rfl

/-- The symbols of a site are recorded. -/
theorem recorded (site : file.HasSite path scope enums messages)
    (plain : ∀ type ∈ file.typeNames, Text.IsPlain type.name) :
    (Symbol.atSite (file.siteAt path scope) enums messages).symbols ⊆ Symbol.ofFile file := by
  induction site with
  | top => exact List.Subset.refl _
  | inside outer member declared isGiven ih =>
    rw [← outer.inside_eq plain]
    exact List.Subset.trans isGiven.inside ih

/-- The path of a name that is given at a site. -/
theorem pathOf_eq (site : file.HasSite path scope enums messages)
    (plain : ∀ type ∈ file.typeNames, Text.IsPlain type.name) (given : String) :
    (file.siteAt path scope).pathOf given = Text.joinDots (path ++ [given]) :=
  Symbol.Site.pathOf_eq rfl (site.path_plain plain) given

/-- The outermost name around a name is given at the top of the file. -/
theorem head_mem (site : file.HasSite path scope enums messages) {given : String}
    (named : given ∈ (Symbol.atSite (file.siteAt path scope) enums messages).names) :
    (path ++ [given]).headD "" ∈ (Symbol.atSite (.top file) file.enums file.messages).names := by
  induction site generalizing given with
  | top => exact named
  | @inside path scope enums messages message outerName outer member declared isGiven ih =>
    -- The head of the path was chosen at the top, when the outermost message was named.
    have around := ih isGiven.named
    cases path <;> exact around

end HasSite

namespace HasScope

variable {file : File} {scope : String} {enums : List Enum} {messages : List Message}

theorem enum_symbol (has : file.HasScope scope enums messages)
    (plain : ∀ type ∈ file.typeNames, Text.IsPlain type.name) {enum : Enum} (member : enum ∈ enums) :
    ∃ symbol ∈ Symbol.ofFile file, symbol.fullName = fullName scope enum.name ∧
      symbol.isMapEntry = false := by
  obtain ⟨path, site⟩ := has.exists_site
  obtain ⟨given, found⟩ := Symbol.atSite_enum (file.siteAt path scope) messages member
  exact ⟨_, site.recorded plain found, rfl, rfl⟩

/-- Every declared message of a scope has a symbol. -/
theorem message_symbol (has : file.HasScope scope enums messages)
    (plain : ∀ type ∈ file.typeNames, Text.IsPlain type.name) {message : Message}
    (member : message ∈ messages) (declared : message.mapEntry = false) :
    ∃ symbol ∈ Symbol.ofFile file, symbol.fullName = fullName scope message.name ∧
      ∃ names, symbol.kind = .message names := by
  obtain ⟨path, site⟩ := has.exists_site
  obtain ⟨given, isGiven⟩ := Symbol.atSite_message (file.siteAt path scope) enums member declared
  exact ⟨_, site.recorded plain isGiven.recorded, rfl, _, rfl⟩

/-- The messages around a scope are recorded as messages. -/
theorem enclosing_symbol {context : Context} (has : context.file.HasScope scope enums messages)
    (plain : ∀ type ∈ context.file.typeNames, Text.IsPlain type.name) {full : String}
    (around : full ∈ context.enclosingMessages scope) :
    ∃ symbol ∈ Symbol.ofFile context.file, symbol.fullName = full ∧
      ∃ names, symbol.kind = .message names := by
  induction has with
  | top =>
    rw [Context.enclosingMessages_top] at around
    simp at around
  | inside outer member declared ih =>
    rw [Context.enclosingMessages_inside outer ((outer.plain plain).message member)] at around
    rcases List.mem_cons.mp around with rfl | outside
    · exact outer.message_symbol plain member declared
    · exact ih outside

end HasScope

end Schema.File

/-! ### Symbols of a file -/

/-- A type that is declared at a site. -/
inductive Symbol.IsAt (file : File) (path : List String) (scope : String) (enums : List Enum)
    (messages : List Message) : Symbol → String → Prop where
  | enumeration {enum : Enum} {given : String} (member : enum ∈ enums)
      (recorded : Symbol.ofEnum (file.siteAt path scope) enum given ∈
        (Symbol.atSite (file.siteAt path scope) enums messages).symbols)
      (named : given ∈ (Symbol.atSite (file.siteAt path scope) enums messages).names) :
      Symbol.IsAt file path scope enums messages (Symbol.ofEnum (file.siteAt path scope) enum given) given
  | message {message : Message} {given : String} (member : message ∈ messages)
      (declared : message.mapEntry = false)
      (isGiven : Symbol.IsGiven (file.siteAt path scope) enums messages message given) :
      Symbol.IsAt file path scope enums messages (Symbol.ofClass (file.siteAt path scope) message given)
        given

/-- Every symbol of a file stands at some site, either for a map entry or for a type declared there. -/
theorem Symbol.site_cases {file : File} (plain : ∀ type ∈ file.typeNames, Text.IsPlain type.name)
    {symbol : Symbol} (found : symbol ∈ Symbol.ofFile file) :
    ∃ path scope enums messages, file.HasSite path scope enums messages ∧
      ((∃ message ∈ messages, symbol = Symbol.ofEntry (file.siteAt path scope) message) ∨
        ∃ given, Symbol.IsAt file path scope enums messages symbol given) := by
  rw [Symbol.ofFile_eq] at found
  -- A site is known by its path and scope, so the property is stated for all that it may have.
  have every := Symbol.atSite_induction (Q := fun site enums messages symbol =>
    ∀ path scope, site = file.siteAt path scope → file.HasSite path scope enums messages →
      ∃ path scope enums messages, file.HasSite path scope enums messages ∧
        ((∃ message ∈ messages, symbol = Symbol.ofEntry (file.siteAt path scope) message) ∨
          ∃ given, Symbol.IsAt file path scope enums messages symbol given)) ?_ ?_ ?_ ?_ found
  · exact every [] file.scope rfl .top
  · rintro _ enums messages enum given member recorded named path scope rfl site
    exact ⟨path, scope, enums, messages, site, .inr ⟨given, .enumeration member recorded named⟩⟩
  · rintro _ enums messages message member path scope rfl site
    exact ⟨path, scope, enums, messages, site, .inl ⟨message, member, rfl⟩⟩
  · rintro _ enums messages message given member isDeclared isGiven path scope rfl site
    exact ⟨path, scope, enums, messages, site, .inr ⟨given, .message member isDeclared isGiven⟩⟩
  · rintro _ enums messages message given symbol member isDeclared isGiven nested path scope rfl site
    exact nested _ _ (site.inside_eq plain _ _) (.inside site member isDeclared isGiven)

/-- Every symbol that is no map entry is of a type declared at some site. -/
theorem Symbol.exists_site {file : File} (plain : ∀ type ∈ file.typeNames, Text.IsPlain type.name)
    {symbol : Symbol} (found : symbol ∈ Symbol.ofFile file) (declared : symbol.isMapEntry = false) :
    ∃ path scope enums messages given, file.HasSite path scope enums messages ∧
      Symbol.IsAt file path scope enums messages symbol given := by
  obtain ⟨path, scope, enums, messages, site, ⟨message, _, rfl⟩ | ⟨given, isAt⟩⟩ :=
    Symbol.site_cases plain found
  · simp [Symbol.ofEntry, Symbol.isMapEntry] at declared
  · exact ⟨path, scope, enums, messages, given, site, isAt⟩

namespace Symbol.IsAt

variable {file : File} {path : List String} {scope : String} {enums : List Enum}
  {messages : List Message} {symbol : Symbol} {given : String}

theorem named (isAt : Symbol.IsAt file path scope enums messages symbol given) :
    given ∈ (Symbol.atSite (file.siteAt path scope) enums messages).names := by
  cases isAt with
  | enumeration member recorded named => exact named
  | message member declared isGiven => exact isGiven.named

/-- The path of a type consists of the names around it and its own name. -/
theorem localPath_eq (isAt : Symbol.IsAt file path scope enums messages symbol given)
    (site : file.HasSite path scope enums messages)
    (plain : ∀ type ∈ file.typeNames, Text.IsPlain type.name) :
    symbol.localPath = Text.joinDots (path ++ [given]) := by
  cases isAt with
  | enumeration member recorded named => exact site.pathOf_eq plain given
  | message member declared isGiven => exact site.pathOf_eq plain given

theorem path_plain (isAt : Symbol.IsAt file path scope enums messages symbol given)
    (site : file.HasSite path scope enums messages)
    (plain : ∀ type ∈ file.typeNames, Text.IsPlain type.name) :
    ∀ part ∈ path ++ [given], Text.IsPlain part := by
  intro part inPath
  rcases List.mem_append.mp inPath with before | last
  · exact site.path_plain plain part before
  · exact List.mem_singleton.mp last ▸ site.name_plain plain isAt.named

/-- The parts of the path of a type are the given names around it and its own. -/
theorem segments_localPath (isAt : Symbol.IsAt file path scope enums messages symbol given)
    (site : file.HasSite path scope enums messages)
    (plain : ∀ type ∈ file.typeNames, Text.IsPlain type.name) :
    Text.segments symbol.localPath = path ++ [given] := by
  rw [isAt.localPath_eq site plain]
  exact Text.segments_joinDots (by simp) fun part member => (isAt.path_plain site plain part member).2

end Symbol.IsAt

/-- The path of a type starts with a name at the top of its file. -/
theorem FileSymbols.firstSegment_mem_topLevel {file : File} (distinct : file.fullNames.Nodup)
    (plain : ∀ type ∈ file.typeNames, Text.IsPlain type.name) {symbol : Symbol}
    (found : symbol ∈ Symbol.ofFile file) (declared : symbol.isMapEntry = false) :
    Text.firstSegment symbol.localPath ∈ (FileSymbols.ofFile file).topLevel := by
  obtain ⟨path, scope, enums, messages, given, site, isAt⟩ := Symbol.exists_site plain found declared
  rw [Text.firstSegment, isAt.segments_localPath site plain]
  exact FileSymbols.mem_topLevel distinct (site.head_mem isAt.named)

/-! ### All files -/

namespace SymbolTable

variable {files : List File} {file : File} {symbol : Symbol}

/-- What the table finds was recorded for one of its files. -/
theorem mem_of_lookup? {full : String} (found : (ofFiles files).lookup? full = some symbol) :
    ∃ file ∈ files, symbol ∈ Symbol.ofFile file ∧ symbol.fullName = full := by
  rw [lookup?, List.findSomeRev?_eq_findSome?_reverse] at found
  obtain ⟨entry, member, inEntry⟩ := List.exists_of_findSome?_eq_some found
  obtain ⟨file, inFiles, rfl⟩ := List.mem_map.mp (List.mem_reverse.mp member)
  exact ⟨file, inFiles, FileSymbols.mem_of_lookup? inEntry⟩

/-- A full name leads to the symbol that was recorded for it. -/
theorem lookup?_of_mem (named : WellNamed files) (member : file ∈ files)
    (found : symbol ∈ Symbol.ofFile file) :
    (ofFiles files).lookup? symbol.fullName = some symbol := by
  rw [lookup?, List.findSomeRev?_eq_findSome?_reverse]
  have here := FileSymbols.lookup?_of_mem (named.fullNames_nodup member) found
  refine findSome?_eq_some_of_unique (List.mem_reverse.mpr (List.mem_map_of_mem member)) here ?_
  intro entry inTable other inEntry
  obtain ⟨second, inFiles, rfl⟩ := List.mem_map.mp (List.mem_reverse.mp inTable)
  obtain ⟨recorded, equal⟩ := FileSymbols.mem_of_lookup? inEntry
  -- Another file that answers to the name would share a full name with this one.
  have same : second = file := named.file_eq inFiles member
    (equal ▸ Symbol.fullName_mem recorded) (Symbol.fullName_mem found)
  subst same
  exact Option.some.inj (inEntry.symm.trans here)

/-- A type of a file that is found at all is found as a symbol of that file. -/
theorem mem_ofFile_of_lookup? (named : WellNamed files) (member : file ∈ files) {full : String}
    (declared : full ∈ file.fullNames) (found : (ofFiles files).lookup? full = some symbol) :
    symbol ∈ Symbol.ofFile file ∧ symbol.fullName = full := by
  obtain ⟨other, inFiles, recorded, equal⟩ := mem_of_lookup? found
  have same : other = file :=
    named.file_eq inFiles member (equal ▸ Symbol.fullName_mem recorded) declared
  exact ⟨same ▸ recorded, equal⟩

/-- A found symbol that claims to be of a file is recorded for it. -/
theorem mem_of_fileName (named : WellNamed files) (member : file ∈ files) {full : String}
    (found : (ofFiles files).lookup? full = some symbol) (here : symbol.fileName = file.name) :
    symbol ∈ Symbol.ofFile file := by
  obtain ⟨other, inFiles, recorded, _⟩ := mem_of_lookup? found
  have same : other = file :=
    named.eq_of_name_eq inFiles member ((Symbol.fileName_eq recorded).symm.trans here)
  exact same ▸ recorded

/-- In well-named files every file is found under its name. -/
theorem file?_of_mem (named : WellNamed files) (member : file ∈ files) :
    (ofFiles files).file? file.name = some (FileSymbols.ofFile file) := by
  rw [file?, List.findRev?_eq_find?_reverse]
  apply find?_eq_some_of_unique
  · exact List.mem_reverse.mpr (List.mem_map_of_mem member)
  · simp [FileSymbols.ofFile]
  · intro entry inTable equal
    obtain ⟨other, inFiles, rfl⟩ := List.mem_map.mp (List.mem_reverse.mp inTable)
    rw [named.eq_of_name_eq inFiles member (of_decide_eq_true equal)]

theorem topLevel_of_mem (named : WellNamed files) (member : file ∈ files) :
    (ofFiles files).topLevel file.name = (FileSymbols.ofFile file).topLevel := by
  simp [topLevel, file?_of_mem named member]

theorem nested_of_mem (named : WellNamed files) (member : file ∈ files) :
    (ofFiles files).nested file.name = (FileSymbols.ofFile file).nested := by
  simp [nested, file?_of_mem named member]

/-- The names inside a message are those recorded with its symbol. -/
theorem children_of_mem (named : WellNamed files) (member : file ∈ files)
    (found : symbol ∈ Symbol.ofFile file) {names : List String}
    (isMessage : symbol.kind = .message names) :
    (ofFiles files).children symbol.fullName = names := by
  have gives : symbol.children? = some names := by simp [Symbol.children?, isMessage]
  -- Whatever symbol of whatever file answers to the full name is this one.
  have unique : ∀ other ∈ files, ∀ names',
      (FileSymbols.ofFile other).children? symbol.fullName = some names' → names' = names := by
    intro other inFiles names' answered
    obtain ⟨candidate, recorded, equal, chosen⟩ := FileSymbols.mem_of_children? answered
    have answersToSame := lookup?_of_mem named inFiles recorded
    rw [equal, lookup?_of_mem named member found] at answersToSame
    cases answersToSame
    exact Option.some.inj (chosen.symm.trans gives)
  have here : (FileSymbols.ofFile file).children? symbol.fullName = some names := by
    cases answered : (FileSymbols.ofFile file).children? symbol.fullName with
    | none => exact absurd found (FileSymbols.not_mem_of_children?_eq_none answered gives)
    | some names' => rw [unique file member names' answered]
  rw [children, List.findSomeRev?_eq_findSome?_reverse]
  have answer : (ofFiles files).files.reverse.findSome?
      (fun entry => entry.children? symbol.fullName) = some names := by
    refine findSome?_eq_some_of_unique (List.mem_reverse.mpr (List.mem_map_of_mem member)) here ?_
    intro entry inTable other answered
    obtain ⟨second, inFiles, rfl⟩ := List.mem_map.mp (List.mem_reverse.mp inTable)
    exact unique second inFiles other answered
  rw [answer, Option.getD_some]

end SymbolTable

end Typewire
