import Typewire.Proofs.Brackets
import Typewire.Proofs.Loading
import Typewire.Proofs.Spelling

/-!
# Characters of generated names

Names are made from the names of a schema: legal forms, numbers behind them, paths with dots between them. All
this adds only letters, digits, underscores and dots. So if a class of characters has these and all characters
of the names of a schema, it has the characters of every name and reference that is generated for it, whatever
clashes were resolved on the way.
-/
namespace Typewire

open Schema (Enum File Message)

/-! ### Texts over a class of characters -/

namespace Text

/-- A text consists of admitted characters. -/
def Consists (admits : Char → Bool) (text : String) : Prop :=
  ∀ c ∈ text.toList, admits c = true

instance (admits : Char → Bool) (text : String) : Decidable (Consists admits text) :=
  List.decidableBAll (fun c => admits c = true) text.toList

/-- A class of characters that has the characters of words. -/
def AdmitsWords (admits : Char → Bool) : Prop :=
  ∀ c, isWord c = true → admits c = true

variable {admits : Char → Bool}

theorem AdmitsWords.consists (words : AdmitsWords admits) {text : String}
    (isText : text.toList.all isWord = true) : Consists admits text :=
  fun c member => words c (List.all_eq_true.mp isText c member)

theorem AdmitsWords.empty (words : AdmitsWords admits) : Consists admits "" :=
  words.consists (by decide)

theorem Consists.append {first second : String} (ofFirst : Consists admits first)
    (ofSecond : Consists admits second) : Consists admits (first ++ second) := by
  intro c member
  rw [String.toList_append, List.mem_append] at member
  exact member.elim (ofFirst c) (ofSecond c)

theorem Consists.joinDots (words : AdmitsWords admits) {parts : List String}
    (each : ∀ part ∈ parts, Consists admits part) : Consists admits (joinDots parts) := by
  induction parts with
  | nil => simp [Consists, Text.joinDots]
  | cons part parts ih =>
    rw [List.forall_mem_cons] at each
    cases parts with
    | nil => exact each.1
    | cons next parts =>
      rw [Text.joinDots, String.intercalate_cons_cons]
      exact (each.1.append (words.consists (by decide))).append (ih each.2)

theorem mem_joinDots {parts : List String} {part : String} (member : part ∈ parts) {c : Char}
    (inPart : c ∈ part.toList) : c ∈ (joinDots parts).toList := by
  induction parts with
  | nil => cases member
  | cons first parts ih =>
    cases parts with
    | nil =>
      rw [List.mem_singleton.mp member] at inPart
      exact inPart
    | cons next parts =>
      rw [joinDots, String.intercalate_cons_cons, String.toList_append, String.toList_append, List.mem_append,
        List.mem_append]
      rcases List.mem_cons.mp member with rfl | later
      · exact .inl (.inl inPart)
      · exact .inr (ih later)

theorem Consists.segments {name : String} (consists : Consists admits name) {part : String}
    (member : part ∈ segments name) : Consists admits part := by
  intro c inPart
  apply consists
  rw [← joinDots_segments name]
  exact mem_joinDots member inPart

theorem Consists.afterFirst (words : AdmitsWords admits) {name : String}
    (consists : Consists admits name) : Consists admits (afterFirst name) :=
  Consists.joinDots words fun _ member => consists.segments (List.mem_of_mem_tail member)

theorem Consists.lastSegment {name : String} (consists : Consists admits name) :
    Consists admits (lastSegment name) := by
  rw [Text.lastSegment, List.getLastD_eq_getLast?]
  cases last : (Text.segments name).getLast? with
  | none => simp [Consists]
  | some part => exact consists.segments (List.mem_of_getLast? last)

end Text

open Text (AdmitsWords Consists)

variable {admits : Char → Bool}

/-! ### Single names -/

theorem Name.legalize_consists (words : AdmitsWords admits) {name : String}
    (consists : Consists admits name) : Consists admits (Name.legalize name) := by
  rw [Name.legalize]
  split
  · exact consists
  · exact consists.append (words.consists (by decide))

theorem Name.memberName_consists (words : AdmitsWords admits) {name : String}
    (consists : Consists admits name) : Consists admits (Name.memberName name) := by
  rw [Name.memberName]
  split
  · exact consists.append (words.consists (by decide))
  · exact consists

theorem Name.namespacePath_consists (words : AdmitsWords admits) {package : String}
    (consists : Consists admits package) : Consists admits (Name.namespacePath package) := by
  apply Consists.joinDots words
  intro part member
  obtain ⟨segment, isSegment, rfl⟩ := List.mem_map.mp member
  exact Name.legalize_consists words (consists.segments isSegment)

namespace NamePool

theorem numbered_consists (words : AdmitsWords admits) {base : String} (consists : Consists admits base)
    (number : Nat) : Consists admits (numbered base number) := by
  refine (consists.append (words.consists (by decide))).append fun c member => words c ?_
  exact Text.isWord_of_mem_repr member

theorem claim_consists (words : AdmitsWords admits) {name : String} (consists : Consists admits name)
    (pool : NamePool) : Consists admits (pool.claim name).1 := by
  rw [claim]
  split
  · exact numbered_consists words (Name.legalize_consists words consists) _
  · exact Name.legalize_consists words consists

end NamePool

/-! ### The texts of a schema -/

namespace Schema

/-- Kinds whose declared defaults are written as they stand. -/
def writesDefault : Kind → Bool
  | .bool | .string | .bytes | .message | .group => false
  | _ => true

/-- The texts of a field that are written as they stand: its name, the default of a number or an enumeration,
and for a map those of its parts. -/
def Field.texts : Field → List String
  | { name, mapKey := some mapKey, mapValue := some mapValue, .. } =>
    name :: (Field.texts mapKey ++ Field.texts mapValue)
  | field => field.name :: if writesDefault field.kind then field.defaultValue.toList else []

def Enum.texts (enum : Enum) : List String :=
  enum.name :: enum.values.map (·.name)

def Message.texts (message : Message) : List String :=
  message.name :: (message.fields.flatMap Field.texts ++ message.oneofs.map (·.name) ++
    message.nestedEnums.flatMap Enum.texts)

def Service.texts (service : Service) : List String :=
  service.name :: service.methods.map (·.name)

/-- The texts of a file that are written into the code as they stand. -/
def File.texts (file : File) : List String :=
  file.package.toList ++ file.enums.flatMap Enum.texts ++ file.allMessages.flatMap Message.texts ++
    file.services.flatMap Service.texts

/-- All texts of a file that are written as they stand consist of admitted characters. -/
def File.Consists (admits : Char → Bool) (file : File) : Prop :=
  ∀ text ∈ file.texts, Text.Consists admits text

instance (admits : Char → Bool) (file : File) : Decidable (file.Consists admits) :=
  List.decidableBAll (Text.Consists admits) file.texts

/-- The types of one scope with everything nested in them consist of admitted characters. -/
structure ScopeConsists (admits : Char → Bool) (enums : List Enum) (messages : List Message) : Prop where
  enums : ∀ enum ∈ enums, ∀ text ∈ enum.texts, Text.Consists admits text
  messages : ∀ message ∈ Message.families messages, ∀ text ∈ message.texts, Text.Consists admits text

theorem File.Consists.scope {file : File} (consists : file.Consists admits) :
    ScopeConsists admits file.enums file.messages := by
  constructor
  · intro enum member text isText
    apply consists
    simp only [File.texts, List.mem_append, List.mem_flatMap]
    exact .inl (.inl (.inr ⟨enum, member, isText⟩))
  · intro message member text isText
    apply consists
    simp only [File.texts, List.mem_append, List.mem_flatMap]
    exact .inl (.inr ⟨message, member, isText⟩)

theorem File.Consists.package {file : File} (consists : file.Consists admits) {package : String}
    (isPackage : file.package? = some package) : Text.Consists admits package := by
  apply consists
  have written : file.package = some package := (Option.filter_eq_some_iff.mp isPackage).1
  simp [File.texts, written]

namespace ScopeConsists

variable {enums : List Enum} {messages : List Message}

theorem message (consists : ScopeConsists admits enums messages) {message : Message}
    (member : message ∈ messages) {text : String} (isText : text ∈ message.texts) :
    Text.Consists admits text := by
  refine consists.messages message (Message.family_subset member ?_) text isText
  rw [Message.family_eq]
  exact List.mem_cons_self

theorem inside (consists : ScopeConsists admits enums messages) {message : Message}
    (member : message ∈ messages) :
    ScopeConsists admits message.nestedEnums message.nestedMessages := by
  constructor
  · intro enum isNested text isText
    apply consists.message member
    simp only [Message.texts, List.mem_cons, List.mem_append, List.mem_flatMap]
    exact .inr (.inr ⟨enum, isNested, isText⟩)
  · intro nested isNested text isText
    refine consists.messages nested (Message.family_subset member ?_) text isText
    rw [Message.family_eq]
    exact List.mem_cons_of_mem _ isNested

end ScopeConsists

end Schema

/-! ### Symbols -/

namespace Symbol

open Schema (ScopeConsists)

theorem Site.pathOf_consists (words : AdmitsWords admits) {site : Site} (path : Consists admits site.path)
    {given : String} (ofGiven : Consists admits given) : Consists admits (site.pathOf given) := by
  rw [Site.pathOf]
  split
  · exact ofGiven
  · exact (path.append (words.consists (by decide))).append ofGiven

/-- What is written of a symbol consists of admitted characters: its path, and the first constant of an
enumeration. -/
structure Consists (admits : Char → Bool) (symbol : Symbol) : Prop where
  localPath : Text.Consists admits symbol.localPath
  firstMember : ∀ first, symbol.firstMember? = some first → Text.Consists admits first

/-- The symbols of a site consist of the characters of its path and of its types. -/
theorem atSite_consists (words : AdmitsWords admits) {site : Site} {enums : List Enum}
    {messages : List Message} {symbol : Symbol} (found : symbol ∈ (atSite site enums messages).symbols)
    (path : Text.Consists admits site.path) (scope : ScopeConsists admits enums messages) :
    symbol.Consists admits := by
  -- Names at a site are claimed for declared names, in whatever order the clashes came up.
  have givenConsists : ∀ {site enums messages given}, ScopeConsists admits enums messages →
      given ∈ (atSite site enums messages).names → Text.Consists admits given := by
    intro site enums messages given scope named
    refine atSite_names (R := Text.Consists admits)
      (fun pool consists => NamePool.claim_consists words consists pool)
      (fun enum member => ?_) (fun message member => ?_) given named
    · exact scope.enums enum member _ List.mem_cons_self
    · exact scope.message member List.mem_cons_self
  refine atSite_induction (Q := fun site enums messages symbol => Text.Consists admits site.path →
    ScopeConsists admits enums messages → symbol.Consists admits) ?_ ?_ ?_ ?_ found path scope
  · intro site enums messages enum given member _ named path scope
    refine ⟨Site.pathOf_consists words path (givenConsists scope named), fun first isFirst => ?_⟩
    obtain ⟨value, isHead, rfl⟩ := Option.map_eq_some_iff.mp isFirst
    refine scope.enums enum member _ (List.mem_cons_of_mem _ ?_)
    exact List.mem_map.mpr ⟨value, List.mem_of_head? isHead, rfl⟩
  · intro site enums messages message member path scope
    exact ⟨words.empty, fun first isFirst => by cases isFirst⟩
  · intro site enums messages message given member declared isGiven path scope
    exact ⟨Site.pathOf_consists words path (givenConsists scope isGiven.named),
      fun first isFirst => by cases isFirst⟩
  · intro site enums messages message given symbol member declared isGiven deeper path scope
    exact deeper (Site.pathOf_consists words path (givenConsists scope isGiven.named)) (scope.inside member)

end Symbol

namespace SymbolTable

variable {files : List File} (words : AdmitsWords admits) (each : ∀ file ∈ files, file.Consists admits)

include words each in
theorem lookup?_consists {full : String} {symbol : Symbol}
    (found : (ofFiles files).lookup? full = some symbol) : symbol.Consists admits := by
  obtain ⟨file, member, recorded, _⟩ := mem_of_lookup? found
  rw [Symbol.ofFile_eq] at recorded
  exact Symbol.atSite_consists words recorded words.empty (each file member).scope

theorem mem_of_file? {name : String} {entry : FileSymbols} (found : (ofFiles files).file? name = some entry) :
    ∃ file ∈ files, entry = FileSymbols.ofFile file := by
  rw [file?, List.findRev?_eq_find?_reverse] at found
  have member := List.mem_of_find?_eq_some found
  obtain ⟨file, inFiles, rfl⟩ := List.mem_map.mp (List.mem_reverse.mp member)
  exact ⟨file, inFiles, rfl⟩

include words each in
theorem topLevel_consists {fileName name : String} (member : name ∈ (ofFiles files).topLevel fileName) :
    Consists admits name := by
  cases found : (ofFiles files).file? fileName with
  | none => simp [topLevel, found] at member
  | some entry =>
    obtain ⟨file, inFiles, rfl⟩ := mem_of_file? found
    simp only [topLevel, found, Option.map_some, Option.getD_some, FileSymbols.topLevel,
      List.mem_filterMap] at member
    obtain ⟨_, _, isPath⟩ := member
    obtain ⟨symbol, inEntry, rfl⟩ := Option.map_eq_some_iff.mp isPath
    obtain ⟨recorded, _⟩ := FileSymbols.mem_of_lookup? inEntry
    rw [Symbol.ofFile_eq] at recorded
    exact (Symbol.atSite_consists words recorded words.empty (each file inFiles).scope).localPath

end SymbolTable

/-! ### References -/

namespace Context

/-- All names that a context can give consist of admitted characters. -/
structure Consists (admits : Char → Bool) (context : Context) : Prop where
  file : context.file.Consists admits
  symbol : ∀ {typeName symbol}, context.symbol typeName = .ok symbol → symbol.Consists admits
  package : ∀ {fileName entry package}, context.symbols.file? fileName = some entry →
    entry.file.package? = some package → Text.Consists admits package
  runtime : Text.Consists admits context.imports.runtime
  rpc : Text.Consists admits context.imports.rpc
  files : ∀ entry ∈ context.imports.files, Text.Consists admits entry.2
  roots : ∀ entry ∈ context.imports.roots, Text.Consists admits entry.1 ∧ Text.Consists admits entry.2

/-- Resolution adds no other characters than those of the files and of words. -/
theorem consists_of_resolved {context : Context} {files : List File} (words : AdmitsWords admits)
    (each : ∀ file ∈ files, file.Consists admits) (member : context.file ∈ files)
    (table : context.symbols = SymbolTable.ofFiles files)
    (resolved : Imports.resolve context.symbols context.file = .ok context.imports) :
    context.Consists admits := by
  have resolution := Imports.resolve_eq_ok resolved
  have numbered : ∀ {base}, base.toList.all Text.isWord = true → ∀ number,
      Text.Consists admits (NamePool.numbered base number) :=
    fun isWord number => NamePool.numbered_consists words (words.consists isWord) number
  refine ⟨each _ member, ?_, ?_, ?_, ?_, ?_, ?_⟩
  · intro typeName symbol found
    exact SymbolTable.lookup?_consists words each (table ▸ (symbol_eq_ok.mp found).1)
  · intro fileName entry package found isPackage
    obtain ⟨file, inFiles, rfl⟩ := SymbolTable.mem_of_file? (table ▸ found)
    exact (each file inFiles).package isPackage
  · obtain ⟨_, _, _, _, _, _, stages⟩ := Imports.resolve_stages resolved
    rw [stages]
    exact numbered (by decide) _
  · obtain ⟨_, _, _, _, _, _, stages⟩ := Imports.resolve_stages resolved
    rw [stages]
    exact numbered (by decide) _
  · intro entry isFile
    obtain ⟨number, isNumbered⟩ := resolution.numberedFiles entry isFile
    rw [isNumbered]
    exact numbered (by decide) _
  · intro entry isRoot
    -- A second name is a numbered root, and roots stand at the top of the file.
    have isShadowed : entry.1 ∈ Imports.shadowedRoots context.symbols context.file :=
      resolution.rootKeys ▸ List.mem_map_of_mem isRoot
    have atTop := (Imports.mem_shadowedRoots.mp isShadowed).1
    rw [table] at atTop
    have ofRoot := SymbolTable.topLevel_consists words each atTop
    obtain ⟨number, isNumbered⟩ := resolution.numberedRoots entry isRoot
    rw [isNumbered]
    exact ⟨ofRoot, NamePool.numbered_consists words ofRoot number⟩

namespace Consists

variable {context : Context} (consists : context.Consists admits) (words : AdmitsWords admits)

include consists words

theorem exportedPath {symbol : Symbol} (ofSymbol : symbol.Consists admits) :
    Text.Consists admits (context.exportedPath symbol) := by
  rw [Context.exportedPath]
  split
  · exact ofSymbol.localPath
  next entry found =>
    split
    · exact ofSymbol.localPath
    next package isPackage =>
      split
      · have ofPackage := Name.namespacePath_consists words (consists.package found isPackage)
        exact (ofPackage.append (words.consists (by decide))).append ofSymbol.localPath
      · exact ofSymbol.localPath

/-- A reference and the second name it uses consist of admitted characters. -/
theorem reference {typeName scope : String} {reference : Reference}
    (spelled : context.reference typeName scope = .ok reference) :
    Text.Consists admits reference.text ∧
      ∀ {name root rest}, reference = .throughRoot name root rest →
        Text.Consists admits name ∧ Text.Consists admits root := by
  obtain ⟨symbol, found, ways⟩ := reference_eq_ok spelled
  have ofSymbol := consists.symbol found
  rcases ways with ⟨_, _, rfl⟩ | ⟨_, _, name, isRoot, rfl⟩ | ⟨_, name, isFile, rfl⟩
  · exact ⟨ofSymbol.localPath, fun isRoot => by cases isRoot⟩
  · obtain ⟨ofRoot, ofName⟩ := consists.roots _ (OrderedMap.mem_of_get? isRoot)
    constructor
    · rw [Reference.text]
      split
      · exact ofName
      · exact (ofName.append (words.consists (by decide))).append (ofSymbol.localPath.afterFirst words)
    · rintro _ _ _ ⟨⟩
      exact ⟨ofName, ofRoot⟩
  · have ofName := consists.files _ (OrderedMap.mem_of_get? isFile)
    refine ⟨?_, fun isRoot => by cases isRoot⟩
    exact (ofName.append (words.consists (by decide))).append (consists.exportedPath words ofSymbol)

end Consists

end Context

end Typewire
