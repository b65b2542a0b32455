import Typewire.Proofs.Effects
import Typewire.Proofs.FreshNames
import Typewire.Proofs.Scopes

/-!
# Symbols found at a site

Every scope of a file has a site in the generated code: the place where its types are declared. The names
given at a site are distinct and plain, and the path of a type is the path of its site followed by its
name. Each main statement is proved for one message first, by induction over the nesting, and then for
the types of a site.
-/
namespace Typewire.Symbol

open Schema (Enum File Message PlainScope scopeTypeNames)

/-- The symbols of one scope: its enumerations, then its messages. -/
def atSite (site : Site) (enums : List Enum) (messages : List Message) : Found :=
  let first := ofEnums site {} enums
  let second := ofMessages site first.pool messages
  { names := first.names ++ second.names
    symbols := first.symbols ++ second.symbols
    pool := second.pool }

def Site.inside (site : Site) (name given : String) : Site :=
  { fileName := site.fileName, scope := Schema.fullName site.scope name, path := site.pathOf given }

def Site.top (file : File) : Site :=
  { fileName := file.name, scope := file.scope, path := "" }

def ofEnum (site : Site) (enum : Enum) (given : String) : Symbol :=
  { fullName := Schema.fullName site.scope enum.name
    fileName := site.fileName
    localPath := site.pathOf given
    kind := .enum (enum.values.head?.map (·.name)) }

def ofEntry (site : Site) (message : Message) : Symbol :=
  { fullName := Schema.fullName site.scope message.name
    fileName := site.fileName
    localPath := ""
    kind := .mapEntry }

/-- What is found inside a message that was given a name. -/
def foundInside (site : Site) (message : Message) (given : String) : Found :=
  atSite (site.inside message.name given) message.nestedEnums message.nestedMessages

def ofClass (site : Site) (message : Message) (given : String) : Symbol :=
  { fullName := Schema.fullName site.scope message.name
    fileName := site.fileName
    localPath := site.pathOf given
    kind := .message (foundInside site message given).names }

/-! ### One step at a time -/

theorem ofFile_eq (file : File) :
    ofFile file = (atSite (Site.top file) file.enums file.messages).symbols := rfl

theorem ofEnums_cons (site : Site) (pool : NamePool) (enum : Enum) (enums : List Enum) :
    ofEnums site pool (enum :: enums) =
      { names := (pool.claim enum.name).1 :: (ofEnums site (pool.claim enum.name).2 enums).names
        symbols := ofEnum site enum (pool.claim enum.name).1 ::
          (ofEnums site (pool.claim enum.name).2 enums).symbols
        pool := (ofEnums site (pool.claim enum.name).2 enums).pool } := rfl

theorem ofMessages_cons (site : Site) (pool : NamePool) (message : Message)
    (messages : List Message) :
    ofMessages site pool (message :: messages) =
      { names := (ofMessage site pool message).names ++
          (ofMessages site (ofMessage site pool message).pool messages).names
        symbols := (ofMessage site pool message).symbols ++
          (ofMessages site (ofMessage site pool message).pool messages).symbols
        pool := (ofMessages site (ofMessage site pool message).pool messages).pool } := rfl

/-- A map entry is recorded, but takes no name. -/
theorem ofMessage_of_entry {message : Message} (entry : message.mapEntry = true) (site : Site)
    (pool : NamePool) :
    ofMessage site pool message = { names := [], symbols := [ofEntry site message], pool } := by
  obtain ⟨name, fields, nestedMessages, nestedEnums, oneofs, mapEntry⟩ := message
  subst entry
  rfl

theorem ofMessage_of_declared {message : Message} (declared : message.mapEntry = false)
    (site : Site) (pool : NamePool) :
    ofMessage site pool message =
      { names := [(pool.claim message.name).1]
        symbols := ofClass site message (pool.claim message.name).1 ::
          (foundInside site message (pool.claim message.name).1).symbols
        pool := (pool.claim message.name).2 } := by
  obtain ⟨name, fields, nestedMessages, nestedEnums, oneofs, mapEntry⟩ := message
  subst declared
  rfl

/-! ### Names of a site -/

theorem ofEnums_gives (site : Site) (pool : NamePool) (enums : List Enum) :
    pool.Gives (ofEnums site pool enums).names (ofEnums site pool enums).pool := by
  induction enums generalizing pool with
  | nil => exact .none pool
  | cons enum enums ih =>
    rw [ofEnums_cons]
    exact (NamePool.Gives.claim pool enum.name).append (ih _)

theorem ofMessage_gives (site : Site) (pool : NamePool) (message : Message) :
    pool.Gives (ofMessage site pool message).names (ofMessage site pool message).pool := by
  cases entry : message.mapEntry with
  | true =>
    rw [ofMessage_of_entry entry]
    exact .none pool
  | false =>
    rw [ofMessage_of_declared entry]
    exact .claim pool message.name

/-- The messages of a scope take fresh names. -/
theorem ofMessages_gives (site : Site) (pool : NamePool) (messages : List Message) :
    pool.Gives (ofMessages site pool messages).names (ofMessages site pool messages).pool := by
  induction messages generalizing pool with
  | nil => exact .none pool
  | cons message messages ih =>
    rw [ofMessages_cons]
    exact (ofMessage_gives site pool message).append (ih _)

/-- The names given at one site are distinct. -/
theorem atSite_names_nodup (site : Site) (enums : List Enum) (messages : List Message) :
    (atSite site enums messages).names.Nodup :=
  ((ofEnums_gives site {} enums).append (ofMessages_gives site _ messages)).distinct

section Names

variable {R : String → Prop} (claimed : ∀ {name} (pool : NamePool), R name → R (pool.claim name).1)

include claimed

theorem ofEnums_names {site : Site} {pool : NamePool} {enums : List Enum}
    (each : ∀ enum ∈ enums, R enum.name) : ∀ name ∈ (ofEnums site pool enums).names, R name := by
  induction enums generalizing pool with
  | nil => simp [ofEnums]
  | cons enum enums ih =>
    rw [ofEnums_cons]
    intro name member
    rcases List.mem_cons.mp member with rfl | member
    · exact claimed pool (each enum List.mem_cons_self)
    · exact ih (fun other inEnums => each other (List.mem_cons_of_mem _ inEnums)) name member

theorem ofMessages_names {site : Site} {pool : NamePool} {messages : List Message}
    (each : ∀ message ∈ messages, R message.name) :
    ∀ name ∈ (ofMessages site pool messages).names, R name := by
  induction messages generalizing pool with
  | nil => simp [ofMessages]
  | cons message messages ih =>
    rw [ofMessages_cons]
    intro name member
    rcases List.mem_append.mp member with first | later
    · cases entry : message.mapEntry with
      | true => simp [ofMessage_of_entry entry] at first
      | false =>
        rw [ofMessage_of_declared entry, List.mem_singleton] at first
        rw [first]
        exact claimed pool (each message List.mem_cons_self)
    · exact ih (fun other inMessages => each other (List.mem_cons_of_mem _ inMessages)) name later

/-- What claiming a name keeps of it holds of the names given at a site. -/
theorem atSite_names {site : Site} {enums : List Enum} {messages : List Message}
    (ofEnum : ∀ enum ∈ enums, R enum.name) (ofMessage : ∀ message ∈ messages, R message.name) :
    ∀ name ∈ (atSite site enums messages).names, R name := by
  intro name member
  rcases List.mem_append.mp member with inEnums | inMessages
  · exact ofEnums_names claimed ofEnum name inEnums
  · exact ofMessages_names claimed ofMessage name inMessages

end Names

/-- The names given at a site are plain if the declared names are. -/
theorem atSite_names_plain {site : Site} {enums : List Enum} {messages : List Message}
    (plain : PlainScope site.scope enums messages) :
    ∀ name ∈ (atSite site enums messages).names, Text.IsPlain name :=
  atSite_names (fun pool isPlain => NamePool.claim_plain isPlain pool) (fun _ => plain.enum)
    fun _ => plain.message

/-! ### Every type of a site has its symbol -/

/-- The enumerations of a site have the names given for them, in this order. -/
theorem ofEnums_given (site : Site) (pool : NamePool) (enums : List Enum) :
    List.Forall₂ (fun enum given => ofEnum site enum given ∈ (ofEnums site pool enums).symbols)
      enums (ofEnums site pool enums).names := by
  induction enums generalizing pool with
  | nil => exact .nil
  | cons first enums ih =>
    rw [ofEnums_cons]
    refine .cons List.mem_cons_self ((ih _).imp ?_)
    exact fun enum given found => List.mem_cons_of_mem _ found

/-- The messages of a site have the names given for them, in this order; map entries have none. -/
theorem ofMessages_given (site : Site) (pool : NamePool) (messages : List Message) :
    List.Forall₂ (fun message given =>
        ofClass site message given ∈ (ofMessages site pool messages).symbols ∧
        (foundInside site message given).symbols ⊆ (ofMessages site pool messages).symbols)
      (messages.filter fun message => !message.mapEntry) (ofMessages site pool messages).names := by
  induction messages generalizing pool with
  | nil => exact .nil
  | cons first messages ih =>
    rw [ofMessages_cons]
    cases entry : first.mapEntry with
    | true =>
      rw [List.filter_cons_of_neg (by simp [entry]), ofMessage_of_entry entry]
      refine (ih _).imp fun message given both => ⟨?_, fun _ nested => ?_⟩
      · exact List.mem_append_right _ both.1
      · exact List.mem_append_right _ (both.2 nested)
    | false =>
      rw [List.filter_cons_of_pos (by simp [entry]), ofMessage_of_declared entry]
      -- The class and what is inside it come first, the symbols of later messages after them.
      refine .cons ⟨by simp, fun _ nested => ?_⟩
        ((ih _).imp fun message given both => ⟨?_, fun _ nested => ?_⟩)
      · exact List.mem_append_left _ (List.mem_cons_of_mem _ nested)
      · exact List.mem_append_right _ both.1
      · exact List.mem_append_right _ (both.2 nested)

/-- A message of a site has a name there: its symbol and those of the types inside it are recorded. -/
structure IsGiven (site : Site) (enums : List Enum) (messages : List Message) (message : Message)
    (given : String) : Prop where
  named : given ∈ (atSite site enums messages).names
  recorded : ofClass site message given ∈ (atSite site enums messages).symbols
  inside : (foundInside site message given).symbols ⊆ (atSite site enums messages).symbols

/-- The names of a site are those of its enumerations, then those of its messages. -/
theorem atSite_given (site : Site) (enums : List Enum) (messages : List Message) :
    ∃ enumNames messageNames, (atSite site enums messages).names = enumNames ++ messageNames ∧
      List.Forall₂ (fun enum given => ofEnum site enum given ∈ (atSite site enums messages).symbols)
        enums enumNames ∧
      List.Forall₂ (IsGiven site enums messages)
        (messages.filter fun message => !message.mapEntry) messageNames := by
  let pool := (ofEnums site {} enums).pool
  refine ⟨_, _, rfl, (ofEnums_given site {} enums).imp ?_, ?_⟩
  · exact fun enum given found => List.mem_append_left _ found
  · refine (forall₂_mem (ofMessages_given site pool messages)).imp ?_
    rintro message name ⟨_, named, recorded, inside⟩
    exact ⟨List.mem_append_right _ named, List.mem_append_right _ recorded,
      fun _ nested => List.mem_append_right _ (inside nested)⟩

/-- Every enumeration of a site is recorded. -/
theorem atSite_enum (site : Site) {enums : List Enum} (messages : List Message) {enum : Enum}
    (member : enum ∈ enums) :
    ∃ given, ofEnum site enum given ∈ (atSite site enums messages).symbols := by
  obtain ⟨_, _, _, enumsGiven, _⟩ := atSite_given site enums messages
  obtain ⟨given, _, found⟩ := exists_right_of_forall₂ enumsGiven member
  exact ⟨given, found⟩

/-- Every message of a site that is no map entry is given a name. -/
theorem atSite_message (site : Site) (enums : List Enum) {messages : List Message}
    {message : Message} (member : message ∈ messages) (declared : message.mapEntry = false) :
    ∃ given, IsGiven site enums messages message given := by
  obtain ⟨_, _, _, _, messagesGiven⟩ := atSite_given site enums messages
  obtain ⟨given, _, isGiven⟩ := exists_right_of_forall₂ messagesGiven
    (List.mem_filter.mpr ⟨member, by simp [declared]⟩)
  exact ⟨given, isGiven⟩

/-- Every name given at a site is the name of a symbol. -/
theorem atSite_name_symbol {site : Site} {enums : List Enum} {messages : List Message} {given : String}
    (named : given ∈ (atSite site enums messages).names) :
    (∃ enum ∈ enums, ofEnum site enum given ∈ (atSite site enums messages).symbols) ∨
    (∃ message ∈ messages, message.mapEntry = false ∧
      ofClass site message given ∈ (atSite site enums messages).symbols) := by
  obtain ⟨enumNames, messageNames, names_eq, enumsGiven, messagesGiven⟩ := atSite_given site enums messages
  rw [names_eq] at named
  rcases List.mem_append.mp named with inEnums | inMessages
  · exact .inl (exists_left_of_forall₂ enumsGiven inEnums)
  · obtain ⟨message, among, isGiven⟩ := exists_left_of_forall₂ messagesGiven inMessages
    obtain ⟨member, declared⟩ := List.mem_filter.mp among
    exact .inr ⟨message, member, by simpa using declared, isGiven.recorded⟩

/-! ### Every symbol of a site has its type -/

theorem mem_ofEnums {site : Site} {pool : NamePool} {enums : List Enum} {symbol : Symbol}
    (found : symbol ∈ (ofEnums site pool enums).symbols) :
    ∃ enum ∈ enums, ∃ given ∈ (ofEnums site pool enums).names, symbol = ofEnum site enum given := by
  induction enums generalizing pool with
  | nil => simp [ofEnums] at found
  | cons first enums ih =>
    rw [ofEnums_cons] at found ⊢
    rcases List.mem_cons.mp found with rfl | later
    · exact ⟨first, List.mem_cons_self, _, List.mem_cons_self, rfl⟩
    · obtain ⟨enum, member, given, named, rfl⟩ := ih later
      exact ⟨enum, List.mem_cons_of_mem _ member, given, List.mem_cons_of_mem _ named, rfl⟩

/-- How a symbol comes from the messages of a site: it is a map entry, it is a class, or it was found
inside a class. -/
theorem mem_ofMessages {site : Site} {pool : NamePool} {messages : List Message} {symbol : Symbol}
    (found : symbol ∈ (ofMessages site pool messages).symbols) :
    (∃ message ∈ messages, symbol = ofEntry site message) ∨
    (∃ message ∈ messages, message.mapEntry = false ∧
      ∃ given ∈ (ofMessages site pool messages).names,
        ofClass site message given ∈ (ofMessages site pool messages).symbols ∧
        (foundInside site message given).symbols ⊆ (ofMessages site pool messages).symbols ∧
        (symbol = ofClass site message given ∨ symbol ∈ (foundInside site message given).symbols)) := by
  -- The pool changes from message to message, but a symbol keeps the name that it was recorded under.
  induction messages generalizing pool with
  | nil => simp [ofMessages] at found
  | cons first messages ih =>
    rw [ofMessages_cons] at found ⊢
    rcases List.mem_append.mp found with here | later
    · cases entry : first.mapEntry with
      | true =>
        rw [ofMessage_of_entry entry, List.mem_singleton] at here
        exact .inl ⟨first, List.mem_cons_self, here⟩
      | false =>
        rw [ofMessage_of_declared entry] at here ⊢
        refine .inr ⟨first, List.mem_cons_self, entry, _, by simp, by simp, ?_, List.mem_cons.mp here⟩
        exact fun _ nested => List.mem_append_left _ (List.mem_cons_of_mem _ nested)
    · rcases ih later with
        ⟨message, member, rfl⟩ | ⟨message, member, declared, given, named, recorded, inside, cases⟩
      · exact .inl ⟨message, List.mem_cons_of_mem _ member, rfl⟩
      · exact .inr ⟨message, List.mem_cons_of_mem _ member, declared, given,
          List.mem_append_right _ named, List.mem_append_right _ recorded,
          fun _ nested => List.mem_append_right _ (inside nested), cases⟩

/-- A property of symbols and their sites holds of all symbols of a site if it holds of enumerations,
map entries and classes and passes from the inside of a class to its site. -/
theorem atSite_induction {Q : Site → List Enum → List Message → Symbol → Prop}
    (enumeration : ∀ {site enums messages enum given}, enum ∈ enums →
      ofEnum site enum given ∈ (atSite site enums messages).symbols →
      given ∈ (atSite site enums messages).names → Q site enums messages (ofEnum site enum given))
    (entry : ∀ {site enums messages message}, message ∈ messages →
      Q site enums messages (ofEntry site message))
    (declared : ∀ {site enums messages message given}, message ∈ messages →
      message.mapEntry = false → IsGiven site enums messages message given →
      Q site enums messages (ofClass site message given))
    (inside : ∀ {site enums messages message given symbol}, message ∈ messages →
      message.mapEntry = false → IsGiven site enums messages message given →
      Q (site.inside message.name given) message.nestedEnums message.nestedMessages symbol →
      Q site enums messages symbol)
    {site : Site} {enums : List Enum} {messages : List Message} {symbol : Symbol}
    (found : symbol ∈ (atSite site enums messages).symbols) : Q site enums messages symbol := by
  -- What is to be shown of one message, for all sites and names under which it may stand.
  let P (message : Message) : Prop := ∀ site given symbol,
    symbol ∈ (foundInside site message given).symbols →
    Q (site.inside message.name given) message.nestedEnums message.nestedMessages symbol
  -- One site, given what holds inside its messages.
  have step : ∀ {site enums messages symbol}, (∀ message ∈ messages, P message) →
      symbol ∈ (atSite site enums messages).symbols → Q site enums messages symbol := by
    intro site enums messages symbol nested found
    rcases List.mem_append.mp found with inEnums | inMessages
    · obtain ⟨enum, member, given, named, rfl⟩ := mem_ofEnums inEnums
      exact enumeration member found (List.mem_append_left _ named)
    · rcases mem_ofMessages inMessages with
        ⟨message, member, rfl⟩ |
        ⟨message, member, isDeclared, given, named, recorded, deeper, here⟩
      · exact entry member
      · have isGiven : IsGiven site enums messages message given :=
          ⟨List.mem_append_right _ named, List.mem_append_right _ recorded,
            fun _ nested => List.mem_append_right _ (deeper nested)⟩
        rcases here with rfl | nestedFound
        · exact declared member isDeclared isGiven
        · exact inside member isDeclared isGiven (nested message member site given symbol nestedFound)
  -- The induction is over the nesting of messages; sites and names vary with it.
  have all : ∀ message, P message :=
    Message.nested_induction fun message nested _ _ _ found => step nested found
  exact step (fun message _ => all message) found

/-! ### Files, full names and paths of symbols -/

theorem atSite_fileName {site : Site} {enums : List Enum} {messages : List Message} {symbol : Symbol}
    (found : symbol ∈ (atSite site enums messages).symbols) : symbol.fileName = site.fileName := by
  refine atSite_induction (Q := fun site _ _ symbol => symbol.fileName = site.fileName)
    ?_ ?_ ?_ ?_ found
  · intros; rfl
  · intros; rfl
  · intros; rfl
  · intro site enums messages message given symbol _ _ _ sameInside
    exact sameInside

theorem ofEnums_fullNames (site : Site) (pool : NamePool) (enums : List Enum) :
    (ofEnums site pool enums).symbols.map Symbol.fullName =
      (Enum.typeNames site.scope enums).map Schema.TypeName.full := by
  induction enums generalizing pool with
  | nil => rfl
  | cons enum enums ih =>
    rw [ofEnums_cons, List.map_cons, ih]
    rfl

/-- Symbols stand in the order of declaration; only what is inside a map entry has none. -/
theorem ofMessages_fullNames {messages : List Message}
    (each : ∀ message ∈ messages, ∀ site pool,
      ((ofMessage site pool message).symbols.map Symbol.fullName).Sublist
        ((message.typeNames site.scope).map Schema.TypeName.full))
    (site : Site) (pool : NamePool) :
    ((ofMessages site pool messages).symbols.map Symbol.fullName).Sublist
      ((Message.allTypeNames site.scope messages).map Schema.TypeName.full) := by
  induction messages generalizing pool with
  | nil => simp [ofMessages]
  | cons message messages ih =>
    rw [ofMessages_cons, Message.allTypeNames, List.map_append, List.map_append]
    have first := each message List.mem_cons_self site pool
    have others := ih (fun other member => each other (List.mem_cons_of_mem _ member))
      (ofMessage site pool message).pool
    exact first.append others

theorem ofMessage_fullNames (message : Message) : ∀ (site : Site) (pool : NamePool),
    ((ofMessage site pool message).symbols.map Symbol.fullName).Sublist
      ((message.typeNames site.scope).map Schema.TypeName.full) := by
  induction message using Message.nested_induction with
  | step message nested =>
    intro site pool
    rw [Message.typeNames_eq]
    cases entry : message.mapEntry with
    | true =>
      rw [ofMessage_of_entry entry]
      exact List.Sublist.cons_cons _ (List.nil_sublist _)
    | false =>
      rw [ofMessage_of_declared entry]
      refine List.Sublist.cons_cons _ ?_
      simp only [foundInside, atSite, scopeTypeNames, List.map_append, ofEnums_fullNames]
      exact (List.Sublist.refl _).append (ofMessages_fullNames nested _ _)

/-- Symbols have the full names of the types of their file, in order. -/
theorem ofFile_fullNames (file : File) :
    ((ofFile file).map Symbol.fullName).Sublist file.fullNames := by
  rw [ofFile_eq]
  simp only [atSite, File.fullNames, File.typeNames, scopeTypeNames, List.map_append,
    ofEnums_fullNames]
  exact (List.Sublist.refl _).append
    (ofMessages_fullNames (fun message _ => ofMessage_fullNames message) _ _)

theorem Site.pathOf_eq {site : Site} {path : List String} (located : site.path = Text.joinDots path)
    (plain : ∀ part ∈ path, Text.IsPlain part) (name : String) :
    site.pathOf name = Text.joinDots (path ++ [name]) := by
  rw [Site.pathOf, located]
  by_cases empty : path = []
  · subst empty
    have empty : Text.joinDots [] = "" := rfl
    rw [if_pos empty, List.nil_append, Text.joinDots_singleton]
  · have notEmpty : Text.joinDots path ≠ "" :=
      fun equal => empty ((Text.joinDots_eq_empty_iff plain).mp equal)
    rw [if_neg notEmpty, Text.joinDots_append empty (List.cons_ne_nil _ _), Text.joinDots_singleton]

end Typewire.Symbol
