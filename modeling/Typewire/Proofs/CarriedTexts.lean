import Typewire.Proofs.Building
import Typewire.Proofs.Characters
import Typewire.Proofs.CodeTemplates
import Typewire.Proofs.Services

/-!
# What generated declarations carry

Whatever is built for a schema carries names, references and values into the code. Names and references consist
of the characters that are admitted in the schema. Declared defaults of strings and bytes become literals,
so they may be any texts. Hence what is built carries only texts that keep to a discipline, as long as texts of
admitted characters do.

Building has two states, the second names in use and the names declared for services. That these consist of
admitted characters is the invariant of every step.
-/
namespace Typewire

open Schema (Enum File Message ScopeConsists)
open Text (AdmitsWords Consists Discipline Fits)

variable {admits : Char → Bool} {P : String → Prop} {Q : List String → Prop} {context : Context}
  {scope : String}

namespace Code

/-- The second names in use and their roots consist of admitted characters. -/
def UsesConsist (admits : Char → Bool) (uses : RootUses) : Prop :=
  ∀ entry ∈ uses, Consists admits entry.1 ∧ Consists admits entry.2

/-- A reference consists of admitted characters, and so does the second name it may use. -/
theorem qualify_consists (words : AdmitsWords admits) (consists : context.Consists admits)
    (typeName scope : String) :
    Ensures (UsesConsist admits) (qualify context typeName scope) (Consists admits) := by
  intro before text after invariant ran
  rw [qualify_run] at ran
  split at ran
  next => cases ran
  next reference spelled =>
    obtain ⟨ofText, ofRoot⟩ := consists.reference words spelled
    cases ran
    refine ⟨?_, ofText⟩
    cases reference with
    | throughRoot name root rest =>
      intro entry member
      rcases OrderedMap.mem_put member with rfl | earlier
      · exact ofRoot rfl
      · exact invariant entry earlier
    | visible path => exact invariant
    | imported name path => exact invariant

/-! ### Values of unset fields -/

section Values

variable (rules : Discipline P Q)

include rules

theorem zeroValue_carried (kind : Kind) : P (zeroValue kind) := by
  apply rules.constant
  cases kind <;> decide

/-- Defaults of strings and bytes may be any texts, since they become literals and lists of numbers. -/
theorem declaredValue_carried (plain : ∀ text, Consists admits text → P text) {kind : Kind}
    {typeRef text : String} (scalar : kind.scalarType? = some typeRef)
    (ofText : Schema.writesDefault kind = true → Consists admits text) : P (declaredValue kind text) := by
  unfold declaredValue
  split
  · exact rules.literal text
  · exact rules.text (Fits.fixed.fill (rules.intArray _) |>.lit) (by decide)
  · split <;> exact rules.text Fits.fixed (by decide)
  next notString notBytes notBool =>
    -- What is left are the numbers, and their defaults are written as they stand.
    have written : Schema.writesDefault kind = true := by
      cases kind <;> first | rfl | contradiction
    split
    · exact rules.text Fits.fixed (by decide)
    split
    · exact rules.text Fits.fixed (by decide)
    split
    · exact rules.text Fits.fixed (by decide)
    · exact plain text (ofText written)

theorem scalarType_carried {kind : Kind} {typeRef : String} (scalar : kind.scalarType? = some typeRef) :
    P typeRef := by
  apply rules.constant
  cases kind <;> cases scalar <;> decide

end Values

theorem enumInitial_consists (words : AdmitsWords admits) {typeRef : String} {declared first : Option String}
    (ofType : Consists admits typeRef) (ofDeclared : ∀ text, declared = some text → Consists admits text)
    (ofFirst : ∀ text, first = some text → Consists admits text) :
    Consists admits (enumInitial typeRef declared first) := by
  unfold enumInitial
  split
  next member found =>
    have ofMember : Consists admits member := by
      rcases Option.or_eq_some_iff.mp found with isDeclared | ⟨_, isFirst⟩
      · exact ofDeclared member (Option.filter_eq_some_iff.mp isDeclared).1
      · exact ofFirst member (Option.filter_eq_some_iff.mp isFirst).1
    exact (ofType.append (words.consists (by decide))).append ofMember
  next => exact words.consists (by decide)

/-! ### Fields -/

theorem texts_of_single {field : Schema.Field} (single : field.parts? = none) :
    field.texts = field.name :: if Schema.writesDefault field.kind then field.defaultValue.toList else [] := by
  refine Schema.Field.texts.eq_2 field ?_
  rintro name number cardinality kind typeName oneofIndex jsonName packed isOptional
    explicitPresence defaultValue mapKey mapValue rfl
  cases single

theorem texts_of_map {field mapKey mapValue : Schema.Field}
    (parts : field.parts? = some (mapKey, mapValue)) :
    field.texts = field.name :: (mapKey.texts ++ mapValue.texts) := by
  obtain ⟨hasKey, hasValue⟩ := Schema.Field.parts?_eq_some.mp parts
  cases field
  cases hasKey
  cases hasValue
  rw [Schema.Field.texts]

section Types

variable (rules : Discipline P Q) (words : AdmitsWords admits) (plain : ∀ text, Consists admits text → P text)
  (consists : context.Consists admits)

include rules words plain consists

theorem elementType_carried {field : Schema.Field}
    (ofDefault : Schema.writesDefault field.kind = true → ∀ text, field.defaultValue = some text →
      Consists admits text) :
    Ensures (UsesConsist admits) (elementType context scope field) fun element =>
      P element.1 ∧ P element.2 := by
  cases scalar : field.kind.scalarType? with
  | some typeRef =>
    rw [elementType_of_scalar scalar]
    refine Ensures.pure ⟨scalarType_carried rules scalar, ?_⟩
    cases isDefault : field.defaultValue with
    | none => exact zeroValue_carried rules field.kind
    | some text =>
      exact declaredValue_carried rules plain scalar fun written => ofDefault written text isDefault
  | none =>
    cases typed : field.typeName with
    | none =>
      rw [elementType_of_untyped scalar typed]
      exact Ensures.liftM fun _ returned => by cases returned
    | some typeName =>
      rw [elementType_of_reference scalar typed]
      refine Ensures.bind (qualify_consists words consists typeName scope) fun typeRef ofType => ?_
      -- The initial value of an enumeration is one of its constants; that of a message is fixed.
      have ofInitial : ∀ initial, referenceInitial context field typeName typeRef = .ok initial →
          P initial := by
        intro initial returned
        rw [referenceInitial] at returned
        split at returned
        next isEnum =>
          obtain ⟨symbol, found, last⟩ := except_bind_eq_ok returned
          rw [← Except.ok.inj last]
          refine plain _ (enumInitial_consists words ofType (ofDefault (by rw [isEnum]; rfl)) ?_)
          exact (consists.symbol found).firstMember
        next =>
          rw [← Except.ok.inj returned]
          exact rules.text Fits.fixed (by decide)
      refine Ensures.bind (Ensures.liftM ofInitial) fun initial carried => ?_
      exact Ensures.pure ⟨plain typeRef ofType, carried⟩

/-- What a field carries into its class are its own texts and those of its types. -/
theorem buildField_carried {field : Schema.Field} (ofTexts : ∀ text ∈ field.texts, Consists admits text) :
    Ensures (UsesConsist admits) (buildField context scope field) (Field.Carries P) := by
  induction field using Schema.Field.parts_induction with
  | single field single =>
    rw [texts_of_single single, List.forall_mem_cons] at ofTexts
    obtain ⟨ofName, ofDefault⟩ := ofTexts
    rw [buildField_of_single single]
    refine Ensures.bind (elementType_carried rules words plain consists ?_) fun element carried => ?_
    · intro written text isDefault
      exact ofDefault text (by simp [written, isDefault])
    apply Ensures.pure
    refine .intro (plain _ (Name.memberName_consists words ofName)) carried.1 ?_ ?_ ?_
    · -- A list starts out empty, whatever the default of its elements.
      change P (if field.isRepeated then "[]" else element.2)
      split
      · exact rules.text Fits.fixed (by decide)
      · exact carried.2
    · intro part isPart
      cases isPart
    · intro part isPart
      cases isPart
  | map field mapKey mapValue parts ofKey ofValue =>
    rw [texts_of_map parts, List.forall_mem_cons, List.forall_mem_append] at ofTexts
    obtain ⟨ofName, keyTexts, valueTexts⟩ := ofTexts
    rw [buildField_of_map parts]
    refine Ensures.bind (ofKey keyTexts) fun key keyCarries => ?_
    refine Ensures.bind (ofValue valueTexts) fun value valueCarries => ?_
    apply Ensures.pure
    refine .intro (plain _ (Name.memberName_consists words ofName)) valueCarries.typeRef ?_ ?_ ?_
    · exact rules.text Fits.fixed (by decide)
    · rintro part ⟨⟩
      exact keyCarries
    · rintro part ⟨⟩
      exact valueCarries

theorem buildMember_carried {full : String} {oneofs : List Schema.Oneof} {field : Schema.Field}
    (ofTexts : ∀ text ∈ field.texts, Consists admits text) :
    Ensures (UsesConsist admits) (buildMember context scope full oneofs field) (Field.Carries P) := by
  refine Ensures.bind (buildField_carried rules words plain consists ofTexts) fun member carries => ?_
  refine Ensures.liftM fun result joined => ?_
  obtain ⟨oneof, oneofGroup, rfl⟩ := joinGroup_result joined
  cases carries with
  | intro name typeRef initial key value => exact .intro name typeRef initial key value

/-! ### Types -/

omit rules words in
theorem buildEnum_carried {enum : Enum} (ofTexts : ∀ text ∈ enum.texts, Consists admits text)
    {decl : Declaration} (built : buildEnum context scope enum = .ok decl) : decl.Carries P := by
  obtain ⟨symbol, found, rfl⟩ := buildEnum_eq_ok built
  refine .enumeration (plain _ (consists.symbol found).localPath.lastSegment) ?_
  intro member isMember
  obtain ⟨value, isValue, rfl⟩ := List.mem_map.mp isMember
  exact plain _ (ofTexts _ (List.mem_cons_of_mem _ (List.mem_map.mpr ⟨value, isValue, rfl⟩)))

omit rules words in
theorem buildScope_carried_of {enums : List Enum} {messages : List Message}
    (ofEnums : ∀ enum ∈ enums, ∀ text ∈ enum.texts, Consists admits text)
    (each : ∀ message ∈ messages, Ensures (UsesConsist admits) (buildMessage context scope message)
      fun decls => ∀ decl ∈ decls, decl.Carries P) :
    Ensures (UsesConsist admits) (buildScope context scope enums messages) fun decls =>
      ∀ decl ∈ decls, decl.Carries P := by
  rw [buildScope, buildMessages_eq]
  have enumsCarry : ∀ decls, buildEnums context scope enums = .ok decls →
      ∀ decl ∈ decls, decl.Carries P := by
    intro decls built decl member
    obtain ⟨enum, isEnum, made⟩ := exists_left_of_forall₂ ((except_mapM_eq_ok_iff _ _ _).mp built) member
    exact buildEnum_carried plain consists (ofEnums enum isEnum) made
  refine Ensures.bind (Ensures.liftM enumsCarry) fun decls ofDecls => ?_
  refine Ensures.bind (Ensures.bind (Ensures.mapM each) fun parts ofParts => Ensures.pure ?_)
    fun classes ofClasses => Ensures.pure (List.forall_mem_append.mpr ⟨ofDecls, ofClasses⟩)
  intro decl member
  obtain ⟨part, isPart, inPart⟩ := List.mem_flatten.mp member
  exact ofParts part isPart decl inPart

/-- What is built for a message of a scope carries nothing else than the texts of the scope allow. -/
theorem buildMessage_carried {enums : List Enum} {messages : List Message}
    (ofScope : ScopeConsists admits enums messages) {message : Message} (member : message ∈ messages) :
    Ensures (UsesConsist admits) (buildMessage context scope message) fun decls =>
      ∀ decl ∈ decls, decl.Carries P := by
  -- The induction is over what is nested in a message, whatever stands beside it.
  induction message using Message.nested_induction generalizing enums messages scope with
  | step message nested =>
    cases entry : message.mapEntry with
    | true =>
      rw [buildMessage_of_entry entry]
      exact Ensures.pure (by simp)
    | false =>
      have inside := ofScope.inside member
      have fieldTexts : ∀ field ∈ message.fields, ∀ text ∈ field.texts, Consists admits text := by
        intro field isField text isText
        apply ofScope.message member
        simp only [Message.texts, List.mem_cons, List.mem_append, List.mem_flatMap]
        exact .inr (.inl (.inl ⟨field, isField, isText⟩))
      have oneofNames : ∀ oneof ∈ message.oneofs, Consists admits oneof.name := by
        intro oneof isOneof
        apply ofScope.message member
        simp only [Message.texts, List.mem_cons, List.mem_append, List.mem_map]
        exact .inr (.inl (.inr ⟨oneof, isOneof, rfl⟩))
      rw [buildMessage_of_declared entry]
      refine Ensures.bind (Ensures.liftM fun _ => id) fun symbol found => ?_
      refine Ensures.bind (buildScope_carried_of plain consists inside.enums fun other isNested =>
        nested other isNested inside isNested) fun body ofBody => ?_
      refine Ensures.bind (Ensures.mapM fun field isField =>
        buildMember_carried rules words plain consists (fieldTexts field isField)) fun members carried => ?_
      apply Ensures.pure
      have ofName := plain _ (consists.symbol found).localPath.lastSegment
      have ofClass : (classOf context message (Schema.fullName scope message.name) symbol.declaredName
          members).Carries P := by
        refine ⟨ofName, plain _ consists.runtime, carried, ?_⟩
        intro oneof isGroup
        obtain ⟨group, isAt, rfl⟩ := List.mem_mapIdx.mp isGroup
        have isOneof := List.mem_of_mem_filter (List.getElem_mem isAt)
        exact plain _ (Name.memberName_consists words (oneofNames _ isOneof))
      rw [withNested]
      split
      · exact List.forall_mem_singleton.mpr (.messageClass ofClass)
      · refine List.forall_mem_cons.mpr ⟨.messageClass ofClass, ?_⟩
        exact List.forall_mem_singleton.mpr (.namespaced ofName ofBody)

end Types

end Code

/-! ### Services -/

namespace Rpc

open Code

/-- A declared name consists of admitted characters, also when it had to be numbered. -/
theorem declare_consists (words : AdmitsWords admits) {name : String} (ofName : Consists admits name)
    (key : String) : Ensures (Naming.Given (Consists admits)) (declare name key) (Consists admits) :=
  declare_ensures_given (fun pool => NamePool.claim_consists words ofName pool) key

theorem interface_consists (words : AdmitsWords admits) (shape : MethodShape) :
    Ensures (Naming.Given (Consists admits)) (declare (preferredInterfaces.get shape) "")
      (Consists admits) := by
  refine declare_consists words (words.consists ?_) _
  cases shape <;> decide

variable (words : AdmitsWords admits) (plain : ∀ text, Consists admits text → P text)
  (consists : context.Consists admits) {service : Schema.Service}

include words

theorem serverName_consists (ofName : Consists admits service.name) :
    Ensures (Naming.Given (Consists admits)) (serverName service) (Consists admits) :=
  declare_consists words (((words.consists (by decide)).append ofName).append (words.consists (by decide))) _

theorem clientName_consists (ofName : Consists admits service.name) :
    Ensures (Naming.Given (Consists admits)) (clientName service) (Consists admits) :=
  declare_consists words (ofName.append (words.consists (by decide))) _

include plain consists

theorem sharedTypes_carried (style : Style) :
    Ensures (Naming.Given (Consists admits)) (sharedTypes style context) fun decls =>
      ∀ decl ∈ decls, decl.Carries P := by
  refine (sharedTypes_ensures_of (interface_consists words) style context).imp fun decls made decl member => ?_
  cases made decl member with
  | callInterface ofName shape => exact .callInterface (plain _ ofName) (plain _ consists.rpc)

variable (ofTexts : ∀ text ∈ service.texts, Consists admits text)

include ofTexts

/-- Methods carry their names and the references to their types. -/
theorem spellMethods_carried :
    ∀ methods, spellMethods context service = .ok methods → ∀ method ∈ methods, method.Carries P := by
  intro methods spelled made member
  obtain ⟨method, isMethod, isSpelled⟩ := exists_left_of_forall₂ (spellMethods_eq_ok spelled) member
  obtain ⟨input, output, inputSpelled, outputSpelled, rfl⟩ := spellMethod_eq_ok isSpelled
  refine ⟨plain _ (ofTexts _ (List.mem_cons_of_mem _ (List.mem_map.mpr ⟨method, isMethod, rfl⟩))), ?_, ?_⟩
  · exact plain _ (consists.reference words inputSpelled).1
  · exact plain _ (consists.reference words outputSpelled).1

/-- What is made for a service carries names, types of methods and the name of the RPC framework. -/
theorem MadeFor.carried {style : Style} {decl : Declaration}
    (made : MadeFor context service (Consists admits) style decl) : decl.Carries P := by
  have ofMethods := spellMethods_carried words plain consists ofTexts
  cases made with
  | nodeServer ofName spelled => exact .nodeServer ⟨plain _ ofName, plain _ consists.rpc, ofMethods _ spelled⟩
  | nodeClient ofName spelled ofServer ofInterfaces =>
    exact .nodeClient ⟨plain _ ofName, plain _ consists.rpc, ofMethods _ spelled⟩ (plain _ ofServer)
      fun shape => plain _ (ofInterfaces shape)
  | webClient ofName spelled =>
    refine .webClient ⟨plain _ ofName, plain _ consists.rpc, ?_⟩
    exact fun method member => ofMethods _ spelled method (List.mem_of_mem_filter member)

theorem server?_carried (style : Style) :
    Ensures (Naming.Given (Consists admits)) (server? style context service) fun decl? =>
      ∀ decl ∈ decl?.toList, decl.Carries P := by
  have ofName := ofTexts _ List.mem_cons_self
  refine (server?_ensures_of (serverName_consists words ofName) style context).imp ?_
  exact fun decl? made decl member => (made decl member).carried words plain consists ofTexts

theorem client?_carried (style : Style) :
    Ensures (Naming.Given (Consists admits)) (client? style context service) fun decl? =>
      ∀ decl ∈ decl?.toList, decl.Carries P := by
  have ofName := ofTexts _ List.mem_cons_self
  refine (client?_ensures_of (interface_consists words) (serverName_consists words ofName)
    (clientName_consists words ofName) (fun _ _ given => given) style context).imp ?_
  exact fun decl? made decl member => (made decl member).carried words plain consists ofTexts

end Rpc

end Typewire
