import Mathlib.Data.List.Nodup
import Mathlib.Data.List.Perm.Basic
import Typewire.Code.MessageText
import Typewire.Proofs.Building

/-!
# Accessors of a class

A class has an accessor for each field, a getter that tells whether a field is set where this can be told, and
a getter for the case of each oneof. Fields and oneofs that have the name of a method are moved out of its way
by an underscore. Nothing looks at the other names of the message when a name is moved, or when the
getter for a field is named.

## Main result

`accessors_distinct_iff`: no accessor has the name of a method, and the accessors of a message with distinct
names are distinct exactly if no name is moved to another name and no name is that of a getter for a field.

## Proof strategy

Up to their order, the accessors are the names of fields and oneofs, each moved if need be, and the getters for
fields. Each clash is between two names of the first kind or between one of each kind.
-/
namespace Typewire

namespace Name

/-! ### Names of members -/

/-- The methods of a message class are spelled without underscores. -/
theorem not_method_of_underscore {name : String} (underscore : '_' ∈ name.toList) :
    name ∉ messageMembers := by
  have spelledWithout : ∀ word ∈ messageMembers, '_' ∉ word.toList := by decide
  exact fun isMethod => spelledWithout name isMethod underscore

theorem memberName_of_method {name : String} (isMethod : name ∈ messageMembers) :
    memberName name = name ++ "_" := by
  rw [memberName, if_pos (List.contains_iff_mem.mpr isMethod)]

theorem memberName_of_other {name : String} (isOther : name ∉ messageMembers) : memberName name = name := by
  rw [memberName, if_neg (mt List.contains_iff_mem.mp isOther)]

theorem memberName_not_method (name : String) : memberName name ∉ messageMembers := by
  by_cases isMethod : name ∈ messageMembers
  · rw [memberName_of_method isMethod]
    exact not_method_of_underscore (by simp)
  · rwa [memberName_of_other isMethod]

/-- Two names share an accessor only if one is the name of a method and the other has an underscore behind it.
-/
theorem moved_of_memberName_eq {first second : String} (same : memberName first = memberName second)
    (differ : first ≠ second) :
    (first ∈ messageMembers ∧ second = first ++ "_") ∨ (second ∈ messageMembers ∧ first = second ++ "_") := by
  -- Names that are both moved, or both left alone, stay as different as they were.
  by_cases isFirst : first ∈ messageMembers <;> by_cases isSecond : second ∈ messageMembers
  · rw [memberName_of_method isFirst, memberName_of_method isSecond] at same
    exact absurd ((String.append_left_inj _).mp same) differ
  · rw [memberName_of_method isFirst, memberName_of_other isSecond] at same
    exact .inl ⟨isFirst, same.symm⟩
  · rw [memberName_of_other isFirst, memberName_of_method isSecond] at same
    exact .inr ⟨isSecond, same⟩
  · rw [memberName_of_other isFirst, memberName_of_other isSecond] at same
    exact absurd same differ

/-- The getter that tells whether a member is set. -/
def presenceName (member : String) : String :=
  "has_" ++ member

theorem underscore_mem_presenceName (member : String) : '_' ∈ (presenceName member).toList := by
  simp [presenceName]

/-- No name is moved to that of such a getter. -/
theorem memberName_eq_presenceName_iff {name member : String} :
    memberName name = presenceName member ↔ name = presenceName member := by
  by_cases isMethod : name ∈ messageMembers
  · refine iff_of_false (fun moved => ?_) fun same => ?_
    · -- The underscore of the getter would stand inside the name of the method.
      have long : ∀ word ∈ messageMembers, 3 < word.toList.length := by decide
      rw [memberName_of_method isMethod] at moved
      have fourth := congrArg (fun text => text.toList[3]?) moved
      simp only [String.toList_append, presenceName, List.getElem?_append_left (long name isMethod)] at fourth
      exact not_method_of_underscore (List.mem_of_getElem? fourth) isMethod
    · exact not_method_of_underscore (same ▸ underscore_mem_presenceName member) isMethod
  · rw [memberName_of_other isMethod]

end Name

namespace Code

/-! ### Accessors in the text of a class -/

def Field.accessors (member : Field) : List String :=
  member.name :: if member.presence then [Name.presenceName member.name] else []

namespace MessageClass

def accessors (decl : MessageClass) : List String :=
  decl.members.flatMap Field.accessors ++ decl.oneofs.map (·.name)

def accessorBlock (decl : MessageClass) : List String :=
  decl.members.flatMap (accessorLines decl.runtime) ++ decl.oneofs.flatMap decl.caseLines

end MessageClass

def getterLine (name : String) : String :=
  s!"    get {name}() \x7b"

def opensGetter (line : String) : Bool :=
  "    get ".toList.isPrefixOf line.toList

/-- How a line begins tells whether it opens a getter. -/
theorem opensGetter_append {start : String} (long : 8 ≤ start.toList.length) (rest : String) :
    opensGetter (start ++ rest) = opensGetter start := by
  rw [opensGetter, opensGetter, String.toList_append, Bool.eq_iff_iff, List.isPrefixOf_iff_prefix,
    List.isPrefixOf_iff_prefix]
  constructor
  · intro begins
    exact List.prefix_of_prefix_length_le begins (List.prefix_append _ _) long
  · intro begins
    exact begins.trans (List.prefix_append _ _)

theorem not_opensGetter_append {start : String} (long : 8 ≤ start.toList.length)
    (other : opensGetter start = false) (rest : String) : opensGetter (start ++ rest) = false :=
  (opensGetter_append long rest).trans other

theorem opensGetter_getterLine (name : String) : opensGetter (getterLine name) = true := by
  rw [getterLine, String.append_assoc, opensGetter_append (by decide)]
  rfl

theorem getterLine_presenceName (name : String) :
    getterLine (Name.presenceName name) = s!"    get has_{name}() \x7b" := by
  have split : "    get has_" = "    get " ++ "has_" := by decide
  change "    get " ++ ("has_" ++ name) ++ "() \x7b" = "    get has_" ++ name ++ "() \x7b"
  simp only [split, String.append_assoc]

/-- The lines of a field open the getters of its accessors and no others. -/
theorem filter_accessorLines (pb : String) (field : Field) :
    (MessageClass.accessorLines pb field).filter opensGetter = field.accessors.map getterLine := by
  have opens : s!"    get {field.name}() \x7b" = getterLine field.name := rfl
  -- The other lines differ from a getter within their first eight characters.
  have closes : opensGetter "    \x7d" = false := by decide
  have returns : opensGetter s!"        return {field.getter pb};" = false := by
    rw [String.append_assoc]
    exact not_opensGetter_append (by decide) (by decide) _
  have sets : opensGetter s!"    set {field.name}(value: {field.propertyType}) \x7b" = false := by
    simp only [String.append_assoc]
    exact not_opensGetter_append (by decide) (by decide) _
  have assigns : opensGetter s!"        {field.setter pb};" = false := by
    rw [String.append_assoc]
    exact not_opensGetter_append (by decide) (by decide) _
  have tells : opensGetter s!"        return {pb}.Message.getField(this, {field.number}) != null;" = false := by
    simp only [String.append_assoc]
    exact not_opensGetter_append (by decide) (by decide) _
  rw [MessageClass.accessorLines, Field.accessors, opens, ← getterLine_presenceName]
  cases field.presence <;>
    simp only [List.filter_cons, List.filter_nil, opensGetter_getterLine, returns, closes, sets, assigns, tells,
      Bool.false_eq_true, ↓reduceIte, List.append_nil, List.map_cons, List.map_nil, List.cons_append,
      List.nil_append]

/-- Items of one line each are followed by a comma at most. -/
theorem mem_punctuate_singletons {Item : Type} {spell : Item → String} {items : List Item} {line : String}
    (member : line ∈ Text.punctuate (items.map fun item => [spell item])) :
    ∃ item ∈ items, line = spell item ∨ line = spell item ++ "," := by
  induction items with
  | nil => cases member
  | cons item items ih =>
    cases items with
    | nil => exact ⟨item, List.mem_cons_self, .inl (List.mem_singleton.mp member)⟩
    | cons next items =>
      rcases List.mem_append.mp member with here | later
      · exact ⟨item, List.mem_cons_self, .inr (List.mem_singleton.mp here)⟩
      · obtain ⟨other, isItem, shape⟩ := ih later
        exact ⟨other, List.mem_cons_of_mem _ isItem, shape⟩

theorem not_opensGetter_of_mem_caseLines (decl : MessageClass) (oneof : Oneof) :
    ∀ line ∈ (decl.caseLines oneof).tail, opensGetter line = false := by
  -- All lines but the first are indented deeper, or close the getter.
  simp only [MessageClass.caseLines, String.append_assoc, List.cons_append, List.nil_append, List.tail_cons,
    List.forall_mem_cons, List.forall_mem_append, List.not_mem_nil, false_imp_iff, implies_true, and_true]
  refine ⟨by decide, not_opensGetter_append (by decide) (by decide) _, by decide,
    not_opensGetter_append (by decide) (by decide) _, ?alternatives, by decide,
    not_opensGetter_append (by decide) (by decide) _, by decide⟩
  case alternatives =>
    intro line member
    obtain ⟨field, -, rfl | rfl⟩ := mem_punctuate_singletons member
    · exact not_opensGetter_append (by decide) (by decide) _
    · rw [String.append_assoc]
      exact not_opensGetter_append (by decide) (by decide) _

theorem filter_caseLines (decl : MessageClass) (oneof : Oneof) :
    (decl.caseLines oneof).filter opensGetter = [getterLine oneof.name] := by
  have opens : decl.caseLines oneof = getterLine oneof.name :: (decl.caseLines oneof).tail := rfl
  rw [opens, List.filter_cons_of_pos (opensGetter_getterLine _), List.filter_eq_nil_iff.mpr]
  intro line member
  rw [not_opensGetter_of_mem_caseLines decl oneof line member]
  exact Bool.false_ne_true

/-- The getters of the block are those of the accessors, in order. -/
theorem filter_accessorBlock (decl : MessageClass) :
    decl.accessorBlock.filter opensGetter = decl.accessors.map getterLine := by
  have ofMembers : ∀ members : List Field,
      (members.flatMap (MessageClass.accessorLines decl.runtime)).filter opensGetter =
        (members.flatMap Field.accessors).map getterLine := by
    intro members
    rw [List.filter_flatMap, List.map_flatMap]
    exact List.flatMap_congr fun field _ => filter_accessorLines decl.runtime field
  have ofOneofs : ∀ oneofs : List Oneof, (oneofs.flatMap decl.caseLines).filter opensGetter =
      (oneofs.map (·.name)).map getterLine := by
    intro oneofs
    rw [List.filter_flatMap, List.map_map, List.map_eq_flatMap]
    exact List.flatMap_congr fun oneof _ => filter_caseLines decl oneof
  rw [MessageClass.accessorBlock, MessageClass.accessors, List.filter_append, List.map_append, ofMembers,
    ofOneofs]

/-- The block of accessors stands in one piece in the class. -/
theorem accessorBlock_infix (decl : MessageClass) : decl.accessorBlock <:+: decl.lines := by
  refine ⟨decl.headLines ++ decl.constructorLines, decl.fromObjectLines ++ decl.toObjectLines ++
    decl.serializeLines ++ decl.deserializeLines ++ decl.binaryLines ++ ["\x7d"], ?_⟩
  simp only [MessageClass.accessorBlock, MessageClass.lines, List.append_assoc]

end Code

/-! ### Names of a message -/

namespace Schema

/-- Whether the class of the message tells if a field is set. No class tells that of a map. -/
def Field.isTracked (field : Field) : Bool :=
  field.parts?.isNone && Code.hasPresence field

namespace Message

/-- The names of the fields and of the declared oneofs. -/
def accessed (message : Message) : List String :=
  message.fields.map (·.name) ++ (Code.declaredOneofs message.oneofs).map (·.name)

def trackers (message : Message) : List String :=
  (message.fields.filter (·.isTracked)).map fun field => Name.presenceName (Name.memberName field.name)

/-- Two accessors get one name: a name that is moved and the name it is moved to, or a getter for a field and a
name that is spelled like it. -/
inductive Clash (message : Message) : Prop where
  | moved {name : String} (isMethod : name ∈ Name.messageMembers) (first : name ∈ message.accessed)
      (second : name ++ "_" ∈ message.accessed)
  | tracked {name : String} (getter : name ∈ message.trackers) (taken : name ∈ message.accessed)

variable {message : Message}

instance : Decidable message.Clash :=
  decidable_of_iff ((∃ name ∈ Name.messageMembers, name ∈ message.accessed ∧ name ++ "_" ∈ message.accessed) ∨
      ∃ name ∈ message.trackers, name ∈ message.accessed)
    ⟨fun clash => clash.elim (fun ⟨_, isMethod, first, second⟩ => .moved isMethod first second)
        fun ⟨_, getter, taken⟩ => .tracked getter taken,
      fun
        | .moved isMethod first second => .inl ⟨_, isMethod, first, second⟩
        | .tracked getter taken => .inr ⟨_, getter, taken⟩⟩

/-- Distinct names have distinct accessors unless one of them is the name of a method and another has an
underscore behind it. -/
theorem nodup_map_memberName_iff {names : List String} (distinct : names.Nodup) :
    (names.map Name.memberName).Nodup ↔ ∀ name ∈ Name.messageMembers, name ∈ names → name ++ "_" ∉ names := by
  rw [List.nodup_map_iff_inj_on distinct]
  constructor
  · intro injective name isMethod first second
    have hasUnderscore : '_' ∈ (name ++ "_").toList := by simp
    have stays : Name.memberName (name ++ "_") = name ++ "_" :=
      Name.memberName_of_other (Name.not_method_of_underscore hasUnderscore)
    have same := injective name first _ second ((Name.memberName_of_method isMethod).trans stays.symm)
    exact Name.not_method_of_underscore (same ▸ hasUnderscore) isMethod
  · intro apart first isFirst second isSecond same
    by_contra differ
    rcases Name.moved_of_memberName_eq same differ with ⟨isMethod, rfl⟩ | ⟨isMethod, rfl⟩
    · exact apart first isMethod isFirst isSecond
    · exact apart second isMethod isSecond isFirst

theorem trackers_nodup (distinct : (message.accessed.map Name.memberName).Nodup) : message.trackers.Nodup := by
  have injective : Function.Injective Name.presenceName :=
    fun first second same => (String.append_right_inj "has_").mp same
  rw [accessed, List.map_append, List.map_map] at distinct
  have ofFields : (message.fields.map fun field => Name.memberName field.name).Nodup := distinct.of_append_left
  have ofTracked := ofFields.sublist ((List.filter_sublist (p := (·.isTracked))).map _)
  have moved := ofTracked.map injective
  rwa [List.map_map] at moved

/-- A name comes out as that of a getter for a field only if it is spelled like it. -/
theorem mem_map_memberName_iff {name : String} (getter : name ∈ message.trackers) (names : List String) :
    name ∈ names.map Name.memberName ↔ name ∈ names := by
  obtain ⟨field, -, rfl⟩ := List.mem_map.mp getter
  simp only [List.mem_map, Name.memberName_eq_presenceName_iff, exists_eq_right]

/-- Accessors and presence checks are distinct exactly if there is no clash. -/
theorem nodup_moved_append_trackers_iff (distinct : message.accessed.Nodup) :
    (message.accessed.map Name.memberName ++ message.trackers).Nodup ↔ ¬ message.Clash := by
  rw [List.nodup_append']
  constructor
  · rintro ⟨apart, -, disjoint⟩ (⟨isMethod, first, second⟩ | ⟨getter, taken⟩)
    · exact (nodup_map_memberName_iff distinct).mp apart _ isMethod first second
    · -- A taken name is not moved, so it meets the getter.
      exact disjoint ((mem_map_memberName_iff getter _).mpr taken) getter
  · intro clear
    have apart : (message.accessed.map Name.memberName).Nodup :=
      (nodup_map_memberName_iff distinct).mpr fun name isMethod first second =>
        clear (.moved isMethod first second)
    refine ⟨apart, trackers_nodup apart, fun name taken getter => ?_⟩
    exact clear (.tracked getter ((mem_map_memberName_iff getter _).mp taken))

theorem not_method_of_mem_moved_append_trackers {name : String}
    (isAccessor : name ∈ message.accessed.map Name.memberName ++ message.trackers) :
    name ∉ Name.messageMembers := by
  rcases List.mem_append.mp isAccessor with isMember | isTracker
  · obtain ⟨plain, -, rfl⟩ := List.mem_map.mp isMember
    exact Name.memberName_not_method plain
  · obtain ⟨field, -, rfl⟩ := List.mem_map.mp isTracker
    exact Name.not_method_of_underscore (Name.underscore_mem_presenceName _)

end Message

end Schema

/-! ### Accessors of a message -/

namespace Code

variable {context : Context} {scope : String} {message : Schema.Message}

/-- A member gives access to a field. -/
structure Accesses (field : Schema.Field) (member : Field) : Prop where
  name : member.name = Name.memberName field.name
  presence : member.presence = field.isTracked

theorem buildMember_accesses (full : String) (oneofs : List Schema.Oneof) (field : Schema.Field) :
    Ensures (fun _ => True) (buildMember context scope full oneofs field) (Accesses field) := by
  have plain : Ensures (fun _ => True) (buildField context scope field) (Accesses field) := by
    cases parts : field.parts? with
    | none =>
      rw [buildField_of_single parts]
      refine Ensures.bind (Ensures.anything _) fun element _ => Ensures.pure ⟨rfl, ?_⟩
      rw [Schema.Field.isTracked, parts]
      rfl
    | some both =>
      rw [buildField_of_map parts]
      refine Ensures.bind (Ensures.anything _) fun key _ => Ensures.bind (Ensures.anything _) fun value _ =>
        Ensures.pure ⟨rfl, ?_⟩
      rw [Schema.Field.isTracked, parts]
      rfl
  refine Ensures.bind plain fun member accesses => Ensures.liftM fun result joined => ?_
  obtain ⟨oneof, oneofGroup, rfl⟩ := joinGroup_result joined
  exact ⟨accesses.name, accesses.presence⟩

theorem oneofGroups_names (oneofs : List Schema.Oneof) (members : List Field) :
    (oneofGroups oneofs members).map (·.name) =
      (declaredOneofs oneofs).map fun oneof => Name.memberName oneof.name := by
  refine List.ext_getElem? fun position => ?_
  rw [oneofGroups, List.getElem?_map, List.getElem?_mapIdx, List.getElem?_map, Option.map_map]
  rfl

/-- The accessors of the members are those of the fields and the presence checks of the tracked ones, in
another order. -/
theorem memberAccessors_perm {fields : List Schema.Field} {members : List Field}
    (accessed : List.Forall₂ Accesses fields members) :
    (members.flatMap Field.accessors).Perm
      (fields.map (fun field => Name.memberName field.name) ++
        (fields.filter (·.isTracked)).map fun field => Name.presenceName (Name.memberName field.name)) := by
  induction accessed with
  | nil => exact .nil
  | @cons field member fields members here _ ih =>
    rw [List.flatMap_cons, Field.accessors, here.name, here.presence, List.map_cons, List.cons_append,
      List.cons_append]
    refine List.Perm.cons _ ?_
    cases tracked : field.isTracked with
    | false =>
      rw [List.filter_cons_of_neg (by rw [tracked]; exact Bool.false_ne_true)]
      exact ih
    | true =>
      -- The getter of the first field comes behind the names of the others.
      rw [List.filter_cons_of_pos tracked, List.map_cons]
      exact (List.Perm.cons _ ih).trans List.perm_middle.symm

/-- Up to their order, the accessors of a class are the names of the message, moved, and the getters for its
fields. -/
theorem accessors_perm {decl : MessageClass} (accessed : List.Forall₂ Accesses message.fields decl.members)
    (oneofs : decl.oneofs = oneofGroups message.oneofs decl.members) :
    decl.accessors.Perm (message.accessed.map Name.memberName ++ message.trackers) := by
  rw [MessageClass.accessors, oneofs, oneofGroups_names, Schema.Message.accessed, List.map_append, List.map_map,
    List.map_map, List.append_assoc]
  refine (List.Perm.append_right _ (memberAccessors_perm accessed)).trans ?_
  rw [List.append_assoc]
  exact List.Perm.append_left _ List.perm_append_comm

/-- The class of a message has the accessors that its fields and oneofs ask for. -/
theorem buildMessage_accesses (declared : message.mapEntry = false) :
    Ensures (fun _ => True) (buildMessage context scope message) fun decls =>
      ∃ decl nested, decls = .messageClass decl :: nested ∧
        decl.accessors.Perm (message.accessed.map Name.memberName ++ message.trackers) := by
  rw [buildMessage_of_declared declared]
  refine Ensures.bind (Ensures.anything _) fun symbol _ => ?_
  refine Ensures.bind (Ensures.anything _) fun nested _ => ?_
  refine Ensures.bind (Ensures.mapM_forall₂ fun field _ => buildMember_accesses _ _ field)
    fun members accessed => Ensures.pure ?_
  rw [withNested]
  split
  · exact ⟨_, [], rfl, accessors_perm accessed rfl⟩
  · exact ⟨_, _, rfl, accessors_perm accessed rfl⟩

/-- A message becomes nothing if it is a map entry, and otherwise a class. The class has no accessor with the
name of a method, and its accessors are distinct exactly if the message has no clash. -/
theorem accessors_distinct_iff (context : Context) (scope : String) {message : Schema.Message}
    (distinct : message.accessed.Nodup) {before after : RootUses} {decls : List Declaration}
    (built : (buildMessage context scope message).run before = (.ok decls, after)) :
    (message.mapEntry = true ∧ decls = []) ∨
      ∃ decl nested, decls = .messageClass decl :: nested ∧
        decl.accessorBlock <:+: decl.lines ∧
        decl.accessorBlock.filter opensGetter = decl.accessors.map getterLine ∧
        (∀ name ∈ decl.accessors, name ∉ Name.messageMembers) ∧
        (decl.accessors.Nodup ↔ ¬ message.Clash) := by
  cases entry : message.mapEntry with
  | true =>
    rw [buildMessage_of_entry entry] at built
    cases built
    exact .inl ⟨rfl, rfl⟩
  | false =>
    -- The order of accessors matters neither for their being distinct nor for which there are.
    obtain ⟨-, decl, nested, rfl, perm⟩ := buildMessage_accesses entry before decls after trivial built
    refine .inr ⟨decl, nested, rfl, accessorBlock_infix decl, filter_accessorBlock decl, ?_, ?_⟩
    · intro name isAccessor
      exact Schema.Message.not_method_of_mem_moved_append_trackers (perm.mem_iff.mp isAccessor)
    · rw [perm.nodup_iff]
      exact Schema.Message.nodup_moved_append_trackers_iff distinct

/-- The context of a file that declares one message. -/
def seaContext (message : Schema.Message) : Context :=
  let file : Schema.File := { name := "sea.proto", messages := [message] }
  let symbols := SymbolTable.ofFiles [file]
  { file, symbols, imports := (Imports.resolve symbols file).toOption.getD default, wraps := fun _ => false }

/-- Two names that are moved, and a field that is named like the getter for a field without one. -/
def buoy : Schema.Message :=
  { name := "Buoy"
    oneofs := [{ name := "_has_light", synthetic := true }, { name := "constructor" }]
    fields :=
      [{ name := "serialize", number := 1, cardinality := .singular, kind := .bytes },
       { name := "light", number := 2, cardinality := .singular, kind := .bool },
       { name := "has_light", number := 3, cardinality := .singular, kind := .bool
         isOptional := true, oneofIndex := some 0 },
       { name := "bell", number := 4, cardinality := .oneof, kind := .string, oneofIndex := some 1 }] }

theorem accessors_distinct_iff_for_buoy :
    buoy.accessed.Nodup ∧ ¬ buoy.Clash ∧
      ∃ decl nested after, (buildMessage (seaContext buoy) "" buoy).run [] =
          (.ok (.messageClass decl :: nested), after) ∧
        decl.accessorBlock <:+: decl.lines ∧
        decl.accessorBlock.filter opensGetter = decl.accessors.map getterLine ∧
        (∀ name ∈ decl.accessors, name ∉ Name.messageMembers) ∧
        decl.accessors.Nodup := by
  have distinct : buoy.accessed.Nodup := by decide
  have clear : ¬ buoy.Clash := by decide
  obtain ⟨decls, built⟩ := exists_ok_of_isOk (by decide +kernel :
    ((buildMessage (seaContext buoy) "" buoy).run []).1.isOk = true)
  rcases accessors_distinct_iff (seaContext buoy) "" distinct (Prod.ext built rfl) with
    ⟨entry, -⟩ | ⟨decl, nested, rfl, inside, getters, noMethod, apart⟩
  · cases entry
  · exact ⟨distinct, clear, decl, nested, _, Prod.ext built rfl, inside, getters, noMethod, apart.mpr clear⟩

/-- A name that is moved to another one, and a field that is named like the getter for a field. -/
def wreck : Schema.Message :=
  { name := "Wreck"
    oneofs := [{ name := "_depth", synthetic := true }]
    fields :=
      [{ name := "serialize", number := 1, cardinality := .singular, kind := .bytes },
       { name := "serialize_", number := 2, cardinality := .singular, kind := .bytes },
       { name := "depth", number := 3, cardinality := .singular, kind := .double
         isOptional := true, oneofIndex := some 0 },
       { name := "has_depth", number := 4, cardinality := .singular, kind := .bool }] }

/-- The names of a message are distinct, and two pairs of accessors of its class are not. -/
theorem wreck_accessors_clash :
    (wreck.fields.map (·.name) ++ wreck.oneofs.map (·.name)).Nodup ∧
      ∃ decl nested after, (buildMessage (seaContext wreck) "" wreck).run [] =
          (.ok (.messageClass decl :: nested), after) ∧
        decl.accessors.count "serialize_" = 2 ∧ decl.accessors.count "has_depth" = 2 := by
  obtain ⟨decls, built⟩ := exists_ok_of_isOk (by decide +kernel :
    ((buildMessage (seaContext wreck) "" wreck).run []).1.isOk = true)
  obtain ⟨-, decl, nested, rfl, perm⟩ := buildMessage_accesses rfl [] decls _ trivial (Prod.ext built rfl)
  refine ⟨by decide, decl, nested, _, Prod.ext built rfl, ?_, ?_⟩
  · rw [perm.count_eq]
    decide
  · rw [perm.count_eq]
    decide

end Code

end Typewire
