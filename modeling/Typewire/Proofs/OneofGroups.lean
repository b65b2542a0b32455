import Typewire.Proofs.Building
import Typewire.Proofs.LoadedPlaces
import Typewire.Wire.Encode

/-!
# Fields and oneofs are partitioned without loss

A message lists its fields and its oneofs, and a field tells the oneof that it takes part in by an index. Some
oneofs are synthetic: they only hold fields marked optional. These drop out of the class, so the oneofs that
stay are numbered anew, and each member of the class carries the new number of its group.

## Main result

`members_partitioned_by_oneofs`: in a class that was built, every field has one member and one row of the
table. The groups are the oneofs that are not synthetic, and each has exactly the members of the fields that
take part in it. A member outside all groups is listed as a plain field; any other is an alternative of one
group, the one whose position it carries. If a field takes part in a oneof that is not declared, there is no
class.

## Proof strategy

Whether a oneof is synthetic is decided from the descriptor, and its group from how many oneofs before it are
not. `Placed` says where one field ends up in these terms; the rest follows from it field by field.
-/
namespace Typewire

/-- An element that a filter keeps stands behind those of the elements before it that are kept. -/
theorem getElem?_filter_of_kept {α : Type} {p : α → Bool} {xs : List α} {position : Nat} {x : α}
    (isAt : xs[position]? = some x) (kept : p x = true) :
    (xs.filter p)[((xs.take position).filter p).length]? = some x := by
  obtain ⟨bound, isElement⟩ := List.getElem?_eq_some_iff.mp isAt
  have split : xs = xs.take position ++ x :: xs.drop (position + 1) := by
    rw [← isElement, ← List.drop_eq_getElem_cons bound, List.take_append_drop]
  have keptSplit : xs.filter p = (xs.take position).filter p ++ x :: (xs.drop (position + 1)).filter p := by
    rw [← List.filter_cons_of_pos kept, ← List.filter_append, ← split]
  rw [keptSplit]
  simp

/-- Filters that agree element by element keep the same positions. -/
theorem positions_eq_of_forall₂ {α β : Type} {R : α → β → Prop} {xs : List α} {ys : List β}
    (related : List.Forall₂ R xs ys) {p : α → Bool} {q : β → Bool} (agree : ∀ x y, R x y → p x = q y)
    (start : Nat) :
    ((xs.zipIdx start).filter fun entry => p entry.1).map Prod.snd =
      ((ys.zipIdx start).filter fun entry => q entry.1).map Prod.snd := by
  induction related generalizing start with
  | nil => rfl
  | @cons x y xs ys here _ ih =>
    simp only [List.zipIdx_cons, List.filter_cons, agree x y here]
    split
    · rw [List.map_cons, List.map_cons, ih]
    · exact ih (start + 1)

/-! ### Oneofs of descriptors -/

namespace Descriptor

open Wire (Bytes)

/-- A field takes part in the oneof at its index, unless it is marked optional. -/
def Field.TakesPartIn (field : Field) (index : Nat) : Prop :=
  field.oneofIndex = some (index : Int) ∧ field.isOptional = false

instance (field : Field) (index : Nat) : Decidable (field.TakesPartIn index) :=
  instDecidableAnd

namespace Message

variable (message : Message)

/-- A oneof is synthetic if fields refer to it and all of them are marked optional. -/
def IsSynthetic (index : Nat) : Prop :=
  (∃ field ∈ message.fields, field.oneofIndex = some (index : Int)) ∧
    ∀ field ∈ message.fields, field.oneofIndex = some (index : Int) → field.isOptional = true

instance (index : Nat) : Decidable (message.IsSynthetic index) :=
  instDecidableAnd

/-- A field belongs to a oneof that the message does not declare. -/
structure IsStray (field : Field) (index : Int) : Prop where
  isField : field ∈ message.fields
  notOptional : field.isOptional = false
  joins : field.oneofIndex = some index
  outside : index < 0 ∨ (message.oneofs.length : Int) ≤ index

/-- The oneofs that are not synthetic, each with its index. -/
def declaredOneofs : List (Bytes × Nat) :=
  message.oneofs.zipIdx.filter fun entry => ¬ message.IsSynthetic entry.2

/-- The positions of the fields that take part in a oneof. -/
def positionsOf (index : Nat) : List Nat :=
  (message.fields.zipIdx.filter fun entry => entry.1.TakesPartIn index).map Prod.snd

variable {message}

theorem mem_positionsOf {index position : Nat} :
    position ∈ message.positionsOf index ↔
      ∃ field, message.fields[position]? = some field ∧ field.TakesPartIn index := by
  simp only [positionsOf, List.mem_map, List.mem_filter, decide_eq_true_eq, Prod.exists]
  constructor
  · rintro ⟨field, _, ⟨listed, takesPart⟩, rfl⟩
    exact ⟨field, List.mk_mem_zipIdx_iff_getElem?.mp listed, takesPart⟩
  · rintro ⟨field, isAt, takesPart⟩
    exact ⟨field, position, ⟨List.mk_mem_zipIdx_iff_getElem?.mpr isAt, takesPart⟩, rfl⟩

/-- Different groups come from different oneofs. -/
theorem declaredOneofs_inj {first second index : Nat} {name other : Bytes}
    (isFirst : message.declaredOneofs[first]? = some (name, index))
    (isSecond : message.declaredOneofs[second]? = some (other, index)) : first = second := by
  -- The indices are those of all oneofs with some left out, so they stay different.
  have distinct : (message.declaredOneofs.map Prod.snd).Nodup := by
    have sublist : (message.declaredOneofs.map Prod.snd).Sublist (message.oneofs.zipIdx.map Prod.snd) :=
      List.filter_sublist.map _
    rw [List.zipIdx_map_snd] at sublist
    exact sublist.nodup List.nodup_range'
  have bound : first < (message.declaredOneofs.map Prod.snd).length := by
    rw [List.length_map]
    exact (List.getElem?_eq_some_iff.mp isFirst).1
  refine (List.getElem?_inj bound distinct).mp ?_
  rw [List.getElem?_map, List.getElem?_map, isFirst, isSecond]
  rfl

/-- A oneof that is not synthetic has as many groups before it as there are such oneofs before it. -/
theorem declaredOneofs_at {index : Nat} {name : Bytes} (isOneof : message.oneofs[index]? = some name)
    (declared : ¬ message.IsSynthetic index) :
    message.declaredOneofs[((message.oneofs.zipIdx.take index).filter
      fun entry => ¬ message.IsSynthetic entry.2).length]? = some (name, index) := by
  refine getElem?_filter_of_kept ?_ (by simpa using declared)
  rw [List.getElem?_zipIdx, isOneof]
  simp

end Message

end Descriptor

/-! ### Oneofs that were loaded -/

namespace Schema

/-- A oneof as its entry in a message describes it. -/
def Oneof.described (source : Descriptor.Message) (entry : Wire.Bytes × Nat) : Oneof :=
  { name := textOf entry.1, synthetic := source.IsSynthetic entry.2 }

/-- Loaded oneofs are as their message describes them, in order. -/
theorem loadOneofs_eq_ok {source : Descriptor.Message} {oneofs : List Oneof}
    (loaded : loadOneofs source.oneofs source.fields = .ok oneofs) :
    oneofs = source.oneofs.zipIdx.map (Oneof.described source) := by
  refine eq_map_of_forall₂ ((except_mapM_eq_ok_iff _ _ _).mp loaded) fun entry oneof made => ?_
  obtain ⟨name, isName, last⟩ := except_bind_eq_ok made
  cases last
  rw [Oneof.described, ← text_eq_ok isName, Oneof.mk.injEq]
  refine ⟨rfl, Bool.eq_iff_iff.mpr (Iff.trans ?_ decide_eq_true_iff.symm)⟩
  simp [Descriptor.Message.IsSynthetic, List.filter_eq_nil_iff, imp_iff_not_or]

/-- A field takes part in the oneof that it names, unless it is marked optional. -/
theorem Field.oneofOf_eq_some {field : Descriptor.Field} {index : Int} :
    Field.oneofOf field = some index ↔ field.oneofIndex = some index ∧ field.isOptional = false := by
  rw [Field.oneofOf]
  cases field.isOptional with
  | true => simp
  | false => simp

theorem IsMember.eq_of_source {dialect : Dialect} {features : Descriptor.Features} {full : String}
    {nested : List Descriptor.Message} {source : Descriptor.Field} {field : Field}
    (isMember : IsMember dialect features full nested source field) :
    field.name = textOf source.name ∧ field.number = source.number ∧ field.kind = source.kind ∧
      field.oneofIndex = Field.oneofOf source := by
  cases isMember with
  | single _ loaded =>
    rw [Field.load_eq_ok loaded]
    exact ⟨rfl, rfl, rfl, rfl⟩
  | map _ _ loaded _ _ whole =>
    rw [whole, Field.load_eq_ok loaded]
    exact ⟨rfl, rfl, rfl, rfl⟩

def Field.ungrouped (field : Field) : Field :=
  { field with oneofIndex := none }

def Message.withoutOneofs (message : Message) : Message :=
  { message with fields := message.fields.map Field.ungrouped, oneofs := [] }

end Schema

/-! ### Members of groups -/

namespace Code

open Schema (textOf)

theorem declaredOneofs_described (source : Descriptor.Message) (entries : List (Wire.Bytes × Nat)) :
    declaredOneofs (entries.map (Schema.Oneof.described source)) =
      (entries.filter fun entry => ¬ source.IsSynthetic entry.2).map (Schema.Oneof.described source) := by
  rw [declaredOneofs, List.filter_map]
  congr 2
  funext entry
  simp [Schema.Oneof.described]

/-- A oneof that is not synthetic becomes the group at the position that it has among such oneofs. -/
theorem groupOf?_described {source : Descriptor.Message} {index : Nat} {name : Wire.Bytes}
    (isOneof : source.oneofs[index]? = some name) (declared : ¬ source.IsSynthetic index) :
    ∃ group, groupOf? (source.oneofs.zipIdx.map (Schema.Oneof.described source)) index =
        some (group, Schema.Oneof.described source (name, index)) ∧
      source.declaredOneofs[group]? = some (name, index) := by
  refine ⟨_, ?_, Descriptor.Message.declaredOneofs_at isOneof declared⟩
  have isAt : (source.oneofs.zipIdx.map (Schema.Oneof.described source))[index]? =
      some (Schema.Oneof.described source (name, index)) := by
    simp [isOneof]
  have notSynthetic : (Schema.Oneof.described source (name, index)).synthetic = false := by
    simpa [Schema.Oneof.described] using declared
  rw [groupOf?, isAt]
  dsimp only
  -- The groups are counted among the loaded oneofs, which are synthetic where those of the descriptor are.
  rw [notSynthetic, ← List.map_take, declaredOneofs_described, List.length_map]
  rfl

/-- Where a field of a message ends up in its class: outside all groups, or in the group of the oneof that
it takes part in. -/
structure Placed (source : Descriptor.Message) (field : Descriptor.Field) (member : Field) : Prop where
  number : member.number = field.number
  kind : member.kind = field.kind
  outside : (∀ index, ¬ field.TakesPartIn index) → member.oneof = none ∧ member.oneofGroup = none
  inside : ∀ index, field.TakesPartIn index → ∃ (group : Nat) (name : Wire.Bytes),
    source.declaredOneofs[group]? = some (name, index) ∧
      member.oneof = some (Name.memberName (textOf name)) ∧ member.oneofGroup = some (group : Int)

variable (context : Context)

/-- A field is built outside all groups and joins its own afterwards. -/
theorem buildField_ungrouped (scope : String) (field : Schema.Field) :
    Ensures (fun _ => True) (buildField context scope field) fun member =>
      member.number = field.number ∧ member.kind = field.kind ∧ member.oneof = none ∧
        member.oneofGroup = none := by
  cases parts : field.parts? with
  | none =>
    rw [buildField_of_single parts]
    exact Ensures.bind (Ensures.anything _) fun element _ => Ensures.pure ⟨rfl, rfl, rfl, rfl⟩
  | some both =>
    rw [buildField_of_map parts]
    exact Ensures.bind (Ensures.anything _) fun key _ =>
      Ensures.bind (Ensures.anything _) fun value _ => Ensures.pure ⟨rfl, rfl, rfl, rfl⟩

theorem joinGroup_placed {source : Descriptor.Message} {full : String} {field : Descriptor.Field}
    (isField : field ∈ source.fields) {loaded : Schema.Field}
    (sameIndex : loaded.oneofIndex = Schema.Field.oneofOf field) {member result : Field}
    (number : member.number = field.number) (kind : member.kind = field.kind)
    (noName : member.oneof = none) (noGroup : member.oneofGroup = none)
    (joined : joinGroup full (source.oneofs.zipIdx.map (Schema.Oneof.described source)) loaded member =
      .ok result) : Placed source field result := by
  rw [joinGroup, sameIndex, List.length_map, List.length_zipIdx] at joined
  cases isIndex : Schema.Field.oneofOf field with
  | none =>
    have takesPartInNone : ∀ index, ¬ field.TakesPartIn index := fun index takesPart => by
      rw [Schema.Field.oneofOf_eq_some.mpr takesPart] at isIndex
      cases isIndex
    rw [isIndex] at joined
    cases joined
    exact ⟨number, kind, fun _ => ⟨noName, noGroup⟩, fun index joins => (takesPartInNone index joins).elim⟩
  | some index =>
    obtain ⟨joins, notOptional⟩ := Schema.Field.oneofOf_eq_some.mp isIndex
    rw [isIndex] at joined
    dsimp only at joined
    split at joined
    next => cases joined
    next inRange =>
      obtain ⟨position, rfl⟩ : ∃ position : Nat, index = position := ⟨index.toNat, by omega⟩
      have bound : position < source.oneofs.length := by omega
      -- The field itself keeps its oneof from being synthetic.
      have declared : ¬ source.IsSynthetic position := fun synthetic => by
        rw [synthetic.2 field isField joins] at notOptional
        cases notOptional
      obtain ⟨group, isGroup, isAt⟩ := groupOf?_described (List.getElem?_eq_getElem bound) declared
      rw [Int.toNat_natCast, isGroup] at joined
      cases joined
      refine ⟨number, kind, fun outside => (outside position ⟨joins, notOptional⟩).elim,
        fun other takesPart => ?_⟩
      have same : other = position := by
        have both := Option.some.inj (takesPart.1.symm.trans joins)
        omega
      exact ⟨group, _, same ▸ isAt, rfl, rfl⟩

/-- A member stands in the group of its oneof, and in none if it takes part in none. -/
theorem buildMember_placed {source : Descriptor.Message} {field : Descriptor.Field}
    (isField : field ∈ source.fields) {dialect : Schema.Dialect} {features : Descriptor.Features}
    {path : String} {loaded : Schema.Field}
    (isMember : Schema.IsMember dialect features path source.nested field loaded) (scope full : String) :
    Ensures (fun _ => True) (buildMember context scope full
      (source.oneofs.zipIdx.map (Schema.Oneof.described source)) loaded) (Placed source field) := by
  obtain ⟨_, sameNumber, sameKind, sameIndex⟩ := isMember.eq_of_source
  refine Ensures.bind (buildField_ungrouped context scope loaded) fun member ungrouped => Ensures.liftM ?_
  obtain ⟨number, kind, noName, noGroup⟩ := ungrouped
  exact fun result joined => joinGroup_placed isField sameIndex (number.trans sameNumber)
    (kind.trans sameKind) noName noGroup joined

/-! ### Groups of a class -/

/-- The group that a oneof of a message becomes: its alternatives are the fields that take part in it. -/
def groupFor (source : Descriptor.Message) (entry : Wire.Bytes × Nat) : Oneof :=
  { name := Name.memberName (textOf entry.1), alternatives := source.positionsOf entry.2 }

section Groups

variable {source : Descriptor.Message} {members : List Field}

/-- A member carries the position of a group exactly if its field takes part in the oneof of the group. -/
theorem Placed.oneofGroup_iff {field : Descriptor.Field} {member : Field}
    (placed : Placed source field member) {group index : Nat} {name : Wire.Bytes}
    (isGroup : source.declaredOneofs[group]? = some (name, index)) :
    member.oneofGroup = some (group : Int) ↔ field.TakesPartIn index := by
  constructor
  · intro inGroup
    by_cases takesPart : ∃ other, field.TakesPartIn other
    · obtain ⟨other, joins⟩ := takesPart
      obtain ⟨position, otherName, isAt, _, carried⟩ := placed.inside other joins
      obtain rfl : group = position := by
        have both := Option.some.inj (inGroup.symm.trans carried)
        omega
      cases Option.some.inj (isAt.symm.trans isGroup)
      exact joins
    · rw [(placed.outside fun other joins => takesPart ⟨other, joins⟩).2] at inGroup
      cases inGroup
  · intro joins
    obtain ⟨position, otherName, isAt, _, carried⟩ := placed.inside index joins
    rw [carried, Descriptor.Message.declaredOneofs_inj isAt isGroup]

/-- The groups of a class are those of the oneofs that are not synthetic. -/
theorem oneofGroups_described (placed : List.Forall₂ (Placed source) source.fields members) :
    oneofGroups (source.oneofs.zipIdx.map (Schema.Oneof.described source)) members =
      source.declaredOneofs.map (groupFor source) := by
  rw [oneofGroups, declaredOneofs_described]
  -- Position by position, since the members know their group by its position.
  refine List.ext_getElem? fun group => ?_
  rw [List.getElem?_mapIdx, List.getElem?_map, List.getElem?_map]
  change Option.map _ (Option.map _ source.declaredOneofs[group]?) = _
  cases isGroup : source.declaredOneofs[group]? with
  | none => rfl
  | some entry =>
    have samePositions : membersOf members group = source.positionsOf entry.2 := by
      refine (positions_eq_of_forall₂ placed (p := fun field => field.TakesPartIn entry.2)
        (q := fun member => member.oneofGroup == some (group : Int)) ?_ 0).symm
      intro field member isPlaced
      exact Bool.eq_iff_iff.mpr (by simpa using (isPlaced.oneofGroup_iff isGroup).symm)
    simp [samePositions, Schema.Oneof.described, groupFor]

/-- A member outside all groups: it names no oneof, is listed as a plain field and is no alternative. -/
structure IsPlainAt (decl : MessageClass) (position : Nat) (member : Field) : Prop where
  unnamed : member.oneof = none
  listed : member ∈ decl.plainFields
  apart : ∀ oneof ∈ decl.oneofs, position ∉ oneof.alternatives

/-- A member of a group: it carries the position and the name of the group, is listed as an alternative of
this group and of no other, and the numbers of the group contain its number. -/
structure IsAlternativeAt (decl : MessageClass) (group position : Nat) (oneof : Oneof) (member : Field) :
    Prop where
  isGroup : decl.oneofs[group]? = some oneof
  carried : member.oneofGroup = some (group : Int)
  named : member.oneof = some oneof.name
  listed : (position, member) ∈ decl.alternatives oneof
  alone : ∀ other alternative, decl.oneofs[other]? = some alternative →
    (position ∈ alternative.alternatives ↔ other = group)
  numbered : ∃ numbers, decl.oneofNumbers[group]? = some numbers ∧ member.number ∈ numbers

/-- The fields and the oneofs of a message are partitioned by its class without loss. -/
structure Partitions (source : Descriptor.Message) (decl : MessageClass) : Prop where
  members : List.Forall₂ (fun field member => member.number = field.number ∧ member.kind = field.kind)
    source.fields decl.members
  table : List.Forall₂ (fun field row => row.number = field.number ∧ row.kind = field.kind)
    source.fields decl.fieldTable
  oneofs : decl.oneofs = source.declaredOneofs.map (groupFor source)
  places : ∀ position member, decl.members[position]? = some member →
    IsPlainAt decl position member ∨ ∃ group oneof, IsAlternativeAt decl group position oneof member

theorem MessageClass.mem_alternatives {decl : MessageClass} {oneof : Oneof} {position : Nat} {member : Field}
    (isMember : decl.members[position]? = some member) (alternative : position ∈ oneof.alternatives) :
    (position, member) ∈ decl.alternatives oneof := by
  refine List.mem_filterMap.mpr ⟨position, alternative, ?_⟩
  rw [isMember, Option.map_some]

/-- A class partitions a message as soon as each field is placed. -/
theorem partitions_of_placed {decl : MessageClass}
    (placed : List.Forall₂ (Placed source) source.fields decl.members)
    (oneofs : decl.oneofs = source.declaredOneofs.map (groupFor source)) :
    Partitions source decl where
  members := placed.imp fun field member isPlaced => ⟨isPlaced.number, isPlaced.kind⟩
  table := by
    rw [MessageClass.fieldTable, List.forall₂_map_right_iff]
    exact placed.imp fun field member isPlaced => ⟨isPlaced.number, isPlaced.kind⟩
  oneofs := oneofs
  places := by
    intro position member isMember
    obtain ⟨field, isField, isPlaced⟩ := getElem?_of_forall₂ placed.flip isMember
    -- Which groups the member is an alternative of is what its field takes part in.
    have isAlternative : ∀ index, position ∈ source.positionsOf index ↔ field.TakesPartIn index := by
      intro index
      rw [Descriptor.Message.mem_positionsOf, isField]
      simp
    by_cases takesPart : ∃ index, field.TakesPartIn index
    · obtain ⟨index, joins⟩ := takesPart
      obtain ⟨group, name, isAt, named, carried⟩ := isPlaced.inside index joins
      have isGroup : decl.oneofs[group]? = some (groupFor source (name, index)) := by
        rw [oneofs, List.getElem?_map, isAt, Option.map_some]
      have listed : (position, member) ∈ decl.alternatives (groupFor source (name, index)) :=
        MessageClass.mem_alternatives isMember ((isAlternative index).mpr joins)
      refine .inr ⟨group, _, isGroup, carried, named, listed, ?_, ?_⟩
      · intro other alternative isOther
        rw [oneofs, List.getElem?_map] at isOther
        obtain ⟨entry, isEntry, rfl⟩ := Option.map_eq_some_iff.mp isOther
        rw [groupFor, isAlternative, ← isPlaced.oneofGroup_iff isEntry, carried, Option.some.injEq]
        omega
      · refine ⟨_, by rw [MessageClass.oneofNumbers, List.getElem?_map, isGroup, Option.map_some], ?_⟩
        exact List.mem_map.mpr ⟨(position, member), listed, rfl⟩
    · have outside : ∀ index, ¬ field.TakesPartIn index := fun index joins => takesPart ⟨index, joins⟩
      obtain ⟨unnamed, _⟩ := isPlaced.outside outside
      refine .inl ⟨unnamed, ?_, ?_⟩
      · exact List.mem_filter.mpr ⟨List.mem_of_getElem? isMember, by rw [unnamed]; rfl⟩
      · intro oneof isOneof
        rw [oneofs] at isOneof
        obtain ⟨entry, _, rfl⟩ := List.mem_map.mp isOneof
        exact fun alternative => outside entry.2 ((isAlternative entry.2).mp alternative)

end Groups

/-- What is built of a loaded message that is no map entry starts with a class that partitions it. -/
theorem buildMessage_partitions {source : Descriptor.Message} (declared : source.mapEntry = false)
    {dialect : Schema.Dialect} {outer : Descriptor.Features} {path : String} {message : Schema.Message}
    (loaded : Schema.Message.LoadedFrom dialect outer path source message) (scope : String) :
    Ensures (fun _ => True) (buildMessage context scope message) fun decls =>
      ∃ decl nested, decls = .messageClass decl :: nested ∧ Partitions source decl := by
  have sameOneofs := Schema.loadOneofs_eq_ok loaded.oneofs
  -- The symbol and the nested types have no part in it; all that counts is where the members go.
  rw [buildMessage_of_declared (loaded.mapEntry.trans declared)]
  refine Ensures.bind (Ensures.anything _) fun symbol _ => ?_
  refine Ensures.bind (Ensures.anything _) fun nested _ => ?_
  refine Ensures.bind (P := List.Forall₂ (Placed source) source.fields) ?_ fun members placed => ?_
  · rw [sameOneofs]
    exact Ensures.mapM_of_forall₂ loaded.members fun field isField member isMember =>
      buildMember_placed context isField isMember scope _
  · apply Ensures.pure
    have oneofs := oneofGroups_described placed
    rw [← sameOneofs] at oneofs
    rw [withNested]
    split
    · exact ⟨_, [], rfl, partitions_of_placed placed oneofs⟩
    · exact ⟨_, _, rfl, partitions_of_placed placed oneofs⟩

/-! ### Fields of undeclared oneofs -/

/-- A failure for which the schema is to blame, or a second name that the context lacks. -/
def IsLookupFault (error : Error) : Prop :=
  error.category = .schema ∨
    ∃ root, context.imports.roots.get? root = none ∧ error = .missingRootAlias root

theorem symbol_isLookupFault (typeName : String) :
    FailsOnly (IsLookupFault context) (context.symbol typeName) := by
  intro failure failed
  rcases Context.symbol_eq_error failed with ⟨_, rfl⟩ | ⟨_, _, _, rfl⟩
  · exact .inl rfl
  · exact .inl rfl

theorem lookupFails (scope : String) : LookupFails context scope (IsLookupFault context) where
  symbol := symbol_isLookupFault context
  reference := by
    intro typeName failure failed
    rcases Context.reference_eq_error failed with
      missing | ⟨_, _, ⟨_, _, unnamed, rfl⟩ | ⟨_, _, rfl⟩⟩
    · exact symbol_isLookupFault context typeName _ missing
    · exact .inr ⟨_, unnamed, rfl⟩
    · exact .inl rfl
  untyped := fun _ _ => .inl rfl

theorem buildMessage_isLookupFault (message : Schema.Message) :
    ∀ scope, OnlyFails (IsLookupFault context) (buildMessage context scope message) := by
  induction message using Schema.Message.nested_induction with
  | step message ofNested =>
    -- Nested messages are built in the scope of the message, so the induction is for all scopes.
    intro scope
    cases entry : message.mapEntry with
    | true =>
      rw [buildMessage_of_entry entry]
      exact OnlyFails.pure _
    | false =>
      rw [buildMessage_of_declared entry, buildScope, buildMessages_eq]
      refine OnlyFails.bind (OnlyFails.liftM (symbol_isLookupFault context _)) fun symbol => ?_
      refine OnlyFails.bind (OnlyFails.bind ?_ fun _ => OnlyFails.bind (OnlyFails.bind (OnlyFails.mapM
        fun inner isInner => ofNested inner isInner _) fun _ => OnlyFails.pure _) fun _ =>
          OnlyFails.pure _) fun _ => OnlyFails.bind ?_ fun _ => OnlyFails.pure _
      · refine OnlyFails.liftM (FailsOnly.mapM fun enum _ => ?_)
        exact FailsOnly.bind (symbol_isLookupFault context _) fun _ _ => FailsOnly.pure _
      · refine OnlyFails.mapM fun field _ => OnlyFails.bind ((lookupFails context scope).buildField field)
          fun _ => OnlyFails.liftM fun failure failed => ?_
        obtain ⟨index, _, _, rfl⟩ := joinGroup_eq_error.mp failed
        exact .inl rfl

theorem buildField_of_ungrouped (scope : String) (field : Schema.Field) :
    buildField context scope field.ungrouped = buildField context scope field := by
  have sameParts : field.ungrouped.parts? = field.parts? := rfl
  cases parts : field.parts? with
  | none =>
    rw [buildField_of_single parts, buildField_of_single (sameParts.trans parts)]
    rfl
  | some both =>
    rw [buildField_of_map parts, buildField_of_map (sameParts.trans parts)]
    rfl

/-- A field belongs to none of the oneofs, though it gives an index. -/
def OutOfRange (oneofs : List Schema.Oneof) (field : Schema.Field) (index : Int) : Prop :=
  field.oneofIndex = some index ∧ (index < 0 ∨ (oneofs.length : Int) ≤ index)

/-- Where a field is out of range, the members are refused: because of such a field, or because they are
refused without their oneofs as well. -/
theorem members_refused (scope full : String) {oneofs : List Schema.Oneof} {fields : List Schema.Field}
    (stray : ∃ field ∈ fields, ∃ index, OutOfRange oneofs field index) (before : RootUses) :
    ∃ error after, (fields.mapM (buildMember context scope full oneofs)).run before = (.error error, after) ∧
      ((∃ field ∈ fields, ∃ index, OutOfRange oneofs field index ∧
          error = .oneofOutOfRange (Schema.fullName full field.name) index oneofs.length) ∨
        ((fields.map Schema.Field.ungrouped).mapM (buildMember context scope full [])).run before =
          (.error error, after)) := by
  -- Both runs build the fields alike and pass on the same uses; only one of them looks for groups.
  induction fields generalizing before with
  | nil => simp at stray
  | cons first fields ih =>
    rw [List.mapM_cons, List.map_cons, List.mapM_cons]
    rcases built : (buildField context scope first).run before with ⟨outcome, middle⟩
    have builtAlone : (buildField context scope first.ungrouped).run before = (outcome, middle) := by
      rw [buildField_of_ungrouped, built]
    cases outcome with
    | error failure =>
      refine ⟨failure, middle, run_bind_of_error _ (run_bind_of_error _ built), .inr ?_⟩
      exact run_bind_of_error _ (run_bind_of_error _ builtAlone)
    | ok member =>
      have run : (buildMember context scope full oneofs first).run before =
          (joinGroup full oneofs first member, middle) := run_bind_of_ok _ built
      have runAlone : (buildMember context scope full [] first.ungrouped).run before =
          (.ok member, middle) := run_bind_of_ok _ builtAlone
      cases joined : joinGroup full oneofs first member with
      | error failure =>
        rw [joined] at run
        obtain ⟨index, joins, outside, isFailure⟩ := joinGroup_eq_error.mp joined
        exact ⟨failure, middle, run_bind_of_error _ run,
          .inl ⟨first, List.mem_cons_self, index, ⟨joins, outside⟩, isFailure⟩⟩
      | ok result =>
        rw [joined] at run
        -- The first field has found its group, so it is a later one that has none.
        have later : ∃ field ∈ fields, ∃ index, OutOfRange oneofs field index := by
          obtain ⟨field, isField, index, joins, outside⟩ := stray
          rcases List.mem_cons.mp isField with rfl | isLater
          · rw [joinGroup_eq_error.mpr ⟨index, joins, outside, rfl⟩] at joined
            cases joined
          · exact ⟨field, isLater, index, joins, outside⟩
        obtain ⟨error, after, failed, why⟩ := ih later middle
        refine ⟨error, after, ?_, why.imp ?_ ?_⟩
        · rw [run_bind_of_ok _ run]
          exact run_bind_of_error _ failed
        · rintro ⟨field, isField, found⟩
          exact ⟨field, List.mem_cons_of_mem _ isField, found⟩
        · intro failedAlone
          rw [run_bind_of_ok _ runAlone]
          exact run_bind_of_error _ failedAlone

/-- A failure names a field of an undeclared oneof. -/
def NamesStray (scope : String) (source : Descriptor.Message) (error : Error) : Prop :=
  ∃ field index, source.IsStray field index ∧ error = .oneofOutOfRange
    (Schema.fullName (Schema.fullName scope (textOf source.name)) (textOf field.name)) index
    source.oneofs.length

/-- What is built of a message before its members: the symbol that names it and what is nested in it. -/
def buildFrame (scope : String) (message : Schema.Message) : Building (Symbol × List Declaration) := do
  let symbol ← context.symbol (Schema.fullName scope message.name)
  let nested ← buildScope context (Schema.fullName scope message.name) message.nestedEnums
    message.nestedMessages
  return (symbol, nested)

theorem buildMessage_of_frame {message : Schema.Message} (declared : message.mapEntry = false)
    (scope : String) :
    buildMessage context scope message = (do
      let frame ← buildFrame context scope message
      let members ← message.fields.mapM
        (buildMember context scope (Schema.fullName scope message.name) message.oneofs)
      return withNested (classOf context message (Schema.fullName scope message.name)
        frame.1.declaredName members) frame.2) := by
  rw [buildMessage_of_declared declared]
  simp only [buildFrame, bind_assoc, pure_bind]

/-- A message with a stray field is refused. -/
theorem buildMessage_refused {source : Descriptor.Message} (declared : source.mapEntry = false)
    {dialect : Schema.Dialect} {outer : Descriptor.Features} {path : String} {message : Schema.Message}
    (loaded : Schema.Message.LoadedFrom dialect outer path source message)
    (stray : ∃ field index, source.IsStray field index) (scope : String) (before : RootUses) :
    ∃ error after, (buildMessage context scope message).run before = (.error error, after) ∧
      (NamesStray scope source error ∨
        (buildMessage context scope message.withoutOneofs).run before = (.error error, after)) := by
  have isDeclared := loaded.mapEntry.trans declared
  have isDeclaredAlone : message.withoutOneofs.mapEntry = false := isDeclared
  have sameFrame : buildFrame context scope message.withoutOneofs = buildFrame context scope message := rfl
  rw [buildMessage_of_frame context isDeclared, buildMessage_of_frame context isDeclaredAlone, sameFrame]
  -- Up to the members both runs are the same.
  rcases framed : (buildFrame context scope message).run before with ⟨outcome, middle⟩
  cases outcome with
  | error failure =>
    exact ⟨failure, middle, run_bind_of_error _ framed, .inr (run_bind_of_error _ framed)⟩
  | ok frame =>
    rw [run_bind_of_ok _ framed, run_bind_of_ok _ framed]
    have sameLength : message.oneofs.length = source.oneofs.length := by
      rw [Schema.loadOneofs_eq_ok loaded.oneofs, List.length_map, List.length_zipIdx]
    have strayMember : ∃ field ∈ message.fields, ∃ index, OutOfRange message.oneofs field index := by
      obtain ⟨field, index, isStray⟩ := stray
      obtain ⟨member, isMember, fromField⟩ := exists_right_of_forall₂ loaded.members isStray.isField
      refine ⟨member, isMember, index, ?_, sameLength ▸ isStray.outside⟩
      rw [fromField.eq_of_source.2.2.2]
      exact Schema.Field.oneofOf_eq_some.mpr ⟨isStray.joins, isStray.notOptional⟩
    obtain ⟨error, after, failed, why⟩ := members_refused context scope _ strayMember middle
    refine ⟨error, after, run_bind_of_error _ failed, why.imp ?_ fun failedAlone => ?_⟩
    · rintro ⟨member, isMember, index, ⟨joins, outside⟩, rfl⟩
      obtain ⟨field, isField, fromField⟩ := exists_left_of_forall₂ loaded.members isMember
      obtain ⟨sameName, _, _, sameIndex⟩ := fromField.eq_of_source
      obtain ⟨joinsField, notOptional⟩ := Schema.Field.oneofOf_eq_some.mp (sameIndex.symm.trans joins)
      refine ⟨field, index, ⟨isField, notOptional, joinsField, sameLength ▸ outside⟩, ?_⟩
      rw [sameName, sameLength, Schema.text_eq_ok loaded.name]
    · exact run_bind_of_error _ failedAlone

/-- Building a loaded message that is no map entry partitions its fields and oneofs without loss, and a field
of an undeclared oneof keeps it from being built. -/
theorem members_partitioned_by_oneofs {source : Descriptor.Message} (declared : source.mapEntry = false)
    {dialect : Schema.Dialect} {outer : Descriptor.Features} {path : String} {message : Schema.Message}
    (loaded : Schema.Message.load dialect outer path source = .ok message) (context : Context)
    (scope : String) (before : RootUses) :
    (∀ decls after, (buildMessage context scope message).run before = (.ok decls, after) →
      ∃ decl nested, decls = .messageClass decl :: nested ∧ Partitions source decl) ∧
    ((∃ field index, source.IsStray field index) →
      ∃ error after, (buildMessage context scope message).run before = (.error error, after) ∧
        IsLookupFault context error ∧
        (NamesStray scope source error ∨
          (buildMessage context scope message.withoutOneofs).run before = (.error error, after))) := by
  have parts := Schema.Message.load_eq_ok loaded
  constructor
  · intro decls after built
    exact (buildMessage_partitions context declared parts scope before decls after trivial built).2
  · intro stray
    obtain ⟨error, after, failed, why⟩ := buildMessage_refused context declared parts stray scope before
    exact ⟨error, after, failed, buildMessage_isLookupFault context message scope _ _ _ failed, why⟩

/-- A message whose first oneof is synthetic and whose last one has no fields. Fields of the second one, where
`rail` joins it, stand between others. -/
def bridge (rail : Int) : Descriptor.Message :=
  { name := Wire.encodeText "Bridge"
    oneofs := [Wire.encodeText "_clearance", Wire.encodeText "load", Wire.encodeText "toll"]
    fields :=
      [{ name := Wire.encodeText "trucks", number := 4, kind := .uint32, oneofIndex := some 1 },
       { name := Wire.encodeText "clearance", number := 1, kind := .double, oneofIndex := some 0
         isOptional := true },
       { name := Wire.encodeText "tags", number := 7, label := .repeated, kind := .message
         typeName := Wire.encodeText ".road.Bridge.TagsEntry" },
       { name := Wire.encodeText "rail", number := 2, kind := .bool, oneofIndex := some rail },
       { name := Wire.encodeText "river", number := 3, kind := .string }]
    nested :=
      [{ name := Wire.encodeText "TagsEntry"
         mapEntry := true
         fields :=
           [{ name := Wire.encodeText "key", number := 1, kind := .string },
            { name := Wire.encodeText "value", number := 2, kind := .string }] }] }

def loadedBridge (rail : Int) : Schema.Message :=
  (Schema.Message.load .other {} ".road" (bridge rail)).toOption.getD default

def bridgeContext (rail : Int) : Context :=
  let file : Schema.File :=
    { name := "bridge.proto", package := some "road", messages := [loadedBridge rail] }
  let symbols := SymbolTable.ofFiles [file]
  { file, symbols, imports := (Imports.resolve symbols file).toOption.getD default, wraps := fun _ => false }

theorem members_partitioned_by_oneofs_in_bridge :
    Schema.Message.load .other {} ".road" (bridge 1) = .ok (loadedBridge 1) ∧
    Schema.Message.load .other {} ".road" (bridge 3) = .ok (loadedBridge 3) ∧
    (∃ decl nested after, (buildMessage (bridgeContext 1) ".road" (loadedBridge 1)).run [] =
        (.ok (.messageClass decl :: nested), after) ∧ Partitions (bridge 1) decl) ∧
    ∃ error after, (buildMessage (bridgeContext 3) ".road" (loadedBridge 3)).run [] = (.error error, after) ∧
      IsLookupFault (bridgeContext 3) error ∧
      (NamesStray ".road" (bridge 3) error ∨
        (buildMessage (bridgeContext 3) ".road" (loadedBridge 3).withoutOneofs).run [] =
          (.error error, after)) := by
  have loads : ∀ rail, (Schema.Message.load .other {} ".road" (bridge rail)).isOk = true →
      Schema.Message.load .other {} ".road" (bridge rail) = .ok (loadedBridge rail) := by
    intro rail succeeds
    obtain ⟨message, loaded⟩ := exists_ok_of_isOk succeeds
    rw [loadedBridge, loaded]
    rfl
  have loaded := loads 1 (by decide +kernel)
  have strayLoaded := loads 3 (by decide +kernel)
  obtain ⟨decls, built⟩ := exists_ok_of_isOk (by decide +kernel :
    ((buildMessage (bridgeContext 1) ".road" (loadedBridge 1)).run []).1.isOk = true)
  obtain ⟨decl, nested, rfl, partitions⟩ := (members_partitioned_by_oneofs rfl loaded (bridgeContext 1)
    ".road" []).1 decls _ (Prod.ext built rfl)
  refine ⟨loaded, strayLoaded, ⟨decl, nested, _, Prod.ext built rfl, partitions⟩, ?_⟩
  refine (members_partitioned_by_oneofs rfl strayLoaded (bridgeContext 3) ".road" []).2 ?_
  exact ⟨(bridge 3).fields[3], 3, ⟨List.getElem_mem _, rfl, rfl, .inr (by decide)⟩⟩

end Code

end Typewire
