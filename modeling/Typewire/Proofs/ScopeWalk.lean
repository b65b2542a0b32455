import Typewire.Proofs.Scopes
import Mathlib.Data.List.Induction

/-!
# The walk outwards from a place

Whether a message around a place declares a name is found out by a walk: look through the names inside the
current scope, go on with the scope before its last dot, and stop at the scope of the file or when nothing is
left. `Walk` is that loop, with the scopes it looks through. A derivation is a run that ends; a scope without
dots is before its own last dot, so not every run does.

## Main result

`scope_walk_stops_at_package`: every walk from a scope that is empty or begins with a dot ends, because every turn
makes the scope shorter. Its answer is that of `Context.isShadowed`. From the inside of nested messages it looks
through these messages only, from the innermost outwards, and never through a package.

## Proof strategy

The length of the scope is the measure of the walk: a scope that begins with a dot is an outer scope of the same
sort, a dot and a name without dots. What the walk looks through is compared with the list of enclosing
messages: it is the beginning of the list up to the first message that declares the name.
-/
namespace Typewire

namespace Text

/-! ### The last dot -/

/-- The text before the last dot. A text without dots stays as it is. -/
def beforeLastDot (text : String) : String :=
  if '.' ∈ text.toList then joinDots (segments text).dropLast else text

theorem beforeLastDot_of_dotFree {text : String} (dotFree : '.' ∉ text.toList) : beforeLastDot text = text :=
  if_neg dotFree

theorem beforeLastDot_append_dot {scope name : String} (dotFree : '.' ∉ name.toList) :
    beforeLastDot (scope ++ "." ++ name) = scope := by
  have dotted : '.' ∈ (scope ++ "." ++ name).toList := by simp
  rw [beforeLastDot, if_pos dotted, segments_append_dot, segments_of_dotFree dotFree, List.dropLast_concat,
    joinDots_segments]

theorem exists_last_dot {text : String} (dotted : '.' ∈ text.toList) :
    ∃ scope name, '.' ∉ name.toList ∧ text = scope ++ "." ++ name := by
  have whole := joinDots_segments text
  rcases List.eq_nil_or_concat (segments text) with empty | ⟨start, last, split⟩
  · exact absurd empty (segments_ne_nil text)
  · rw [List.concat_eq_append] at split
    have member : last ∈ segments text := by simp [split]
    have dotFree := dotFree_of_mem_segments member
    rw [split] at whole
    by_cases only : start = []
    · -- A single part is the whole text, which has a dot.
      rw [only, List.nil_append, joinDots_singleton] at whole
      exact absurd dotted (whole ▸ dotFree)
    · rw [joinDots_append only (List.cons_ne_nil _ _), joinDots_singleton] at whole
      exact ⟨joinDots start, last, dotFree, whole.symm⟩

theorem mem_initials_iff {α : Type} {xs initial : List α} :
    initial ∈ initials xs ↔ ∃ i, 1 ≤ i ∧ i ≤ xs.length ∧ initial = xs.take i := by
  induction xs using List.reverseRecOn with
  | nil =>
    simp only [initials, List.not_mem_nil, List.length_nil, false_iff]
    rintro ⟨i, positive, none, _⟩
    omega
  | append_singleton xs x ih =>
    rw [initials_append_singleton, List.mem_cons, ih, List.length_append, List.length_singleton]
    constructor
    · rintro (rfl | ⟨i, positive, within, rfl⟩)
      · exact ⟨xs.length + 1, by omega, by omega, (List.take_of_length_le (by simp)).symm⟩
      · exact ⟨i, positive, by omega, (List.take_append_of_le_length within).symm⟩
    · rintro ⟨i, positive, within, rfl⟩
      by_cases whole : i = xs.length + 1
      · exact .inl (List.take_of_length_le (by simp [whole]))
      · have shorter : i ≤ xs.length := by omega
        exact .inr ⟨i, positive, shorter, List.take_append_of_le_length shorter⟩

/-! ### Scopes that begin with a dot -/

/-- A scope that is empty or begins with a dot. -/
def IsRooted (scope : String) : Prop :=
  scope = "" ∨ ∃ rest, scope = "." ++ rest

namespace IsRooted

theorem append_dot {scope : String} (rooted : IsRooted scope) (name : String) :
    IsRooted (scope ++ "." ++ name) := by
  rcases rooted with rfl | ⟨rest, rfl⟩
  · exact .inr ⟨name, rfl⟩
  · exact .inr ⟨rest ++ "." ++ name, by simp only [String.append_assoc]⟩

/-- Before the last dot of such a scope there is one of the same sort. -/
theorem exists_outer {scope : String} (rooted : IsRooted scope) (nonempty : scope ≠ "") :
    ∃ outer name, IsRooted outer ∧ '.' ∉ name.toList ∧ scope = outer ++ "." ++ name := by
  obtain ⟨rest, rfl⟩ := rooted.resolve_left nonempty
  have dotted : '.' ∈ ("." ++ rest).toList := by simp
  obtain ⟨outer, name, dotFree, split⟩ := exists_last_dot dotted
  refine ⟨outer, name, ?_, dotFree, split⟩
  cases chars : outer.toList with
  | nil => exact .inl (by simpa using chars)
  | cons c cs =>
    -- What stands before the last dot begins where the whole scope begins.
    have dot : ".".toList = ['.'] := rfl
    have same := congrArg String.toList split
    simp only [String.toList_append, chars, dot, List.cons_append, List.nil_append] at same
    obtain ⟨rfl, _⟩ := List.cons.inj same
    refine .inr ⟨String.ofList cs, String.toList_inj.mp ?_⟩
    rw [chars, String.toList_append, dot, String.toList_ofList, List.singleton_append]

/-- Cutting a rooted scope at its last dot leaves a shorter one that is still rooted. -/
theorem shrinks {scope : String} (rooted : IsRooted scope) (nonempty : scope ≠ "") :
    (beforeLastDot scope).length < scope.length ∧ IsRooted (beforeLastDot scope) := by
  obtain ⟨outer, name, outerRooted, dotFree, rfl⟩ := rooted.exists_outer nonempty
  rw [beforeLastDot_append_dot dotFree]
  refine ⟨?_, outerRooted⟩
  have dot : ".".length = 1 := rfl
  simp only [String.length_append, dot]
  omega

end IsRooted

end Text

namespace Schema

/-- The full name of the inside of nested messages, the outermost first. -/
def scopeInside (scope : String) (messages : List String) : String :=
  messages.foldl fullName scope

theorem scopeInside_concat (scope : String) (messages : List String) (message : String) :
    scopeInside scope (messages ++ [message]) = fullName (scopeInside scope messages) message := by
  simp [scopeInside]

theorem length_le_scopeInside (scope : String) (messages : List String) :
    scope.length + messages.length ≤ (scopeInside scope messages).length := by
  induction messages using List.reverseRecOn with
  | nil => exact Nat.le_refl _
  | append_singleton messages message ih =>
    have dot : ".".length = 1 := rfl
    simp only [scopeInside_concat, fullName, String.length_append, dot, List.length_append, List.length_singleton]
    omega

theorem File.isRooted_scope (file : File) : Text.IsRooted file.scope := by
  rw [scope]
  split
  next package _ => exact .inr ⟨package, rfl⟩
  next => exact .inl rfl

theorem isRooted_scopeInside {scope : String} (rooted : Text.IsRooted scope) (messages : List String) :
    Text.IsRooted (scopeInside scope messages) := by
  induction messages using List.reverseRecOn with
  | nil => exact rooted
  | append_singleton messages message ih =>
    rw [scopeInside_concat]
    exact ih.append_dot message

end Schema

namespace Context

open Schema (scopeInside)

variable {context : Context} {name scope : String} {consulted : List String} {result : Bool}

/-! ### The walk -/

/-- Where the walk stops: nothing is left, or the scope of the file is reached. -/
def Ends (context : Context) (scope : String) : Prop :=
  scope = "" ∨ scope = context.file.scope

/-- The walk outwards from a scope in search of a name, with the scopes it looks through and its answer. -/
inductive Walk (context : Context) (name : String) : String → List String → Bool → Prop where
  | stop {scope : String} (ends : context.Ends scope) : context.Walk name scope [] false
  | found {scope : String} (inside : ¬ context.Ends scope)
      (declared : name ∈ context.symbols.children scope) : context.Walk name scope [scope] true
  | outwards {scope : String} {consulted : List String} {result : Bool} (inside : ¬ context.Ends scope)
      (absent : name ∉ context.symbols.children scope)
      (rest : context.Walk name (Text.beforeLastDot scope) consulted result) :
      context.Walk name scope (scope :: consulted) result

/-- The walk ends from every scope that begins with a dot. -/
theorem Walk.exists_of_rooted (context : Context) (name : String) (rooted : Text.IsRooted scope) :
    ∃ consulted result, context.Walk name scope consulted result := by
  -- By induction on the length: a turn of the walk leaves a shorter scope of the same sort.
  induction size : scope.length using Nat.strongRecOn generalizing scope with
  | ind length ih =>
    by_cases ends : context.Ends scope
    · exact ⟨[], false, .stop ends⟩
    · by_cases declared : name ∈ context.symbols.children scope
      · exact ⟨[scope], true, .found ends declared⟩
      · obtain ⟨shorter, outerRooted⟩ := rooted.shrinks fun empty => ends (.inl empty)
        obtain ⟨consulted, result, rest⟩ := ih _ (size ▸ shorter) outerRooted rfl
        exact ⟨scope :: consulted, result, .outwards ends declared rest⟩

/-- A walk never leaves a scope without dots. -/
theorem Walk.dotted (walk : context.Walk name scope consulted result) (inside : ¬ context.Ends scope)
    (absent : name ∉ context.symbols.children scope) : '.' ∈ scope.toList := by
  induction walk with
  | stop ends => exact absurd ends inside
  | found _ declared => exact absurd declared absent
  | outwards _ _ _ ih =>
    -- Without a dot the next turn is at the same scope, where there is as little reason to stop.
    by_contra dotFree
    rw [Text.beforeLastDot_of_dotFree dotFree] at ih
    exact dotFree (ih inside absent)

/-! ### What the walk looks through -/

theorem enclosingMessages_of_ends (ends : context.Ends scope) : context.enclosingMessages scope = [] := by
  rcases ends with rfl | rfl
  · exact context.enclosingMessages_empty
  · exact context.enclosingMessages_top

theorem enclosingMessages_eq_cons (inside : ¬ context.Ends scope) :
    ∃ others, context.enclosingMessages scope = scope :: others := by
  obtain ⟨others, around⟩ := Text.enclosing_eq_cons scope
  obtain ⟨notEmpty, notTop⟩ := not_or.mp inside
  simp [enclosingMessages, around, notEmpty, notTop]

/-- The walk goes on with what stands before the last dot. -/
theorem enclosingMessages_of_dotted (inside : ¬ context.Ends scope) (dotted : '.' ∈ scope.toList) :
    context.enclosingMessages scope = scope :: context.enclosingMessages (Text.beforeLastDot scope) := by
  obtain ⟨outer, last, dotFree, rfl⟩ := Text.exists_last_dot dotted
  obtain ⟨_, notTop⟩ := not_or.mp inside
  rw [Text.beforeLastDot_append_dot dotFree, enclosingMessages, Text.enclosing_append_dot dotFree]
  simp [enclosingMessages, notTop]

/-- The walk looks through the enclosing messages from the innermost outwards, through all of them if the name
is not found, and its answer is whether one of them declares the name. -/
theorem Walk.spec (walk : context.Walk name scope consulted result) :
    consulted <+: context.enclosingMessages scope ∧
      (result = false → consulted = context.enclosingMessages scope) ∧
      result = context.isShadowed name scope := by
  induction walk with
  | stop ends => simp [isShadowed, enclosingMessages_of_ends ends]
  | found inside declared =>
    obtain ⟨others, around⟩ := enclosingMessages_eq_cons inside
    simp [isShadowed, around, declared]
  | outwards inside absent rest ih =>
    -- The walk went on, so there was a dot, and the list goes on in the same way.
    have dotted := (Walk.outwards inside absent rest).dotted inside absent
    obtain ⟨beginning, complete, answer⟩ := ih
    rw [isShadowed, enclosingMessages_of_dotted inside dotted]
    refine ⟨?_, ?_, ?_⟩
    · exact List.prefix_cons_inj _ |>.mpr beginning
    · intro no
      rw [complete no]
    · rw [answer, isShadowed]
      simp [absent]

/-- The messages around the inside of nested messages are these messages. -/
theorem enclosingMessages_scopeInside {messages : List String}
    (dotFree : ∀ message ∈ messages, '.' ∉ message.toList) :
    context.enclosingMessages (scopeInside context.file.scope messages) =
      (Text.initials messages).map (scopeInside context.file.scope) := by
  induction messages using List.reverseRecOn with
  | nil => exact context.enclosingMessages_top
  | append_singleton messages message ih =>
    have covers := Schema.length_le_scopeInside context.file.scope messages
    rw [Schema.scopeInside_concat, enclosingMessages_fullName (by omega) (dotFree message (by simp)),
      ih fun other member => dotFree other (by simp [member]), Text.initials_append_singleton, List.map_cons,
      Schema.scopeInside_concat]

/-- Around a place stand the messages on the way to it, and neither the package nor what is above. -/
theorem mem_enclosingMessages_scopeInside {messages : List String}
    (dotFree : ∀ message ∈ messages, '.' ∉ message.toList) {place : String} :
    place ∈ context.enclosingMessages (scopeInside context.file.scope messages) ↔
      ∃ i, 1 ≤ i ∧ i ≤ messages.length ∧ place = scopeInside context.file.scope (messages.take i) := by
  rw [enclosingMessages_scopeInside dotFree, List.mem_map]
  constructor
  · rintro ⟨initial, member, rfl⟩
    obtain ⟨i, positive, within, rfl⟩ := Text.mem_initials_iff.mp member
    exact ⟨i, positive, within, rfl⟩
  · rintro ⟨i, positive, within, rfl⟩
    exact ⟨messages.take i, Text.mem_initials_iff.mpr ⟨i, positive, within, rfl⟩, rfl⟩

/-- A name is shadowed exactly if a message on the way to the place declares it. -/
theorem isShadowed_scopeInside_iff {messages : List String}
    (dotFree : ∀ message ∈ messages, '.' ∉ message.toList) :
    context.isShadowed name (scopeInside context.file.scope messages) = true ↔
      ∃ i, 1 ≤ i ∧ i ≤ messages.length ∧
        name ∈ context.symbols.children (scopeInside context.file.scope (messages.take i)) := by
  simp only [isShadowed, List.any_eq_true, List.contains_iff_mem, mem_enclosingMessages_scopeInside dotFree]
  constructor
  · rintro ⟨_, ⟨i, positive, within, rfl⟩, declared⟩
    exact ⟨i, positive, within, declared⟩
  · rintro ⟨i, positive, within, declared⟩
    exact ⟨_, ⟨i, positive, within, rfl⟩, declared⟩

/-- The inside of a message is longer than the scope of the file, so no beginning of the latter is like it. -/
theorem not_prefix_of_scopeInside {scope : String} {messages : List String} (nonempty : messages ≠ []) :
    ¬ (scopeInside scope messages).toList <+: scope.toList := by
  intro beginning
  have fits := beginning.length_le
  have covers := Schema.length_le_scopeInside scope messages
  have positive := List.length_pos_iff.mpr nonempty
  rw [String.length_toList, String.length_toList] at fits
  omega

/-- A turn of the walk leaves a shorter scope of the same sort, so that the walk ends from every scope that is empty
or begins with a dot, and its answer is the one that references are spelled by. From the inside of nested
messages the answer is whether one of them declares the name. The walk looks through these messages only,
through all of them before it says no, and never through the scope of the file or a beginning of it. -/
theorem scope_walk_stops_at_package (context : Context) (name : String) :
    (∀ scope, Text.IsRooted scope →
      (scope ≠ "" →
        (Text.beforeLastDot scope).length < scope.length ∧ Text.IsRooted (Text.beforeLastDot scope)) ∧
      ∃ consulted, context.Walk name scope consulted (context.isShadowed name scope)) ∧
    (∀ scope consulted result, context.Walk name scope consulted result →
      result = context.isShadowed name scope) ∧
    (∀ messages : List String, (∀ message ∈ messages, '.' ∉ message.toList) →
      Text.IsRooted (scopeInside context.file.scope messages) ∧
      ∀ consulted result, context.Walk name (scopeInside context.file.scope messages) consulted result →
        (result = true ↔
          ∃ i, 1 ≤ i ∧ i ≤ messages.length ∧
            name ∈ context.symbols.children (scopeInside context.file.scope (messages.take i))) ∧
        (result = false → ∀ i, 1 ≤ i → i ≤ messages.length →
          scopeInside context.file.scope (messages.take i) ∈ consulted) ∧
        ∀ place ∈ consulted,
          (∃ i, 1 ≤ i ∧ i ≤ messages.length ∧ place = scopeInside context.file.scope (messages.take i)) ∧
          ¬ place.toList <+: context.file.scope.toList) := by
  refine ⟨?_, ?_, ?_⟩
  · intro scope rooted
    refine ⟨rooted.shrinks, ?_⟩
    obtain ⟨consulted, result, walk⟩ := Walk.exists_of_rooted context name rooted
    rw [← walk.spec.2.2]
    exact ⟨consulted, walk⟩
  · intro scope consulted result walk
    exact walk.spec.2.2
  · intro messages dotFree
    refine ⟨Schema.isRooted_scopeInside context.file.isRooted_scope messages, ?_⟩
    intro consulted result walk
    -- A walk looks through the enclosing messages from the inside, and ends early only where it finds the name.
    obtain ⟨beginning, complete, answer⟩ := walk.spec
    refine ⟨?_, ?_, ?_⟩
    · rw [answer, isShadowed_scopeInside_iff dotFree]
    · intro no i positive within
      rw [complete no, mem_enclosingMessages_scopeInside dotFree]
      exact ⟨i, positive, within, rfl⟩
    · intro place member
      obtain ⟨i, positive, within, rfl⟩ :=
        (mem_enclosingMessages_scopeInside dotFree).mp (beginning.subset member)
      refine ⟨⟨i, positive, within, rfl⟩, not_prefix_of_scopeInside ?_⟩
      intro empty
      have none := congrArg List.length empty
      rw [List.length_take, List.length_nil] at none
      omega

/-- A file whose package is at the same time a message of another file. -/
def bay : Schema.File :=
  { name := "bay.proto"
    package := some "sea.bay"
    messages := [{ name := "Ship", nestedMessages := [{ name := "Deck", nestedMessages := [{ name := "Mast" }] }] }] }

/-- The file with the message of that name. -/
def sea : Schema.File :=
  { name := "sea.proto"
    package := some "sea"
    messages := [{ name := "bay", nestedMessages := [{ name := "Buoy" }] }] }

def bayContext : Context :=
  { file := bay
    symbols := SymbolTable.ofFiles [bay, sea]
    imports := { fileName := bay.name, runtime := "pb_1", rpc := "grpc_1" }
    wraps := fun _ => false }

theorem scope_walk_stops_at_package_in_bay :
    "Buoy" ∈ bayContext.symbols.children ".sea.bay" ∧
    (Text.beforeLastDot ".sea.bay.Ship.Deck").length < ".sea.bay.Ship.Deck".length ∧
    (∃ consulted, bayContext.Walk "Buoy" ".sea.bay.Ship.Deck" consulted false ∧
      ".sea.bay.Ship" ∈ consulted ∧ ".sea.bay" ∉ consulted) ∧
    ∃ consulted, bayContext.Walk "Deck" ".sea.bay.Ship.Deck" consulted true := by
  have rooted : Text.IsRooted ".sea.bay.Ship.Deck" := .inr ⟨"sea.bay.Ship.Deck", rfl⟩
  obtain ⟨ends, _, inside⟩ := scope_walk_stops_at_package bayContext "Buoy"
  obtain ⟨shrinks, consulted, walk⟩ := ends _ rooted
  have visible : bayContext.isShadowed "Buoy" ".sea.bay.Ship.Deck" = false := by decide +kernel
  rw [visible] at walk
  obtain ⟨_, complete, places⟩ := (inside ["Ship", "Deck"] (by decide)).2 consulted false walk
  refine ⟨by decide +kernel, (shrinks (by decide)).1, ⟨consulted, walk, complete rfl 1 (by decide) (by decide), ?_⟩, ?_⟩
  · intro member
    exact (places _ member).2 (by decide)
  · obtain ⟨ends, _, _⟩ := scope_walk_stops_at_package bayContext "Deck"
    obtain ⟨_, consulted, walk⟩ := ends _ rooted
    have shadowed : bayContext.isShadowed "Deck" ".sea.bay.Ship.Deck" = true := by decide +kernel
    rw [shadowed] at walk
    exact ⟨consulted, walk⟩

end Context

end Typewire
