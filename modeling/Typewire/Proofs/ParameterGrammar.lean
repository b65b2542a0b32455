import Typewire.Parameter
import Typewire.Proofs.DottedNames
import Typewire.Proofs.LongestRuns
import Mathlib.Data.List.Induction

/-!
# The grammar of parameter texts

The parameter text has a grammar that says nothing about reading: assignments with commas between them, each
a key or a key with a value, and filler around every part. The readers take the longest run of a class of
characters and look at what comes next.

## Main result

`parse_follows_grammar`: blank texts apart, the texts that can be read are exactly those of the
grammar. The map that is read has the keys in the order in which they first occur, each with its last value.

## Proof strategy

A longest run is the run that the grammar asks for as soon as the next character cannot belong to it. Filler
ends at a key, an equals sign or a value; a key ends at filler, at an equals sign or with the text; and
nothing inside an assignment is a comma, so that cutting at the commas first loses nothing.
-/
namespace Typewire

namespace OrderedMap

variable {α β : Type} [DecidableEq α]

theorem ofPairs_concat (pairs : List (α × β)) (pair : α × β) :
    ofPairs (pairs ++ [pair]) = put (ofPairs pairs) pair.1 pair.2 := by
  simp [ofPairs]

/-- Keys stand in the order in which they first occur. -/
theorem keys_ofPairs (pairs : List (α × β)) : keys (ofPairs pairs) = (pairs.map Prod.fst).eraseDups := by
  induction pairs using List.reverseRecOn with
  | nil => rfl
  | append_singleton pairs pair ih =>
    rw [ofPairs_concat, keys_put, ih, List.map_append, List.map_singleton, eraseDups_concat]
    simp only [List.mem_eraseDups]

/-- The last assignment to a key counts. -/
theorem get?_ofPairs (pairs : List (α × β)) (key : α) :
    get? (ofPairs pairs) key = (pairs.findRev? fun pair => pair.1 = key).map Prod.snd := by
  induction pairs using List.reverseRecOn with
  | nil => rfl
  | append_singleton pairs pair ih =>
    rw [ofPairs_concat, get?_put, ih, List.findRev?_eq_find?_reverse, List.findRev?_eq_find?_reverse,
      List.reverse_concat]
    by_cases same : key = pair.1
    · simp [same]
    · simp [same, Ne.symm same]

end OrderedMap

namespace Parameter

open Text (Stops apart_comm dropWhile_of_stops isBlank isFiller stops_of_forall takeWhile_of_stops)

/-! ### The grammar -/

def IsFill (cs : List Char) : Prop :=
  ∀ c ∈ cs, c ∈ [' ', '\t', '\x0c', '\r', '\n']

def IsLetter (c : Char) : Prop :=
  ('A' ≤ c ∧ c ≤ 'Z') ∨ ('a' ≤ c ∧ c ≤ 'z')

/-- A letter or an underscore, then letters, digits, underscores, dots and hyphens. -/
inductive IsKey : List Char → Prop where
  | intro {first : Char} {rest : List Char} (start : IsLetter first ∨ first = '_')
      (others : ∀ c ∈ rest, IsLetter c ∨ ('0' ≤ c ∧ c ≤ '9') ∨ c ∈ ['_', '.', '-']) :
      IsKey (first :: rest)

/-- One or more characters that are neither commas nor equals signs nor blank. -/
structure IsValue (cs : List Char) : Prop where
  nonempty : cs ≠ []
  chars : ∀ c ∈ cs, c ≠ ',' ∧ c ≠ '=' ∧ isBlank c = false

/-- The ways to write an assignment. A bare key is assigned the empty value. -/
inductive IsAssignment : List Char → String × String → Prop where
  | bare {before key after : List Char} (fillBefore : IsFill before) (isKey : IsKey key)
      (fillAfter : IsFill after) : IsAssignment (before ++ key ++ after) (String.ofList key, "")
  | valued {before key ahead behind value after : List Char} (fillBefore : IsFill before)
      (isKey : IsKey key) (fillAhead : IsFill ahead) (fillBehind : IsFill behind)
      (isValue : IsValue value) (fillAfter : IsFill after) :
      IsAssignment (before ++ key ++ ahead ++ '=' :: (behind ++ value ++ after))
        (String.ofList key, String.ofList value)

/-- One or more assignments with commas between them. -/
inductive Assigns : List Char → List (String × String) → Prop where
  | last {cs : List Char} {pair : String × String} (only : IsAssignment cs pair) : Assigns cs [pair]
  | more {cs rest : List Char} {pair : String × String} {pairs : List (String × String)}
      (first : IsAssignment cs pair) (others : Assigns rest pairs) :
      Assigns (cs ++ ',' :: rest) (pair :: pairs)

/-- A map has every assigned key at the place of its first assignment, with the value of its last one. -/
structure Collects (pairs : List (String × String)) (map : OrderedMap String String) : Prop where
  keys : map.keys = (pairs.map Prod.fst).eraseDups
  values : ∀ key, map.get? key = (pairs.findRev? fun pair => pair.1 = key).map Prod.snd

/-! ### Classes of characters -/

theorem isFiller_iff {c : Char} : isFiller c = true ↔ c ∈ [' ', '\t', '\x0c', '\r', '\n'] := by
  simp only [isFiller, Bool.or_eq_true, beq_iff_eq, List.mem_cons, List.not_mem_nil, or_false]
  grind

theorem isFill_iff {cs : List Char} : IsFill cs ↔ ∀ c ∈ cs, isFiller c = true := by
  simp only [IsFill, isFiller_iff]

theorem isAlpha_iff {c : Char} : c.isAlpha = true ↔ IsLetter c := by
  have upper : c.isUpper = true ↔ 'A' ≤ c ∧ c ≤ 'Z' := decide_eq_true_iff
  have lower : c.isLower = true ↔ 'a' ≤ c ∧ c ≤ 'z' :=
    Bool.and_eq_true_iff.trans (and_congr decide_eq_true_iff decide_eq_true_iff)
  exact Bool.or_eq_true_iff.trans (or_congr upper lower)

theorem isKeyStart_iff {c : Char} : isKeyStart c = true ↔ IsLetter c ∨ c = '_' := by
  simp only [isKeyStart, Bool.or_eq_true, beq_iff_eq, isAlpha_iff]

theorem isKeyChar_iff {c : Char} :
    isKeyChar c = true ↔ IsLetter c ∨ ('0' ≤ c ∧ c ≤ '9') ∨ c ∈ ['_', '.', '-'] := by
  have digit : c.isDigit = true ↔ '0' ≤ c ∧ c ≤ '9' :=
    Bool.and_eq_true_iff.trans (and_congr decide_eq_true_iff decide_eq_true_iff)
  have alphanumeric : c.isAlphanum = true ↔ IsLetter c ∨ ('0' ≤ c ∧ c ≤ '9') :=
    Bool.or_eq_true_iff.trans (or_congr isAlpha_iff digit)
  simp only [isKeyChar, Bool.or_eq_true, beq_iff_eq, alphanumeric, List.mem_cons, List.not_mem_nil, or_false,
    or_assoc]

theorem isValueChar_iff {c : Char} :
    isValueChar c = true ↔ c ≠ ',' ∧ c ≠ '=' ∧ isBlank c = false := by
  simp [isValueChar, and_assoc]

/-! ### Classes without common members -/

theorem not_isValueChar_of_isFiller (c : Char) (filler : isFiller c = true) : isValueChar c = false := by
  simp [isValueChar, Text.isBlank_of_isFiller filler]

theorem not_isKeyChar_of_isFiller (c : Char) (filler : isFiller c = true) : isKeyChar c = false := by
  have isFill := isFiller_iff.mp filler
  simp only [List.mem_cons, List.not_mem_nil, or_false] at isFill
  rcases isFill with rfl | rfl | rfl | rfl | rfl <;> rfl

/-! ### Reading an assignment -/

/-- The reader of values takes a value with filler around it, and nothing else. -/
theorem readValue_eq_some {cs value : List Char} :
    readValue cs = some value ↔
      ∃ behind after, cs = behind ++ value ++ after ∧ IsFill behind ∧ IsValue value ∧ IsFill after := by
  constructor
  · intro read
    simp only [readValue] at read
    split at read
    next found =>
      obtain rfl := Option.some.inj read
      refine ⟨cs.takeWhile isFiller, (cs.dropWhile isFiller).dropWhile isValueChar, ?_, ?_, ⟨found.1, ?_⟩, ?_⟩
      · rw [List.append_assoc, List.takeWhile_append_dropWhile, List.takeWhile_append_dropWhile]
      · exact isFill_iff.mpr fun c member => List.mem_takeWhile_imp member
      · exact fun c member => isValueChar_iff.mp (List.mem_takeWhile_imp member)
      · exact isFill_iff.mpr (List.all_eq_true.mp found.2)
    next => cases read
  · rintro ⟨behind, after, rfl, fillBehind, isValue, fillAfter⟩
    have valueChars : ∀ c ∈ value, isValueChar c = true := fun c member =>
      isValueChar_iff.mpr (isValue.chars c member)
    rw [isFill_iff] at fillBehind fillAfter
    -- Filler ends where the value begins, and the value ends where filler begins.
    have atValue : Stops isFiller (value ++ after) := by
      intro c isNext
      cases value with
      | nil => exact (isValue.nonempty rfl).elim
      | cons first others =>
        obtain rfl := Option.some.inj isNext
        exact apart_comm not_isValueChar_of_isFiller first (valueChars first List.mem_cons_self)
    have atEnd : Stops isValueChar after := stops_of_forall not_isValueChar_of_isFiller fillAfter
    simp only [readValue, List.append_assoc, dropWhile_of_stops fillBehind atValue,
      takeWhile_of_stops valueChars atEnd, dropWhile_of_stops valueChars atEnd]
    exact if_pos ⟨isValue.nonempty, List.all_eq_true.mpr fillAfter⟩

/-- Behind a key stands filler, or an equals sign and a value. -/
theorem readTail_eq_some {cs value : List Char} :
    readTail cs = some value ↔
      (IsFill cs ∧ value = []) ∨
        ∃ ahead rest, cs = ahead ++ '=' :: rest ∧ IsFill ahead ∧ readValue rest = some value := by
  constructor
  · intro read
    rw [readTail] at read
    split at read
    next nothing =>
      cases read
      exact .inl ⟨isFill_iff.mpr (List.dropWhile_eq_nil_iff.mp nothing), rfl⟩
    next rest atEquals =>
      refine .inr ⟨cs.takeWhile isFiller, rest, ?_, ?_, read⟩
      · rw [← atEquals, List.takeWhile_append_dropWhile]
      · exact isFill_iff.mpr fun c member => List.mem_takeWhile_imp member
    next => cases read
  · rintro (⟨fill, rfl⟩ | ⟨ahead, rest, rfl, fillAhead, read⟩)
    · rw [readTail, List.dropWhile_eq_nil_iff.mpr (isFill_iff.mp fill)]
    · have atEquals : Stops isFiller ('=' :: rest) := by
        rintro c ⟨⟩
        rfl
      rw [readTail, dropWhile_of_stops (isFill_iff.mp fillAhead) atEquals]
      exact read

theorem IsKey.chars {key : List Char} (isKey : IsKey key) : ∀ c ∈ key, isKeyChar c = true := by
  obtain ⟨start, others⟩ := isKey
  intro c member
  rcases List.mem_cons.mp member with rfl | later
  · rw [isKeyChar_iff]
    rcases start with letter | rfl
    · exact .inl letter
    · exact .inr (.inr List.mem_cons_self)
  · exact isKeyChar_iff.mpr (others c later)

/-- A key is read together with what follows it, as soon as that cannot belong to the key. -/
theorem readAssignment_of_key {before key tail : List Char} (fillBefore : IsFill before)
    (isKey : IsKey key) (atEnd : Stops isKeyChar tail) :
    readAssignment (before ++ (key ++ tail)) =
      (readTail tail).map fun value => (String.ofList key, String.ofList value) := by
  have keyChars := isKey.chars
  obtain @⟨first, rest, start, others⟩ := isKey
  have atKey : Stops isFiller (first :: rest ++ tail) := by
    rintro c ⟨⟩
    exact apart_comm not_isKeyChar_of_isFiller first (keyChars first List.mem_cons_self)
  have restChars : ∀ c ∈ rest, isKeyChar c = true := fun c member =>
    keyChars c (List.mem_cons_of_mem _ member)
  rw [readAssignment, dropWhile_of_stops (isFill_iff.mp fillBefore) atKey]
  simp only [List.cons_append, isKeyStart_iff.mpr start, if_true, dropWhile_of_stops restChars atEnd,
    takeWhile_of_stops restChars atEnd]

/-- The reader of assignments takes exactly those of the grammar. -/
theorem readAssignment_eq_some {cs : List Char} {pair : String × String} :
    readAssignment cs = some pair ↔ IsAssignment cs pair := by
  constructor
  · intro read
    rw [readAssignment] at read
    split at read
    next => cases read
    next first rest atKey =>
      split at read
      next start =>
        obtain ⟨value, isTail, rfl⟩ := Option.map_eq_some_iff.mp read
        have fillBefore : IsFill (cs.takeWhile isFiller) :=
          isFill_iff.mpr fun c member => List.mem_takeWhile_imp member
        have isKey : IsKey (first :: rest.takeWhile isKeyChar) :=
          .intro (isKeyStart_iff.mp start) fun c member => isKeyChar_iff.mp (List.mem_takeWhile_imp member)
        have whole : cs = cs.takeWhile isFiller ++ (first :: rest.takeWhile isKeyChar) ++
            rest.dropWhile isKeyChar := by
          rw [List.append_assoc, List.cons_append, List.takeWhile_append_dropWhile, ← atKey,
            List.takeWhile_append_dropWhile]
        rw [whole]
        rcases readTail_eq_some.mp isTail with ⟨fillAfter, rfl⟩ | ⟨ahead, tail, isRest, fillAhead, isValue⟩
        · exact .bare fillBefore isKey fillAfter
        · obtain ⟨behind, after, rfl, fillBehind, isValue, fillAfter⟩ := readValue_eq_some.mp isValue
          rw [isRest, ← List.append_assoc]
          exact .valued fillBefore isKey fillAhead fillBehind isValue fillAfter
      next => cases read
  · intro assignment
    cases assignment with
    | bare fillBefore isKey fillAfter =>
      have atEnd := stops_of_forall not_isKeyChar_of_isFiller (isFill_iff.mp fillAfter)
      rw [List.append_assoc, readAssignment_of_key fillBefore isKey atEnd,
        readTail_eq_some.mpr (.inl ⟨fillAfter, rfl⟩)]
      rfl
    | @valued before key ahead behind value after fillBefore isKey fillAhead fillBehind isValue fillAfter =>
      -- After the key there is filler, or the equals sign right away.
      have atEnd : Stops isKeyChar (ahead ++ '=' :: (behind ++ value ++ after)) := by
        intro c isNext
        cases ahead with
        | nil =>
          obtain rfl := Option.some.inj isNext
          rfl
        | cons first others =>
          obtain rfl := Option.some.inj isNext
          exact not_isKeyChar_of_isFiller first (isFill_iff.mp fillAhead first List.mem_cons_self)
      have read := readValue_eq_some.mpr ⟨behind, after, rfl, fillBehind, isValue, fillAfter⟩
      rw [List.append_assoc, List.append_assoc, readAssignment_of_key fillBefore isKey atEnd,
        readTail_eq_some.mpr (.inr ⟨ahead, _, rfl, fillAhead, read⟩)]
      rfl

/-! ### Reading all assignments -/

theorem comma_not_mem_fill {cs : List Char} (fill : IsFill cs) : ',' ∉ cs := by
  intro member
  have filler := fill _ member
  simp at filler

theorem comma_not_mem_key {key : List Char} (isKey : IsKey key) : ',' ∉ key := by
  intro member
  have keyChar := isKey.chars _ member
  cases keyChar

theorem comma_not_mem_assignment {cs : List Char} {pair : String × String}
    (assignment : IsAssignment cs pair) : ',' ∉ cs := by
  cases assignment with
  | bare fillBefore isKey fillAfter =>
    simp [comma_not_mem_fill fillBefore, comma_not_mem_key isKey, comma_not_mem_fill fillAfter]
  | valued fillBefore isKey fillAhead fillBehind isValue fillAfter =>
    have noComma : ',' ∉ _ := fun member => (isValue.chars _ member).1 rfl
    simp [comma_not_mem_fill fillBefore, comma_not_mem_key isKey, comma_not_mem_fill fillAhead,
      comma_not_mem_fill fillBehind, noComma, comma_not_mem_fill fillAfter]

/-- Cutting at the commas and reading each part finds exactly what the grammar says. -/
theorem mapM_readAssignment_eq_some {cs : List Char} {pairs : List (String × String)} :
    (cs.splitOn ',').mapM readAssignment = some pairs ↔ Assigns cs pairs := by
  constructor
  · intro read
    -- By induction on the number of parts; the text is cut at its first comma.
    induction parts : cs.splitOn ',' generalizing cs pairs with
    | nil => simp at parts
    | cons part others ih =>
      by_cases occurs : ',' ∈ cs
      · obtain ⟨before, after, rfl, free⟩ := List.eq_append_cons_of_mem occurs
        rw [List.splitOn_append_cons_self_of_not_mem free] at read parts
        obtain ⟨rfl, isOthers⟩ := List.cons.inj parts
        rw [List.mapM_cons] at read
        obtain ⟨pair, first, rest⟩ := Option.bind_eq_some_iff.mp read
        obtain ⟨pairs', later, last⟩ := Option.bind_eq_some_iff.mp rest
        cases last
        exact .more (readAssignment_eq_some.mp first) (ih later isOthers)
      · rw [List.splitOn_eq_singleton occurs, List.mapM_cons] at read
        obtain ⟨pair, only, rest⟩ := Option.bind_eq_some_iff.mp read
        cases rest
        exact .last (readAssignment_eq_some.mp only)
  · intro assigns
    induction assigns with
    | last only =>
      rw [List.splitOn_eq_singleton (comma_not_mem_assignment only), List.mapM_cons,
        readAssignment_eq_some.mpr only]
      rfl
    | more first _ ih =>
      rw [List.splitOn_append_cons_self_of_not_mem (comma_not_mem_assignment first), List.mapM_cons,
        readAssignment_eq_some.mpr first, ih]
      rfl

/-- A text of the grammar is read as the map of its assignments. -/
theorem parse_of_assigns {text : String} (notBlank : text.toList.all isBlank = false)
    {pairs : List (String × String)} (assigns : Assigns text.toList pairs) :
    parse text = .ok (OrderedMap.ofPairs pairs) := by
  simp only [parse, notBlank, mapM_readAssignment_eq_some.mpr assigns]
  rfl

/-- A text that is neither blank nor of the grammar is refused. -/
theorem parse_of_no_assigns {text : String} (notBlank : text.toList.all isBlank = false)
    (outside : ∀ pairs, ¬ Assigns text.toList pairs) : parse text = .error (.malformedParameter text) := by
  have unread : (text.toList.splitOn ',').mapM readAssignment = none := by
    rw [Option.eq_none_iff_forall_ne_some]
    exact fun pairs read => outside pairs (mapM_readAssignment_eq_some.mp read)
  simp only [parse, notBlank, unread]
  rfl

/-- A blank text assigns nothing. Any other text can be read if and only if it follows the grammar; what it
assigns is then collected into a map, and otherwise the parameters are to blame. -/
theorem parse_follows_grammar (text : String) :
    (text.toList.all isBlank = true → parse text = .ok []) ∧
    (text.toList.all isBlank = false →
      ((∃ map, parse text = .ok map) ↔ ∃ pairs, Assigns text.toList pairs) ∧
      (∀ pairs, Assigns text.toList pairs → ∃ map, parse text = .ok map ∧ Collects pairs map) ∧
      ((∀ pairs, ¬ Assigns text.toList pairs) →
        ∃ error, parse text = .error error ∧ error.category = .configuration)) := by
  refine ⟨fun blank => if_pos blank, fun notBlank => ⟨⟨?_, ?_⟩, ?_, ?_⟩⟩
  · rintro ⟨map, parsed⟩
    by_contra outside
    rw [parse_of_no_assigns notBlank fun pairs assigns => outside ⟨pairs, assigns⟩] at parsed
    cases parsed
  · rintro ⟨pairs, assigns⟩
    exact ⟨_, parse_of_assigns notBlank assigns⟩
  · intro pairs assigns
    refine ⟨_, parse_of_assigns notBlank assigns, ?_, ?_⟩
    · exact OrderedMap.keys_ofPairs pairs
    · exact OrderedMap.get?_ofPairs pairs
  · intro outside
    exact ⟨_, parse_of_no_assigns notBlank outside, rfl⟩

/-- A text with filler of several sorts, a bare key, a value with signs that no key has and a key that is
assigned twice. -/
def rigging : String := "style=none,\tsail.cloth ,\x0cgrpc_package = @grpc/grpc-js\n, style=grpc-js"

theorem parse_follows_grammar_in_rigging :
    rigging.toList.all isBlank = false ∧
    parse rigging =
      .ok [("style", "grpc-js"), ("sail.cloth", ""), ("grpc_package", "@grpc/grpc-js")] ∧
    ∃ pairs, Assigns rigging.toList pairs ∧
      Collects pairs [("style", "grpc-js"), ("sail.cloth", ""), ("grpc_package", "@grpc/grpc-js")] := by
  have notBlank : rigging.toList.all isBlank = false := by decide +kernel
  have parsed : parse rigging =
      .ok [("style", "grpc-js"), ("sail.cloth", ""), ("grpc_package", "@grpc/grpc-js")] := by
    decide +kernel
  obtain ⟨readable, collected, _⟩ := (parse_follows_grammar rigging).2 notBlank
  obtain ⟨pairs, assigns⟩ := readable.mp ⟨_, parsed⟩
  obtain ⟨map, alsoParsed, collects⟩ := collected pairs assigns
  obtain rfl := Except.ok.inj (alsoParsed.symm.trans parsed)
  exact ⟨notBlank, parsed, pairs, assigns, collects⟩

end Parameter

end Typewire
