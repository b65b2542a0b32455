import Typewire.Text.Lines
import Typewire.Text.Literal

/-!
# Brackets in code

A reader that goes through code once, from left to right. It passes over string literals, in which a backslash
takes the next character with it, and keeps a list of the closing brackets that are still to come. Code is well
bracketed if the reader never meets a closing bracket it does not wait for, never meets a line break inside a
string literal, and ends outside all of them.

Code is made of lines, and a bracket opened in one line may be closed in another. The effect of a line is what
it does to the brackets that are awaited before it. Effects do not look at what lies further out, so they are
found with nothing else around, and a block has the effects of its lines one after the other.
-/
namespace Typewire.Text

/-! ### The reader -/

inductive Place where
  | code
  /-- Inside a string literal. -/
  | quoted
  /-- Behind a backslash inside a string literal. -/
  | escaped
  deriving Repr, DecidableEq

/-- What a reader of code knows: where it stands, and the closing brackets to come, the next one first. -/
structure Nesting where
  place : Place := .code
  awaited : List Char := []
  deriving Repr, DecidableEq

def closing? : Char → Option Char
  | '(' => some ')'
  | '[' => some ']'
  | '\x7b' => some '\x7d'
  | _ => none

def isClosing (c : Char) : Bool :=
  c == ')' || c == ']' || c == '\x7d'

/-- The brackets that are awaited after a character outside string literals. -/
def turn? (c : Char) (awaited : List Char) : Option (List Char) :=
  match closing? c with
  | some closing => some (closing :: awaited)
  | none =>
    if isClosing c then
      match awaited with
      | [] => none
      | next :: others => if next == c then some others else none
    else some awaited

namespace Nesting

def step (nesting : Nesting) (c : Char) : Option Nesting :=
  match nesting.place with
  | .code =>
    if c == '"' then some { nesting with place := .quoted }
    else (turn? c nesting.awaited).map fun awaited => { nesting with awaited }
  | .quoted =>
    if isBreak c then none
    else if c == '"' then some { nesting with place := .code }
    else if c == '\\' then some { nesting with place := .escaped }
    else some nesting
  | .escaped => if isBreak c then none else some { nesting with place := .quoted }

def read : Nesting → List Char → Option Nesting
  | nesting, [] => some nesting
  | nesting, c :: rest => (nesting.step c).bind fun next => next.read rest

/-- Reading two texts one after the other is reading the first and going on with the second. -/
theorem read_append (nesting : Nesting) (first second : List Char) :
    nesting.read (first ++ second) = (nesting.read first).bind fun next => next.read second := by
  induction first generalizing nesting with
  | nil => rfl
  | cons c rest ih =>
    rw [List.cons_append, read, read, Option.bind_assoc]
    exact Option.bind_congr fun next _ => ih next

/-- The awaited brackets further out are not looked at. -/
theorem turn?_outer {c : Char} {awaited remaining : List Char} (turned : turn? c awaited = some remaining)
    (outer : List Char) : turn? c (awaited ++ outer) = some (remaining ++ outer) := by
  unfold turn? at turned ⊢
  split at turned
  next closing opens =>
    cases turned
    rfl
  next notOpening =>
    split at turned
    next closes =>
      rw [if_pos closes]
      -- A closing bracket takes the first awaited one, which must be there without the outer ones.
      cases awaited with
      | nil => cases turned
      | cons next others =>
        dsimp only at turned
        split at turned
        next isNext =>
          cases turned
          exact if_pos isNext
        next => cases turned
    next neutral =>
      cases turned
      exact if_neg neutral

/-- What is awaited further out plays no part in a step. -/
theorem step_outer {place after : Place} {awaited remaining : List Char} {c : Char}
    (stepped : step ⟨place, awaited⟩ c = some ⟨after, remaining⟩) (outer : List Char) :
    step ⟨place, awaited ++ outer⟩ c = some ⟨after, remaining ++ outer⟩ := by
  cases place with
  | code =>
    unfold step at stepped ⊢
    dsimp only at stepped ⊢
    split at stepped
    next quote =>
      cases stepped
      exact if_pos quote
    next noQuote =>
      obtain ⟨left, turned, same⟩ := Option.map_eq_some_iff.mp stepped
      cases same
      rw [if_neg noQuote, turn?_outer turned outer, Option.map_some]
  | quoted =>
    -- Inside a string literal brackets are not even looked at.
    unfold step at stepped ⊢
    grind
  | escaped =>
    unfold step at stepped ⊢
    grind

theorem read_outer {place after : Place} {awaited remaining : List Char} {chars : List Char}
    (done : read ⟨place, awaited⟩ chars = some ⟨after, remaining⟩) (outer : List Char) :
    read ⟨place, awaited ++ outer⟩ chars = some ⟨after, remaining ++ outer⟩ := by
  induction chars generalizing place awaited with
  | nil =>
    cases done
    rfl
  | cons c rest ih =>
    obtain ⟨⟨between, left⟩, stepped, later⟩ := Option.bind_eq_some_iff.mp done
    rw [read, step_outer stepped outer, Option.bind_some]
    exact ih later

end Nesting

/-- All brackets of a text are closed in the order in which they were opened, and no string literal is left
open or goes beyond its line. -/
def IsWellBracketed (text : String) : Prop :=
  Nesting.read {} text.toList = some {}

instance (text : String) : Decidable (IsWellBracketed text) :=
  inferInstanceAs (Decidable (_ = _))

/-! ### Lines -/

/-- What a line makes of the brackets that are awaited before it, if it is one line that ends outside string
literals. -/
def effect? (line : List Char) (awaited : List Char) : Option (List Char) :=
  if line.any isBreak then none
  else
    match Nesting.read { awaited } line with
    | some ⟨.code, remaining⟩ => some remaining
    | _ => none

theorem effect?_eq_some {line awaited remaining : List Char} :
    effect? line awaited = some remaining ↔
      line.any isBreak = false ∧ Nesting.read { awaited } line = some { awaited := remaining } := by
  rw [effect?]
  split
  next broken => simp [broken]
  next unbroken =>
    simp only [Bool.not_eq_true] at unbroken
    split
    next left isCode => simp [unbroken, isCode]
    next other notCode =>
      simp only [reduceCtorEq, unbroken, true_and, false_iff]
      exact fun isCode => notCode _ isCode

/-- The effects of two parts of a line follow each other. -/
theorem effect?_append {first second awaited between remaining : List Char}
    (ofFirst : effect? first awaited = some between) (ofSecond : effect? second between = some remaining) :
    effect? (first ++ second) awaited = some remaining := by
  rw [effect?_eq_some] at ofFirst ofSecond ⊢
  rw [List.any_append, ofFirst.1, ofSecond.1, Nesting.read_append, ofFirst.2]
  exact ⟨rfl, ofSecond.2⟩

theorem effect?_outer {line awaited remaining : List Char}
    (ofLine : effect? line awaited = some remaining) (outer : List Char) :
    effect? line (awaited ++ outer) = some (remaining ++ outer) := by
  rw [effect?_eq_some] at ofLine ⊢
  exact ⟨ofLine.1, Nesting.read_outer ofLine.2 outer⟩

/-! ### Lines without effect -/

/-- A text in one line that leaves the awaited brackets as they are. -/
def Balanced (text : String) : Prop :=
  ∀ awaited, effect? text.toList awaited = some awaited

/-- A character that is no bracket, no quote and no line break. -/
def isNeutral (c : Char) : Bool :=
  !isBreak c && c != '"' && (closing? c).isNone && !isClosing c

def isWord (c : Char) : Bool :=
  c.isAlphanum || c == '_' || c == '.' || c == '-'

theorem toNat_of_isWord {c : Char} (word : isWord c = true) :
    (48 ≤ c.toNat ∧ c.toNat ≤ 57) ∨ (65 ≤ c.toNat ∧ c.toNat ≤ 90) ∨ (97 ≤ c.toNat ∧ c.toNat ≤ 122) ∨
      c.toNat = 95 ∨ c.toNat = 46 ∨ c.toNat = 45 := by
  have isOne : (c.isUpper || c.isLower || c.isDigit || c == '_' || c == '.' || c == '-') = true := word
  simp only [Bool.or_eq_true, beq_iff_eq] at isOne
  rcases isOne with ((((upper | lower) | digit) | rfl) | rfl) | rfl
  · have range : c.val ≥ 'A'.val ∧ c.val ≤ 'Z'.val := of_decide_eq_true upper
    exact .inr (.inl range)
  · have range : (decide (c.val ≥ 'a'.val) && decide (c.val ≤ 'z'.val)) = true := lower
    rw [Bool.and_eq_true, decide_eq_true_eq, decide_eq_true_eq] at range
    exact .inr (.inr (.inl range))
  · have range : (decide (c.val ≥ '0'.val) && decide (c.val ≤ '9'.val)) = true := digit
    rw [Bool.and_eq_true, decide_eq_true_eq, decide_eq_true_eq] at range
    exact .inl range
  · decide
  · decide
  · decide

theorem isNeutral_of_isWord {c : Char} (word : isWord c = true) : isNeutral c = true := by
  have noBreak : isBreak c = false := by
    have range := toNat_of_isWord word
    simp only [isBreak, Bool.or_eq_false_iff, Bool.and_eq_false_iff, decide_eq_false_iff_not,
      beq_eq_false_iff_ne]
    omega
  have noOpening : closing? c = none := by
    unfold closing?
    split
    · exact absurd word (by decide)
    · exact absurd word (by decide)
    · exact absurd word (by decide)
    · rfl
  have others : c ≠ '"' ∧ c ≠ ')' ∧ c ≠ ']' ∧ c ≠ '\x7d' := by
    refine ⟨?_, ?_, ?_, ?_⟩ <;>
    · rintro rfl
      exact absurd word (by decide)
  simp [isNeutral, isClosing, noBreak, noOpening, others]

theorem isWord_of_mem_repr {number : Nat} {c : Char} (member : c ∈ number.repr.toList) :
    isWord c = true := by
  rw [Nat.toList_repr] at member
  have digit := Nat.isDigit_of_mem_toDigits (by decide) (by decide) member
  simp [isWord, Char.isAlphanum, digit]

/-- The text of a number consists of characters of words. -/
theorem isWord_of_mem_number {number : Int} {c : Char} (member : c ∈ (toString number).toList) :
    isWord c = true := by
  cases number with
  | ofNat number => exact isWord_of_mem_repr member
  | negSucc number =>
    have written : toString (Int.negSucc number) = "-" ++ number.succ.repr := rfl
    rw [written, String.toList_append, List.mem_append] at member
    rcases member with isSign | inDigits
    · rw [show "-".toList = ['-'] from rfl, List.mem_singleton] at isSign
      rw [isSign]
      decide
    · exact isWord_of_mem_repr inDigits

theorem effect?_of_neutral {line : List Char} (neutral : ∀ c ∈ line, isNeutral c = true)
    (awaited : List Char) : effect? line awaited = some awaited := by
  induction line with
  | nil => rfl
  | cons c rest ih =>
    rw [List.forall_mem_cons] at neutral
    have alone : effect? [c] awaited = some awaited := by
      simp_all [isNeutral, effect?, Nesting.read, Nesting.step, turn?]
    exact effect?_append alone (ih neutral.2)

theorem balanced_of_neutral {text : String} (neutral : ∀ c ∈ text.toList, isNeutral c = true) :
    Balanced text :=
  effect?_of_neutral neutral

/-! ### String literals -/

/-- Characters inside a string literal that neither end the literal nor the line. -/
def StaysQuoted (chars : List Char) : Prop :=
  chars.any isBreak = false ∧
    ∀ awaited, Nesting.read ⟨.quoted, awaited⟩ chars = some ⟨.quoted, awaited⟩

theorem StaysQuoted.append {first second : List Char} (ofFirst : StaysQuoted first)
    (ofSecond : StaysQuoted second) : StaysQuoted (first ++ second) := by
  refine ⟨by rw [List.any_append, ofFirst.1, ofSecond.1, Bool.or_self], fun awaited => ?_⟩
  rw [Nesting.read_append, ofFirst.2, Option.bind_some, ofSecond.2]

theorem staysQuoted_singleton {c : Char} (unbroken : isBreak c = false) (noQuote : c ≠ '"')
    (noBackslash : c ≠ '\\') : StaysQuoted [c] := by
  refine ⟨by simp [unbroken], fun awaited => ?_⟩
  simp [Nesting.read, Nesting.step, unbroken, noQuote, noBackslash]

theorem staysQuoted_escape {c : Char} (unbroken : isBreak c = false) : StaysQuoted ['\\', c] := by
  have backslash : isBreak '\\' = false := by decide
  refine ⟨by simp [backslash, unbroken], fun awaited => ?_⟩
  simp [Nesting.read, Nesting.step, backslash, unbroken]

theorem staysQuoted_hex (width value : Nat) : StaysQuoted (hex width value) := by
  induction width generalizing value with
  | zero => exact ⟨rfl, fun _ => rfl⟩
  | succ width ih =>
    refine (ih (value / 16)).append ?_
    -- There are only sixteen digits.
    have digits : ∀ digit < 16, isBreak (hexDigit digit) = false ∧ hexDigit digit ≠ '"' ∧
        hexDigit digit ≠ '\\' := by decide
    obtain ⟨unbroken, noQuote, noBackslash⟩ := digits (value % 16) (Nat.mod_lt _ (by decide))
    exact staysQuoted_singleton unbroken noQuote noBackslash

theorem staysQuoted_unitEscape (unit : Nat) : StaysQuoted (unitEscape unit) :=
  (staysQuoted_escape (by decide)).append (staysQuoted_hex 4 unit)

/-- Whatever stands for a character in a literal leaves the literal open. -/
theorem staysQuoted_literalChar (c : Char) : StaysQuoted (literalChar c) := by
  unfold literalChar
  split
  next special =>
    apply staysQuoted_escape
    rcases Bool.or_eq_true_iff.mp special with isQuote | isBackslash
    · rw [beq_iff_eq.mp isQuote]
      decide
    · rw [beq_iff_eq.mp isBackslash]
      decide
  next ordinary =>
    -- The five control characters with an escape of their own.
    split
    · exact staysQuoted_escape (by decide)
    split
    · exact staysQuoted_escape (by decide)
    split
    · exact staysQuoted_escape (by decide)
    split
    · exact staysQuoted_escape (by decide)
    split
    · exact staysQuoted_escape (by decide)
    split
    next printable =>
      have unbroken : isBreak c = false := by
        simp only [Bool.and_eq_true, decide_eq_true_eq] at printable
        simp only [isBreak, Bool.or_eq_false_iff, Bool.and_eq_false_iff, decide_eq_false_iff_not,
          beq_eq_false_iff_ne]
        omega
      simp only [Bool.or_eq_true, beq_iff_eq, not_or] at ordinary
      exact staysQuoted_singleton unbroken ordinary.1 ordinary.2
    split
    · exact staysQuoted_unitEscape _
    · exact (staysQuoted_unitEscape _).append (staysQuoted_unitEscape _)

theorem staysQuoted_flatMap (chars : List Char) : StaysQuoted (chars.flatMap literalChar) := by
  induction chars with
  | nil => exact ⟨rfl, fun _ => rfl⟩
  | cons c rest ih =>
    rw [List.flatMap_cons]
    exact (staysQuoted_literalChar c).append ih

/-- A string literal has no effect, whatever text it denotes. -/
theorem balanced_literal (text : String) : Balanced (literal text) := by
  intro awaited
  have inside := staysQuoted_flatMap text.toList
  have opened : Nesting.read { awaited } ['"'] = some ⟨.quoted, awaited⟩ := rfl
  have closed : Nesting.read ⟨.quoted, awaited⟩ ['"'] = some { awaited } := rfl
  rw [literal, String.toList_ofList, effect?_eq_some]
  have parts : '"' :: text.toList.flatMap literalChar ++ ['"'] =
      ['"'] ++ (text.toList.flatMap literalChar ++ ['"']) := rfl
  constructor
  · rw [parts, List.any_append, List.any_append, inside.1]
    rfl
  · rw [parts, Nesting.read_append, opened, Option.bind_some, Nesting.read_append, inside.2,
      Option.bind_some, closed]

/-! ### Unbroken lines -/

theorem brokenLines_of_unbroken {chars : List Char} (unbroken : chars.any isBreak = false) :
    brokenLines chars = [chars] := by
  induction chars with
  | nil => rfl
  | cons c rest ih =>
    rw [List.any_cons, Bool.or_eq_false_iff] at unbroken
    have noReturn : c ≠ '\r' := by
      rintro rfl
      exact absurd unbroken.1 (by decide)
    rw [brokenLines.eq_4 c rest (fun isReturn _ => noReturn isReturn) fun _ isReturn _ => noReturn isReturn,
      if_neg (by simp [unbroken.1]), ih unbroken.2]

theorem pieces_of_unbroken {lines : List String}
    (unbroken : ∀ line ∈ lines, line.toList.any isBreak = false) : pieces lines = lines := by
  induction lines with
  | nil => rfl
  | cons line lines ih =>
    rw [List.forall_mem_cons] at unbroken
    have alone : pieces (line :: lines) = (brokenLines line.toList).map String.ofList ++ pieces lines :=
      List.flatMap_cons
    rw [alone, brokenLines_of_unbroken unbroken.1, List.map_singleton, String.ofList_toList, ih unbroken.2,
      List.singleton_append]

/-! ### Blocks -/

/-- What a block makes of the brackets that are awaited before it. -/
def blockEffect? : List String → List Char → Option (List Char)
  | [], awaited => some awaited
  | line :: lines, awaited => (effect? line.toList awaited).bind (blockEffect? lines)

/-- A block that leaves the awaited brackets as they are. -/
def BalancedBlock (lines : List String) : Prop :=
  ∀ awaited, blockEffect? lines awaited = some awaited

theorem blockEffect?_append (first second : List String) (awaited : List Char) :
    blockEffect? (first ++ second) awaited =
      (blockEffect? first awaited).bind (blockEffect? second) := by
  induction first generalizing awaited with
  | nil => rfl
  | cons line lines ih =>
    rw [List.cons_append, blockEffect?, blockEffect?, Option.bind_assoc]
    exact Option.bind_congr fun between _ => ih between

/-- No line of a block with an effect holds a line break. -/
theorem unbroken_of_blockEffect {lines : List String} {awaited remaining : List Char}
    (ofLines : blockEffect? lines awaited = some remaining) :
    ∀ line ∈ lines, line.toList.any isBreak = false := by
  induction lines generalizing awaited with
  | nil => simp
  | cons line lines ih =>
    obtain ⟨between, ofLine, ofRest⟩ := Option.bind_eq_some_iff.mp ofLines
    exact List.forall_mem_cons.mpr ⟨(effect?_eq_some.mp ofLine).1, ih ofRest⟩

/-- Going on in the last line of a block adds the effect of what goes on there. -/
theorem blockEffect?_joinBlocks {first second : List String} {awaited between remaining : List Char}
    (ofFirst : blockEffect? first awaited = some between)
    (ofSecond : blockEffect? second between = some remaining) :
    blockEffect? (joinBlocks first second) awaited = some remaining := by
  fun_induction joinBlocks first second generalizing awaited with
  | case1 second =>
    cases ofFirst
    exact ofSecond
  | case2 line =>
    cases ofSecond
    exact ofFirst
  | case3 line next rest =>
    -- The first line of the second block continues the only line of the first one.
    obtain ⟨after, ofLine, last⟩ := Option.bind_eq_some_iff.mp ofFirst
    cases last
    obtain ⟨beyond, ofNext, ofRest⟩ := Option.bind_eq_some_iff.mp ofSecond
    rw [blockEffect?, String.toList_append, effect?_append ofLine ofNext]
    exact ofRest
  | case4 line lines second _ _ ih =>
    obtain ⟨after, ofLine, ofRest⟩ := Option.bind_eq_some_iff.mp ofFirst
    rw [blockEffect?, ofLine]
    exact ih ofRest ofSecond

theorem balanced_blanks (width : Nat) : Balanced (blanks width) := by
  apply balanced_of_neutral
  intro c member
  rw [blanks, String.toList_ofList] at member
  rw [(List.mem_replicate.mp member).2]
  decide

theorem effect?_blanks (width : Nat) {line : String} {awaited remaining : List Char}
    (ofLine : effect? line.toList awaited = some remaining) :
    effect? (blanks width ++ line).toList awaited = some remaining := by
  rw [String.toList_append]
  exact effect?_append (balanced_blanks width awaited) ofLine

theorem blockEffect?_shift (width : Nat) {lines : List String} {awaited remaining : List Char}
    (ofLines : blockEffect? lines awaited = some remaining) :
    blockEffect? (lines.map (shift width)) awaited = some remaining := by
  induction lines generalizing awaited with
  | nil => exact ofLines
  | cons line lines ih =>
    obtain ⟨between, ofLine, ofRest⟩ := Option.bind_eq_some_iff.mp ofLines
    have shifted : effect? (shift width line).toList awaited = some between := by
      rw [shift]
      split
      · exact ofLine
      · exact effect?_blanks width ofLine
    rw [List.map_cons, blockEffect?, shifted]
    exact ih ofRest

/-- Indentation opens and closes nothing. -/
theorem blockEffect?_indent (width : Nat) {lines : List String} {awaited remaining : List Char}
    (ofLines : blockEffect? lines awaited = some remaining) :
    blockEffect? (indent width lines) awaited = some remaining := by
  rw [indent, pieces_of_unbroken (unbroken_of_blockEffect ofLines)]
  cases lines with
  | nil => exact ofLines
  | cons line lines =>
    obtain ⟨between, ofLine, ofRest⟩ := Option.bind_eq_some_iff.mp ofLines
    rw [blockEffect?, effect?_blanks width ofLine]
    exact blockEffect?_shift width ofRest

theorem blockEffect?_singleton {line : String} {awaited remaining : List Char}
    (ofLine : effect? line.toList awaited = some remaining) :
    blockEffect? [line] awaited = some remaining := by
  rw [blockEffect?, ofLine]
  rfl

/-- A block that hangs between two texts has the effects of all three, in turn. -/
theorem blockEffect?_hang (width : Nat) {before after : String} {lines : List String}
    {awaited opened closed remaining : List Char} (ofBefore : effect? before.toList awaited = some opened)
    (ofLines : blockEffect? lines opened = some closed)
    (ofAfter : effect? after.toList closed = some remaining) :
    blockEffect? (hang width before after lines) awaited = some remaining := by
  rw [hang, pieces_of_unbroken (unbroken_of_blockEffect ofLines)]
  cases lines with
  | nil =>
    cases ofLines
    apply blockEffect?_singleton
    rw [String.toList_append]
    exact effect?_append ofBefore ofAfter
  | cons line lines =>
    obtain ⟨between, ofLine, ofRest⟩ := Option.bind_eq_some_iff.mp ofLines
    refine blockEffect?_joinBlocks ?_ (blockEffect?_singleton ofAfter)
    rw [blockEffect?, String.toList_append, effect?_append ofBefore ofLine]
    exact blockEffect?_shift width ofRest

/-! ### Written out -/

theorem read_of_effect? {line awaited remaining : List Char}
    (ofLine : effect? line awaited = some remaining) :
    Nesting.read { awaited } line = some { awaited := remaining } :=
  (effect?_eq_some.mp ofLine).2

/-- Between the lines of a block the reader stands outside string literals, where a line feed does not
matter. -/
theorem read_unlines {lines : List String} {awaited remaining : List Char}
    (ofLines : blockEffect? lines awaited = some remaining) :
    Nesting.read { awaited } (unlines lines).toList = some { awaited := remaining } := by
  induction lines generalizing awaited with
  | nil =>
    cases ofLines
    rfl
  | cons line lines ih =>
    obtain ⟨between, ofLine, ofRest⟩ := Option.bind_eq_some_iff.mp ofLines
    cases lines with
    | nil =>
      cases ofRest
      rw [unlines, String.intercalate_singleton]
      exact read_of_effect? ofLine
    | cons next lines =>
      -- Between two lines a reader stands outside string literals, where a line feed has no effect.
      have lineFeed : Nesting.read { awaited := between } "\n".toList = some { awaited := between } := rfl
      rw [unlines, String.intercalate_cons_cons, String.toList_append, String.toList_append,
        Nesting.read_append, Nesting.read_append, read_of_effect? ofLine, Option.bind_some, lineFeed,
        Option.bind_some]
      exact ih ofRest

/-- The text of a balanced block is well bracketed. -/
theorem isWellBracketed_unlines {lines : List String} (balanced : BalancedBlock lines) :
    IsWellBracketed (unlines lines) :=
  read_unlines (balanced [])

end Typewire.Text
