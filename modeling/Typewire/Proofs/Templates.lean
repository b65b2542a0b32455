import Typewire.Proofs.Brackets

/-!
# Templates of code

Code is written from templates: fixed characters with gaps that are filled with names, numbers, literals or
other code. A pattern keeps the fixed characters of a template and marks its gaps. Whether a pattern closes the
brackets it opens, in single lines and without an open string literal, can be computed.

A discipline is a property of texts and one of blocks that pass from what fills the gaps of a closing pattern
to the whole. What the templates of the generator produce is shown once to keep to any discipline. That code is
balanced is a discipline.
-/
namespace Typewire.Text

/-! ### Patterns -/

/-- The fixed parts of a template in order, with nothing for a gap. -/
abbrev Pattern := List (Option (List Char))

/-- What a pattern makes of the brackets that are awaited before it, if what fills its gaps has no effect. -/
def patternEffect? : Pattern → List Char → Option (List Char)
  | [], awaited => some awaited
  | none :: pattern, awaited => patternEffect? pattern awaited
  | some chars :: pattern, awaited => (effect? chars awaited).bind (patternEffect? pattern)

/-- Whether a pattern closes every bracket that it opens, and no other. -/
def closes (pattern : Pattern) : Bool :=
  patternEffect? pattern [] == some []

/-- A text follows a pattern, with texts of some kind in the gaps. -/
inductive Fits (P : String → Prop) : String → Pattern → Prop where
  | fixed {chars : List Char} : Fits P (String.ofList chars) [some chars]
  | gap {text : String} (filled : P text) : Fits P text [none]
  | append {first second : String} {pattern more : Pattern} (ofFirst : Fits P first pattern)
      (ofSecond : Fits P second more) : Fits P (first ++ second) (pattern ++ more)

/-- A block follows a pattern. The ends of its lines are not part of the pattern. -/
inductive FitsBlock (P : String → Prop) (Q : List String → Prop) : List String → Pattern → Prop where
  | nil : FitsBlock P Q [] []
  | cons {line : String} {lines : List String} {pattern more : Pattern} (ofLine : Fits P line pattern)
      (ofLines : FitsBlock P Q lines more) : FitsBlock P Q (line :: lines) (pattern ++ more)
  | gap {lines : List String} (filled : Q lines) : FitsBlock P Q lines [none]
  | append {first second : List String} {pattern more : Pattern} (ofFirst : FitsBlock P Q first pattern)
      (ofSecond : FitsBlock P Q second more) : FitsBlock P Q (first ++ second) (pattern ++ more)
  | join {first second : List String} {pattern more : Pattern} (ofFirst : FitsBlock P Q first pattern)
      (ofSecond : FitsBlock P Q second more) :
      FitsBlock P Q (joinBlocks first second) (pattern ++ more)
  | indent {lines : List String} {pattern : Pattern} (width : Nat) (ofLines : FitsBlock P Q lines pattern) :
      FitsBlock P Q (indent width lines) pattern
  | hang {before after : String} {lines : List String} {opening pattern closing : Pattern} (width : Nat)
      (ofBefore : Fits P before opening) (ofLines : FitsBlock P Q lines pattern)
      (ofAfter : Fits P after closing) :
      FitsBlock P Q (hang width before after lines) (opening ++ (pattern ++ closing))

/-- A template goes on with fixed characters. -/
theorem Fits.lit {P : String → Prop} {text : String} {pattern : Pattern} {chars : List Char}
    (ofText : Fits P text pattern) : Fits P (text ++ String.ofList chars) (pattern ++ [some chars]) :=
  ofText.append .fixed

/-- A template goes on with a gap. -/
theorem Fits.fill {P : String → Prop} {text filling : String} {pattern : Pattern}
    (ofText : Fits P text pattern) (filled : P filling) : Fits P (text ++ filling) (pattern ++ [none]) :=
  ofText.append (.gap filled)

/-! ### Blocks in one line -/

theorem joinBlocks_cons (line : String) {lines : List String} (nonempty : lines ≠ [])
    (second : List String) : joinBlocks (line :: lines) second = line :: joinBlocks lines second :=
  joinBlocks.eq_4 second line lines (fun _ empty => nonempty empty) fun _ _ _ empty => nonempty empty

theorem joinBlocks_ne_nil {first : List String} (nonempty : first ≠ []) (second : List String) :
    joinBlocks first second ≠ [] := by
  fun_cases joinBlocks first second with
  | case1 => exact absurd rfl nonempty
  | case2 line => simp
  | case3 line next rest => simp
  | case4 line lines => simp

theorem joinBlocks_nil (block : List String) : joinBlocks block [] = block := by
  induction block with
  | nil => rfl
  | cons line lines ih =>
    cases lines with
    | nil => rfl
    | cons next lines => rw [joinBlocks_cons line (List.cons_ne_nil _ _), ih]

theorem joinBlocks_assoc (first second third : List String) :
    joinBlocks (joinBlocks first second) third = joinBlocks first (joinBlocks second third) := by
  induction first with
  | nil => rfl
  | cons line lines ih =>
    cases lines with
    | cons next lines =>
      -- The first line is out of reach of what follows.
      have nonempty : next :: lines ≠ [] := List.cons_ne_nil _ _
      rw [joinBlocks_cons line nonempty, joinBlocks_cons line (joinBlocks_ne_nil nonempty second), ih,
        joinBlocks_cons line nonempty]
    | nil =>
      cases second with
      | nil => rfl
      | cons middle rest =>
        cases rest with
        | nil =>
          cases third with
          | nil => rfl
          | cons last more => simp only [joinBlocks, String.append_assoc]
        | cons after rest =>
          have nonempty : after :: rest ≠ [] := List.cons_ne_nil _ _
          rw [joinBlocks, joinBlocks_cons _ nonempty, joinBlocks_cons middle nonempty, joinBlocks]

theorem inline_append (first second : List (List String)) :
    inline (first ++ second) = joinBlocks (inline first) (inline second) := by
  induction first with
  | nil => rfl
  | cons block blocks ih =>
    have step : inline (block :: blocks ++ second) = joinBlocks block (inline (blocks ++ second)) := rfl
    rw [step, ih, ← joinBlocks_assoc]
    rfl

theorem inline_singleton (block : List String) : inline [block] = block :=
  joinBlocks_nil block

/-! ### Disciplines -/

/-- Properties of texts and of blocks that words and literals have, and that pass to whatever closes its own
brackets around texts and blocks that have them. -/
structure Discipline (P : String → Prop) (Q : List String → Prop) : Prop where
  word : ∀ text, (∀ c ∈ text.toList, isWord c = true) → P text
  literal : ∀ text, P (literal text)
  text : ∀ {text pattern}, Fits P text pattern → closes pattern = true → P text
  block : ∀ {lines pattern}, FitsBlock P Q lines pattern → closes pattern = true → Q lines

theorem patternEffect?_append (first second : Pattern) (awaited : List Char) :
    patternEffect? (first ++ second) awaited =
      (patternEffect? first awaited).bind (patternEffect? second) := by
  induction first generalizing awaited with
  | nil => rfl
  | cons part pattern ih =>
    cases part with
    | none => exact ih awaited
    | some chars =>
      rw [List.cons_append, patternEffect?, patternEffect?, Option.bind_assoc]
      exact Option.bind_congr fun between _ => ih between

/-- A text has the effect of its pattern, also when more brackets are awaited further out. -/
theorem Fits.effect {text : String} {pattern : Pattern} (fits : Fits Balanced text pattern)
    {awaited remaining : List Char} (ofPattern : patternEffect? pattern awaited = some remaining)
    (outer : List Char) : effect? text.toList (awaited ++ outer) = some (remaining ++ outer) := by
  induction fits generalizing awaited remaining with
  | @fixed chars =>
    obtain ⟨between, ofChars, last⟩ := Option.bind_eq_some_iff.mp ofPattern
    cases last
    rw [String.toList_ofList]
    exact effect?_outer ofChars outer
  | gap filled =>
    cases ofPattern
    exact filled _
  | append _ _ ofFirst ofSecond =>
    rw [patternEffect?_append] at ofPattern
    obtain ⟨between, first, second⟩ := Option.bind_eq_some_iff.mp ofPattern
    rw [String.toList_append]
    exact effect?_append (ofFirst first) (ofSecond second)

/-- A block opens and closes what the pattern it fits does, whatever is awaited further out. -/
theorem FitsBlock.effect {lines : List String} {pattern : Pattern}
    (fits : FitsBlock Balanced BalancedBlock lines pattern) {awaited remaining : List Char}
    (ofPattern : patternEffect? pattern awaited = some remaining) (outer : List Char) :
    blockEffect? lines (awaited ++ outer) = some (remaining ++ outer) := by
  -- The induction follows the way in which the block was put together.
  induction fits generalizing awaited remaining with
  | nil =>
    cases ofPattern
    rfl
  | cons ofLine _ ofLines =>
    rw [patternEffect?_append] at ofPattern
    obtain ⟨between, first, rest⟩ := Option.bind_eq_some_iff.mp ofPattern
    rw [blockEffect?, ofLine.effect first outer]
    exact ofLines rest
  | gap filled =>
    cases ofPattern
    exact filled _
  | append _ _ ofFirst ofSecond =>
    rw [patternEffect?_append] at ofPattern
    obtain ⟨between, first, second⟩ := Option.bind_eq_some_iff.mp ofPattern
    rw [blockEffect?_append, ofFirst first]
    exact ofSecond second
  | join _ _ ofFirst ofSecond =>
    rw [patternEffect?_append] at ofPattern
    obtain ⟨between, first, second⟩ := Option.bind_eq_some_iff.mp ofPattern
    exact blockEffect?_joinBlocks (ofFirst first) (ofSecond second)
  | indent width _ ofLines => exact blockEffect?_indent width (ofLines ofPattern)
  | hang width ofBefore _ ofAfter ofLines =>
    rw [patternEffect?_append] at ofPattern
    obtain ⟨opened, first, rest⟩ := Option.bind_eq_some_iff.mp ofPattern
    rw [patternEffect?_append] at rest
    obtain ⟨closed, inside, last⟩ := Option.bind_eq_some_iff.mp rest
    exact blockEffect?_hang width (ofBefore.effect first outer) (ofLines inside) (ofAfter.effect last outer)

/-- That code is balanced is a discipline. -/
theorem brackets : Discipline Balanced BalancedBlock where
  word _ words := balanced_of_neutral fun c member => isNeutral_of_isWord (words c member)
  literal := balanced_literal
  text fits closed := fun awaited => fits.effect (beq_iff_eq.mp closed) awaited
  block fits closed := fun awaited => fits.effect (beq_iff_eq.mp closed) awaited

namespace Discipline

variable {P : String → Prop} {Q : List String → Prop} (rules : Discipline P Q)

include rules

/-! ### Texts -/

theorem number (number : Int) : P (toString number) :=
  rules.word _ fun _ member => isWord_of_mem_number member

theorem natural (number : Nat) : P (toString number) :=
  rules.number (Int.ofNat number)

/-- A constant text that closes what it opens keeps to every discipline. -/
theorem constant {text : String} (closed : closes [some text.toList] = true) : P text := by
  have kept := rules.text (P := P) Fits.fixed closed
  rwa [String.ofList_toList] at kept

theorem boolLiteral (b : Bool) : P (Text.boolLiteral b) := by
  cases b <;> exact rules.text Fits.fixed (by decide)

theorem intercalate {texts : List String} (each : ∀ text ∈ texts, P text) :
    P (String.intercalate ", " texts) := by
  induction texts with
  | nil =>
    rw [String.intercalate_nil]
    exact rules.text Fits.fixed (by decide)
  | cons text texts ih =>
    rw [List.forall_mem_cons] at each
    cases texts with
    | nil =>
      rw [String.intercalate_singleton]
      exact each.1
    | cons next texts =>
      rw [String.intercalate_cons_cons]
      exact rules.text (Fits.gap each.1 |>.lit.fill (ih each.2)) (by decide)

theorem join {texts : List String} (each : ∀ text ∈ texts, P text) : P (String.join texts) := by
  induction texts with
  | nil =>
    rw [String.join_nil]
    exact rules.text Fits.fixed (by decide)
  | cons text texts ih =>
    rw [List.forall_mem_cons] at each
    rw [String.join_cons]
    exact rules.text (Fits.gap each.1 |>.fill (ih each.2)) (by decide)

theorem arrayLiteral {elements : List String} (each : ∀ element ∈ elements, P element) :
    P (Text.arrayLiteral elements) :=
  rules.text (Fits.fixed.fill (rules.intercalate each) |>.lit) (by decide)

theorem intArray (numbers : List Int) : P (Text.intArray numbers) := by
  apply rules.arrayLiteral
  intro element member
  obtain ⟨number, _, rfl⟩ := List.mem_map.mp member
  exact rules.number number

/-! ### Blocks -/

theorem nil : Q [] :=
  rules.block .nil (by decide)

theorem line {text : String} (kept : P text) : Q [text] :=
  rules.block (.cons (.gap kept) .nil) (by decide)

theorem append {first second : List String} (ofFirst : Q first) (ofSecond : Q second) :
    Q (first ++ second) :=
  rules.block (.append (.gap ofFirst) (.gap ofSecond)) (by decide)

theorem joined {first second : List String} (ofFirst : Q first) (ofSecond : Q second) :
    Q (joinBlocks first second) :=
  rules.block (.join (.gap ofFirst) (.gap ofSecond)) (by decide)

theorem indent (width : Nat) {lines : List String} (ofLines : Q lines) : Q (Text.indent width lines) :=
  rules.block (.indent width (.gap ofLines)) (by decide)

theorem flatten {blocks : List (List String)} (each : ∀ block ∈ blocks, Q block) : Q blocks.flatten := by
  induction blocks with
  | nil => exact rules.nil
  | cons block blocks ih =>
    rw [List.forall_mem_cons] at each
    rw [List.flatten_cons]
    exact rules.append each.1 (ih each.2)

theorem flatMap {α : Type} {xs : List α} {f : α → List String} (each : ∀ x ∈ xs, Q (f x)) :
    Q (xs.flatMap f) :=
  rules.flatten fun _ member => by
    obtain ⟨x, isElement, rfl⟩ := List.mem_map.mp member
    exact each x isElement

theorem map {α : Type} {xs : List α} {f : α → String} (each : ∀ x ∈ xs, P (f x)) : Q (xs.map f) := by
  induction xs with
  | nil => exact rules.nil
  | cons x xs ih =>
    rw [List.forall_mem_cons] at each
    exact rules.append (rules.line each.1) (ih each.2)

theorem punctuate {blocks : List (List String)} (each : ∀ block ∈ blocks, Q block) :
    Q (Text.punctuate blocks) := by
  fun_induction Text.punctuate blocks with
  | case1 => exact rules.nil
  | case2 block => exact each block List.mem_cons_self
  | case3 block blocks _ ih =>
    rw [List.forall_mem_cons] at each
    have comma : Q [","] := rules.line (rules.text Fits.fixed (by decide))
    exact rules.append (rules.joined each.1 comma) (ih each.2)

theorem inline {blocks : List (List String)} (each : ∀ block ∈ blocks, Q block) :
    Q (Text.inline blocks) := by
  induction blocks with
  | nil => exact rules.nil
  | cons block blocks ih =>
    rw [List.forall_mem_cons] at each
    exact rules.joined each.1 (ih each.2)

/-- Blocks that each continue the last line of the one before, with a separator between them. -/
theorem separated {blocks : List (List String)} {separator : List String} (isSeparator : Q separator)
    (each : ∀ block ∈ blocks, Q block) : Q (Text.inline (blocks.intersperse separator)) := by
  apply rules.inline
  induction blocks with
  | nil => simp
  | cons block blocks ih =>
    rw [List.forall_mem_cons] at each
    cases blocks with
    | nil => simpa using each.1
    | cons next blocks =>
      rw [List.intersperse_cons_cons]
      exact List.forall_mem_cons.mpr ⟨each.1, List.forall_mem_cons.mpr ⟨isSeparator, ih each.2⟩⟩

end Discipline

end Typewire.Text
