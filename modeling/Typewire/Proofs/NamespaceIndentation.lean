import Typewire.Proofs.WellBracketed

/-!
# Namespaces only indent

A namespace takes the text of its body apart into lines and moves each of them to the right. A text falls
apart at every character that breaks lines, and the lines are put together again with line feeds, so a break
inside a line would be lost and what follows it would be moved. The code of declarations has no such break,
though names and defaults come from a schema: literals are written in printable ASCII, and all else is
assumed to be in one line.

## Main result

`namespaces_only_indent`: around any declarations that were made for a file, namespaces add their own lines
and blanks in front of the lines between them, at every depth.

## Proof strategy

That a text has no line break is a discipline, so every line of code keeps to it. A block that keeps to it is
indented line by line, and moving a line twice is moving it once by the sum.
-/
namespace Typewire

namespace Text

/-! ### Lines without breaks -/

def keepsLine (c : Char) : Bool :=
  !isBreak c

/-- A block each line of which is one line. -/
def InLines (lines : List String) : Prop :=
  ∀ line ∈ lines, Consists keepsLine line

theorem consists_keepsLine {text : String} :
    Consists keepsLine text ↔ text.toList.any isBreak = false := by
  simp [Consists, keepsLine]

theorem admitsWords_keepsLine : AdmitsWords keepsLine := by
  intro c word
  have neutral := isNeutral_of_isWord word
  simp only [isNeutral, Bool.and_eq_true] at neutral
  exact neutral.1.1.1

theorem consists_blanks (width : Nat) : Consists keepsLine (blanks width) := by
  intro c member
  rw [blanks, String.toList_ofList] at member
  rw [(List.mem_replicate.mp member).2]
  decide

theorem Consists.shift {line : String} (ofLine : Consists keepsLine line) (width : Nat) :
    Consists keepsLine (shift width line) := by
  rw [Text.shift]
  split
  · exact ofLine
  · exact (consists_blanks width).append ofLine

theorem InLines.pieces {lines : List String} (ofLines : InLines lines) : Text.pieces lines = lines :=
  pieces_of_unbroken fun line member => consists_keepsLine.mp (ofLines line member)

theorem InLines.shift {lines : List String} (ofLines : InLines lines) (width : Nat) :
    InLines (lines.map (Text.shift width)) := by
  intro moved member
  obtain ⟨line, isLine, rfl⟩ := List.mem_map.mp member
  exact (ofLines line isLine).shift width

theorem InLines.joinBlocks {first second : List String} (ofFirst : InLines first)
    (ofSecond : InLines second) : InLines (joinBlocks first second) := by
  fun_induction Text.joinBlocks first second with
  | case1 second => exact ofSecond
  | case2 line => exact ofFirst
  | case3 line next rest =>
    rw [InLines, List.forall_mem_cons] at ofFirst ofSecond ⊢
    exact ⟨ofFirst.1.append ofSecond.1, ofSecond.2⟩
  | case4 line lines second _ _ ih =>
    rw [InLines, List.forall_mem_cons] at ofFirst ⊢
    exact ⟨ofFirst.1, ih ofFirst.2 ofSecond⟩

theorem Fits.keepsLine {text : String} {pattern : Pattern} (fits : Fits (Consists keepsLine) text pattern)
    {awaited remaining : List Char} (ofPattern : patternEffect? pattern awaited = some remaining) :
    Consists Text.keepsLine text := by
  induction fits generalizing awaited remaining with
  | @fixed chars =>
    -- A pattern with a line break among its fixed characters has no effect.
    obtain ⟨between, ofChars, _⟩ := Option.bind_eq_some_iff.mp ofPattern
    rw [consists_keepsLine, String.toList_ofList]
    exact (effect?_eq_some.mp ofChars).1
  | gap filled => exact filled
  | append _ _ ofFirst ofSecond =>
    rw [patternEffect?_append] at ofPattern
    obtain ⟨between, first, second⟩ := Option.bind_eq_some_iff.mp ofPattern
    exact (ofFirst first).append (ofSecond second)

theorem FitsBlock.inLines {lines : List String} {pattern : Pattern}
    (fits : FitsBlock (Consists keepsLine) InLines lines pattern) {awaited remaining : List Char}
    (ofPattern : patternEffect? pattern awaited = some remaining) : InLines lines := by
  -- Fixed parts hold no line break, or the pattern would have no effect; gaps hold none by assumption.
  induction fits generalizing awaited remaining with
  | nil => exact fun line member => nomatch member
  | cons ofLine _ ofLines =>
    rw [patternEffect?_append] at ofPattern
    obtain ⟨between, first, rest⟩ := Option.bind_eq_some_iff.mp ofPattern
    exact List.forall_mem_cons.mpr ⟨ofLine.keepsLine first, ofLines rest⟩
  | gap filled => exact filled
  | append _ _ ofFirst ofSecond =>
    rw [patternEffect?_append] at ofPattern
    obtain ⟨between, first, second⟩ := Option.bind_eq_some_iff.mp ofPattern
    exact List.forall_mem_append.mpr ⟨ofFirst first, ofSecond second⟩
  | join _ _ ofFirst ofSecond =>
    rw [patternEffect?_append] at ofPattern
    obtain ⟨between, first, second⟩ := Option.bind_eq_some_iff.mp ofPattern
    exact (ofFirst first).joinBlocks (ofSecond second)
  | @indent lines pattern width _ ofLines =>
    have inside := ofLines ofPattern
    rw [Text.indent, inside.pieces]
    cases lines with
    | nil => exact inside
    | cons line lines =>
      rw [InLines, List.forall_mem_cons] at inside ⊢
      exact ⟨(consists_blanks width).append inside.1, InLines.shift inside.2 width⟩
  | @hang before after lines opening pattern closing width ofBefore _ ofAfter ofLines =>
    rw [patternEffect?_append] at ofPattern
    obtain ⟨opened, first, rest⟩ := Option.bind_eq_some_iff.mp ofPattern
    rw [patternEffect?_append] at rest
    obtain ⟨closed, middle, last⟩ := Option.bind_eq_some_iff.mp rest
    have start := ofBefore.keepsLine first
    have inside := ofLines middle
    have finish := ofAfter.keepsLine last
    rw [Text.hang, inside.pieces]
    cases lines with
    | nil => exact List.forall_mem_singleton.mpr (start.append finish)
    | cons line lines =>
      rw [InLines, List.forall_mem_cons] at inside
      refine InLines.joinBlocks ?_ (List.forall_mem_singleton.mpr finish)
      exact List.forall_mem_cons.mpr ⟨start.append inside.1, InLines.shift inside.2 width⟩

/-- That code has no breaks inside its lines is a discipline. -/
theorem lineBreaks : Discipline (Consists keepsLine) InLines where
  word _ words := fun c member => admitsWords_keepsLine c (words c member)
  literal text := consists_keepsLine.mpr (effect?_eq_some.mp (balanced_literal text [])).1
  text fits closed := fits.keepsLine (beq_iff_eq.mp closed)
  block fits closed := fits.inLines (beq_iff_eq.mp closed)

/-! ### Moving lines -/

theorem blanks_append (first second : Nat) : blanks first ++ blanks second = blanks (first + second) := by
  apply String.toList_inj.mp
  simp [blanks]

theorem shift_of_ne {line : String} (nonempty : line ≠ "") (width : Nat) :
    shift width line = blanks width ++ line :=
  if_neg nonempty

theorem shift_zero (line : String) : shift 0 line = line := by
  rw [shift]
  split
  · rfl
  · apply String.toList_inj.mp
    simp [blanks]

theorem shift_blanks_append {line : String} (nonempty : line ≠ "") (outer inner : Nat) :
    shift outer (blanks inner ++ line) = blanks (outer + inner) ++ line := by
  rw [shift_of_ne (by simp [nonempty]), ← String.append_assoc, blanks_append]

theorem shift_shift (outer inner : Nat) (line : String) :
    shift outer (shift inner line) = shift (outer + inner) line := by
  by_cases empty : line = ""
  · simp [shift, empty]
  · rw [shift_of_ne empty, shift_of_ne empty, shift_blanks_append empty]

/-- A block whose first line is not empty is moved as a whole. -/
theorem InLines.indent {lines : List String} (ofLines : InLines lines) (headed : lines.head? ≠ some "")
    (width : Nat) : indent width lines = lines.map (Text.shift width) := by
  rw [Text.indent, ofLines.pieces]
  cases lines with
  | nil => rfl
  | cons line lines =>
    have nonempty : line ≠ "" := fun empty => headed (congrArg some empty)
    rw [List.map_cons, shift_of_ne nonempty]

/-- The lines of a block are found again between the line feeds of its text. -/
theorem splitAtChar_unlines {lines : List String} (nonempty : lines ≠ []) (ofLines : InLines lines) :
    splitAtChar '\n' (unlines lines) = lines := by
  refine splitAtChar_intercalate rfl nonempty fun line member lineFeed => ?_
  exact absurd (ofLines line member '\n' lineFeed) (by decide)

/-! ### Literals in lines -/

/-- A text stands somewhere in the line at a position. -/
def StandsAt (lines : List String) (position : Nat) (text : String) : Prop :=
  ∃ line, lines[position]? = some line ∧ text.toList <:+: line.toList

/-- What starts with no blank is not in front of a line. -/
theorem infix_blanks_iff {c : Char} (notBlank : c ≠ ' ') {rest chars : List Char} (width : Nat) :
    c :: rest <:+: List.replicate width ' ' ++ chars ↔ c :: rest <:+: chars := by
  induction width with
  | zero => simp
  | succ width ih =>
    rw [List.replicate_succ, List.cons_append, List.infix_cons_iff, ih, or_iff_right]
    intro front
    exact notBlank (List.cons_prefix_cons.mp front).1

/-- Indentation neither makes nor breaks a literal. -/
theorem literal_infix_shift_iff (text line : String) (width : Nat) :
    (literal text).toList <:+: (shift width line).toList ↔ (literal text).toList <:+: line.toList := by
  rw [shift]
  split
  · exact Iff.rfl
  · rw [String.toList_append, blanks, String.toList_ofList, literal, String.toList_ofList,
      List.cons_append]
    exact infix_blanks_iff (by decide) width

end Text

open Schema (File)
open Text (Consists)

namespace Code

/-! ### Namespaces around declarations -/

/-- Declarations in namespaces one inside the other, the outermost first. -/
def nest : List String → List Declaration → List Declaration
  | [], decls => decls
  | name :: names, decls => [.namespaced name (nest names decls)]

/-- The lines that open namespaces one inside the other. -/
def openings (names : List String) : List String :=
  names.mapIdx fun depth name => Text.blanks (4 * depth) ++ ("export namespace " ++ name ++ " \x7b")

/-- The lines that close as many namespaces, the innermost first. -/
def closings (count : Nat) : List String :=
  (List.range count).reverse.map fun depth => Text.blanks (4 * depth) ++ "\x7d"

/-- The outermost namespace opens first, and the others open below it, further to the right. -/
theorem openings_cons (name : String) (names : List String) :
    openings (name :: names) =
      ("export namespace " ++ name ++ " \x7b") :: (openings names).map (Text.shift 4) := by
  rw [openings, List.mapIdx_cons]
  congr 1
  refine List.ext_getElem? fun depth => ?_
  rw [openings, List.getElem?_map, List.getElem?_mapIdx, List.getElem?_mapIdx, Option.map_map]
  refine congrArg (Option.map · names[depth]?) (funext fun inner => ?_)
  rw [Function.comp_apply, Text.shift_blanks_append (by simp), Nat.mul_succ, Nat.add_comm]

theorem closings_succ (count : Nat) :
    closings (count + 1) = (closings count).map (Text.shift 4) ++ ["\x7d"] := by
  rw [closings, List.range_succ_eq_map, List.reverse_cons, List.map_append, ← List.map_reverse, List.map_map,
    closings, List.map_map]
  congr 1
  refine List.map_congr_left fun depth _ => ?_
  rw [Function.comp_apply, Function.comp_apply, Text.shift_blanks_append (by decide), Nat.mul_succ,
    Nat.add_comm]

theorem openings_inLines {names : List String} (ofNames : ∀ name ∈ names, Consists Text.keepsLine name) :
    Text.InLines (openings names) := by
  intro line member
  obtain ⟨depth, isAt, rfl⟩ := List.mem_mapIdx.mp member
  have opening : Consists Text.keepsLine "export namespace " := by decide
  have brace : Consists Text.keepsLine " \x7b" := by decide
  exact (Text.consists_blanks _).append ((opening.append (ofNames _ (List.getElem_mem isAt))).append brace)

theorem closings_inLines (count : Nat) : Text.InLines (closings count) := by
  intro line member
  obtain ⟨depth, _, rfl⟩ := List.mem_map.mp member
  exact (Text.consists_blanks _).append (by decide)

/-- The code of a declaration starts with a keyword. -/
theorem Declaration.head_lines (decl : Declaration) : ∃ line rest, decl.lines = line :: rest ∧ line ≠ "" := by
  cases decl <;> exact ⟨_, _, rfl, by simp [toString]⟩

theorem head_renderLines {decls : List Declaration} (nonempty : decls ≠ []) :
    ∃ line rest, renderLines decls = line :: rest ∧ line ≠ "" := by
  cases decls with
  | nil => exact absurd rfl nonempty
  | cons decl decls =>
    obtain ⟨line, rest, isHead, notEmpty⟩ := decl.head_lines
    refine ⟨line, rest ++ (Declaration.blocks decls).flatten, ?_, notEmpty⟩
    rw [renderLines, Declaration.blocks, stack, if_neg (by simp), List.flatten_cons, isHead,
      List.cons_append]

/-- A namespace is its opening line, its body moved to the right, and its closing line. -/
theorem renderLines_namespaced (name : String) (body : List Declaration) :
    renderLines [.namespaced name body] =
      ("export namespace " ++ name ++ " \x7b") :: (Text.indent 4 (renderLines body) ++ ["\x7d"]) := by
  rw [renderLines, Declaration.blocks, Declaration.blocks, stack, if_neg (by simp), List.flatten_cons,
    List.flatten_nil, List.append_nil, Declaration.lines, namespaceLines]
  rfl

/-- Namespaces add their lines around a block and move it to the right. -/
theorem renderLines_nest {names : List String} (ofNames : ∀ name ∈ names, Consists Text.keepsLine name)
    {decls : List Declaration} (nonempty : decls ≠ []) (ofLines : Text.InLines (renderLines decls)) :
    renderLines (nest names decls) =
      openings names ++ (renderLines decls).map (Text.shift (4 * names.length)) ++ closings names.length := by
  -- The induction goes inwards: what the outermost namespace moves was put together by the inner ones.
  induction names with
  | nil =>
    have same : (renderLines decls).map (Text.shift 0) = renderLines decls :=
      (List.map_congr_left fun line _ => Text.shift_zero line).trans (List.map_id _)
    rw [nest, List.length_nil, Nat.mul_zero, same]
    exact (List.append_nil _).symm
  | cons name names ih =>
    rw [List.forall_mem_cons] at ofNames
    have inner := ih ofNames.2
    have innerLines : Text.InLines (renderLines (nest names decls)) := by
      rw [inner, Text.InLines, List.forall_mem_append, List.forall_mem_append]
      exact ⟨⟨openings_inLines ofNames.2, ofLines.shift _⟩, closings_inLines _⟩
    have innerNonempty : nest names decls ≠ [] := by
      cases names with
      | nil => exact nonempty
      | cons _ _ => exact List.cons_ne_nil _ _
    have headed : (renderLines (nest names decls)).head? ≠ some "" := by
      obtain ⟨line, rest, isHead, notEmpty⟩ := head_renderLines innerNonempty
      rw [isHead, List.head?_cons]
      exact fun empty => notEmpty (Option.some.inj empty)
    have moved : Text.shift 4 ∘ Text.shift (4 * names.length) = Text.shift (4 * (names.length + 1)) := by
      funext line
      rw [Function.comp_apply, Text.shift_shift, Nat.mul_succ, Nat.add_comm]
    rw [nest, renderLines_namespaced, innerLines.indent headed, inner, List.map_append, List.map_append,
      List.map_map, moved, openings_cons, List.length_cons, closings_succ]
    simp only [List.cons_append, List.append_assoc]

/-- A closing line holds no literal. -/
theorem literal_not_in_closing (text : String) {count : Nat} {line : String} (closes : line ∈ closings count) :
    ¬ (Text.literal text).toList <:+: line.toList := by
  obtain ⟨depth, _, rfl⟩ := List.mem_map.mp closes
  rw [String.toList_append, Text.blanks, String.toList_ofList, Text.literal, String.toList_ofList,
    List.cons_append, Text.infix_blanks_iff (by decide)]
  intro inside
  have quote : '"' ∈ "\x7d".toList := inside.subset List.mem_cons_self
  revert quote
  decide

/-- A literal stands in the moved lines where it stood before, and nowhere in the lines that close. -/
theorem standsAt_literal_iff (before lines : List String) (width count position : Nat) (text : String) :
    Text.StandsAt (before ++ lines.map (Text.shift width) ++ closings count) (before.length + position)
      (Text.literal text) ↔ Text.StandsAt lines position (Text.literal text) := by
  rw [List.append_assoc, Text.StandsAt, Text.StandsAt, List.getElem?_append_right (by omega),
    Nat.add_sub_cancel_left]
  by_cases within : position < lines.length
  · rw [List.getElem?_append_left (by simpa using within), List.getElem?_map,
      List.getElem?_eq_getElem within]
    simp [Text.literal_infix_shift_iff]
  · have beyond : lines[position]? = none := List.getElem?_eq_none (by omega)
    rw [List.getElem?_append_right (by simpa using within), beyond]
    constructor
    · rintro ⟨line, isAt, inside⟩
      exact absurd inside (literal_not_in_closing text (List.mem_of_getElem? isAt))
    · rintro ⟨line, isAt, _⟩
      cases isAt

end Code

namespace Generator

open Code

/-- Around declarations that were made for a file, namespaces add one line each at the top and at the bottom,
four blanks further to the right with each namespace. The lines between them are those of the declarations
alone, moved to the right unless they are empty. No line has a break inside, and every string literal
stands in its line as before. -/
theorem namespaces_only_indent {files : List File}
    (inLine : ∀ file ∈ files, file.Consists Text.keepsLine) {file : File} (member : file ∈ files)
    {style : Style} {context : Context}
    (resolved : Generator.context (SymbolTable.ofFiles files) style file = .ok context) {uses : RootUses}
    {naming : Rpc.Naming} {decls : List Declaration} (assembled : Assembled style context uses naming decls)
    (nonempty : decls ≠ []) {names : List String}
    (ofNames : ∀ name ∈ names, Consists Text.keepsLine name) :
    let alone := Text.splitAtChar '\n' (render decls)
    let nested := Text.splitAtChar '\n' (render (nest names decls))
    nested = openings names ++ alone.map (Text.shift (4 * names.length)) ++ closings names.length ∧
    (∀ line ∈ alone ++ nested, Consists Text.keepsLine line) ∧
    ∀ position text, Text.StandsAt nested (names.length + position) (Text.literal text) ↔
      Text.StandsAt alone position (Text.literal text) := by
  have consists : context.Consists Text.keepsLine := by
    obtain ⟨imports, named, rfl⟩ := context_eq_ok.mp resolved
    exact Context.consists_of_resolved Text.admitsWords_keepsLine inLine member rfl named
  obtain ⟨_, _, carry⟩ := assembled.carried Text.lineBreaks Text.admitsWords_keepsLine (fun _ => id) consists
  have ofLines : Text.InLines (renderLines decls) := renderLines_kept Text.lineBreaks carry
  have isNested := renderLines_nest ofNames nonempty ofLines
  have ofNested : Text.InLines (renderLines (nest names decls)) := by
    rw [isNested, Text.InLines, List.forall_mem_append, List.forall_mem_append]
    exact ⟨⟨openings_inLines ofNames, ofLines.shift _⟩, closings_inLines _⟩
  obtain ⟨line, rest, isHead, _⟩ := head_renderLines nonempty
  -- Lines without line feeds are the parts of the text between line feeds.
  have aloneLines : Text.splitAtChar '\n' (render decls) = renderLines decls :=
    Text.splitAtChar_unlines (isHead ▸ List.cons_ne_nil _ _) ofLines
  have nestedLines : Text.splitAtChar '\n' (render (nest names decls)) = renderLines (nest names decls) := by
    refine Text.splitAtChar_unlines ?_ ofNested
    simp [isNested, isHead]
  intro alone nested
  rw [show alone = _ from aloneLines, show nested = _ from nestedLines]
  refine ⟨isNested, List.forall_mem_append.mpr ⟨ofLines, ofNested⟩, fun position text => ?_⟩
  have depth : (openings names).length = names.length := List.length_mapIdx
  have stands := standsAt_literal_iff (openings names) (renderLines decls) (4 * names.length) names.length
    position text
  rwa [depth, ← isNested] at stands

/-- The code of `riddle`, whose defaults hold line breaks, in two namespaces. -/
theorem namespaces_only_indent_in_riddle :
    (∀ file ∈ [riddle], file.Consists Text.keepsLine) ∧ riddleCompilation.body ≠ [] ∧
    (let alone := Text.splitAtChar '\n' (render (wrap .node riddle riddleCompilation.body))
     let nested := Text.splitAtChar '\n'
       (render (nest ["north", "east"] (wrap .node riddle riddleCompilation.body)))
     nested = openings ["north", "east"] ++ alone.map (Text.shift 8) ++ closings 2 ∧
     (∀ line ∈ alone ++ nested, Consists Text.keepsLine line) ∧
     ∀ position text, Text.StandsAt nested (2 + position) (Text.literal text) ↔
       Text.StandsAt alone position (Text.literal text)) := by
  have inLine : ∀ file ∈ [riddle], file.Consists Text.keepsLine := by decide +kernel
  have nonempty : wrap .node riddle riddleCompilation.body ≠ [] := by
    rw [wrap]
    exact List.cons_ne_nil _ _
  exact ⟨inLine, by decide +kernel, namespaces_only_indent inLine List.mem_cons_self
    riddleCompilation.resolved riddleCompilation.assembled nonempty (by decide)⟩

end Generator

end Typewire
