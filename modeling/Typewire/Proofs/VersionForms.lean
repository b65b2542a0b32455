import Typewire.Proofs.Effects
import Typewire.Proofs.LongestRuns
import Typewire.Proofs.Numerals
import Typewire.Version

/-!
# The forms of a version text

A version is written in one of six forms: one, two or three numerals with dots between them, alone or
followed by a hyphen and a suffix. A line feed may end the text.

## Main result

`versions_parse_exactly`: the plain decimal texts denote what they spell; a text is a version if and only if it
has one of the forms and no numeral is too long; every text of no form is refused as an argument; and the
shown numbers of a version denote the version again, without its suffix.

## Proof strategy

No digit is a dot, a hyphen or a line feed, so the longest run of digits is the only numeral that a form
can have at that place, whatever the suffix holds. So the numerals are found one after the other, and each
part of a form is read back by the part of the reader that is meant for it.
-/
namespace Typewire.Version

open Text (Numeral Stops dropWhile_of_stops isDecimal takeWhile_of_stops)

/-! ### Forms -/

/-- The numerals of a version. The later ones may be missing. -/
inductive Numerals where
  | one (major : Numeral)
  | two (major minor : Numeral)
  | three (major minor patch : Numeral)

namespace Numerals

def toList : Numerals → List Numeral
  | one major => [major]
  | two major minor => [major, minor]
  | three major minor patch => [major, minor, patch]

def chars : Numerals → List Char
  | one major => major.digits
  | two major minor => major.digits ++ '.' :: minor.digits
  | three major minor patch => major.digits ++ '.' :: (minor.digits ++ '.' :: patch.digits)

def written (suffix : List Char) : Numerals → Written
  | one major => ⟨major.digits, [], [], suffix⟩
  | two major minor => ⟨major.digits, minor.digits, [], suffix⟩
  | three major minor patch => ⟨major.digits, minor.digits, patch.digits, suffix⟩

def version (suffix : String) : Numerals → Version
  | one major => ⟨major.value, 0, 0, suffix⟩
  | two major minor => ⟨major.value, minor.value, 0, suffix⟩
  | three major minor patch => ⟨major.value, minor.value, patch.value, suffix⟩

end Numerals

/-- What follows the numbers: a suffix after a hyphen, or nothing when there is no suffix. -/
def hyphenated (suffix : String) : String :=
  if suffix = "" then "" else "-" ++ suffix

def lineEnd (ended : Bool) : String :=
  if ended then "\n" else ""

/-- A way to write a version. -/
structure Form where
  numerals : Numerals
  suffix : String
  oneLine : '\n' ∉ suffix.toList
  /-- Whether a line feed ends the text. -/
  ended : Bool

namespace Form

def text (form : Form) : String :=
  String.ofList form.numerals.chars ++ hyphenated form.suffix ++ lineEnd form.ended

def version (form : Form) : Version :=
  form.numerals.version form.suffix

def Fits (form : Form) : Prop :=
  ∀ numeral ∈ form.numerals.toList, numeral.digits.length ≤ Text.digitLimit

end Form

/-! ### Reading what follows the numbers -/

theorem toList_lineEnd (ended : Bool) : (lineEnd ended).toList = if ended then ['\n'] else [] := by
  cases ended <;> rfl

theorem toList_hyphenated (suffix : String) :
    (hyphenated suffix).toList = if suffix.toList = [] then [] else '-' :: suffix.toList := by
  by_cases empty : suffix = ""
  · simp [hyphenated, empty]
  · simp [hyphenated, empty]

theorem dropFinalBreak_append {cs : List Char} (oneLine : '\n' ∉ cs) (ended : Bool) :
    dropFinalBreak (cs ++ (lineEnd ended).toList) = cs := by
  cases ended with
  | true => simp [toList_lineEnd, dropFinalBreak]
  | false =>
    have unended : cs.getLast? ≠ some '\n' := fun last => oneLine (List.mem_of_getLast? last)
    simp [toList_lineEnd, dropFinalBreak, unended]

theorem exists_lineEnd (cs : List Char) : ∃ ended, cs = dropFinalBreak cs ++ (lineEnd ended).toList := by
  by_cases last : cs.getLast? = some '\n'
  · refine ⟨true, ?_⟩
    rw [dropFinalBreak, if_pos last, toList_lineEnd, if_pos rfl]
    exact (List.dropLast_append_getLast? _ last).symm
  · refine ⟨false, ?_⟩
    rw [dropFinalBreak, if_neg last, toList_lineEnd]
    simp

/-- A suffix stands on one line behind a hyphen, and a line feed may end it. -/
theorem readSuffix_eq_some {cs suffix : List Char} :
    readSuffix cs = some suffix ↔
      '\n' ∉ suffix ∧
        ∃ ended, cs = (hyphenated (String.ofList suffix)).toList ++ (lineEnd ended).toList := by
  constructor
  · intro read
    obtain ⟨ended, whole⟩ := exists_lineEnd cs
    rw [readSuffix] at read
    split at read
    next nothing =>
      cases read
      refine ⟨by simp, ended, ?_⟩
      rw [whole, nothing]
      rfl
    next rest hyphen =>
      split at read
      next found =>
        cases read
        refine ⟨found.2, ended, ?_⟩
        rw [whole, hyphen, toList_hyphenated, String.toList_ofList, if_neg found.1]
      next => cases read
    next => cases read
  · rintro ⟨oneLine, ended, rfl⟩
    -- With the hyphen the suffix is still one line, so only the final line feed is dropped.
    have stillOneLine : '\n' ∉ (hyphenated (String.ofList suffix)).toList := by
      rw [toList_hyphenated, String.toList_ofList]
      split
      · simp
      · simp [oneLine]
    rw [readSuffix, dropFinalBreak_append stillOneLine, toList_hyphenated, String.toList_ofList]
    by_cases empty : suffix = []
    · simp [empty]
    · simp [empty, oneLine]

/-! ### Reading the numbers -/

theorem readDigits_of_stops (numeral : Numeral) {rest : List Char} (stops : Stops isDecimal rest) :
    readDigits (numeral.digits ++ rest) = some (numeral.digits, rest) := by
  rw [readDigits, takeWhile_of_stops numeral.isDecimal_of_mem stops,
    dropWhile_of_stops numeral.isDecimal_of_mem stops]
  split
  next nothing => exact (numeral.digits_ne_nil nothing).elim
  next => rfl

/-- Digits that were read make up a numeral. -/
theorem exists_numeral_of_readDigits {cs digits rest : List Char}
    (read : readDigits cs = some (digits, rest)) :
    ∃ numeral : Numeral, numeral.digits = digits ∧ cs = digits ++ rest := by
  rw [readDigits] at read
  split at read
  next => cases read
  next nonempty =>
    cases read
    obtain ⟨numeral, isRun⟩ := Numeral.exists_of_digits nonempty fun c member => List.mem_takeWhile_imp member
    exact ⟨numeral, isRun, (List.takeWhile_append_dropWhile).symm⟩

theorem readPart_of_stops (numeral : Numeral) {rest : List Char} (stops : Stops isDecimal rest) :
    readPart ('.' :: (numeral.digits ++ rest)) = (numeral.digits, rest) := by
  rw [readPart, readDigits_of_stops numeral stops, Option.getD_some]

theorem readPart_of_no_dot {rest : List Char} (noDot : rest.head? ≠ some '.') :
    readPart rest = ([], rest) := by
  unfold readPart
  split
  next => exact (noDot rfl).elim
  next => rfl

/-- A part is missing, or it is a dot and a numeral. -/
theorem readPart_cases (cs : List Char) :
    readPart cs = ([], cs) ∨
      ∃ (numeral : Numeral) (rest : List Char),
        cs = '.' :: (numeral.digits ++ rest) ∧ readPart cs = (numeral.digits, rest) := by
  by_cases dot : cs.head? = some '.'
  · obtain ⟨rest, rfl⟩ := List.head?_eq_some_iff.mp dot
    cases read : readDigits rest with
    | none => exact .inl (by rw [readPart, read, Option.getD_none])
    | some found =>
      obtain ⟨digits, after⟩ := found
      obtain ⟨numeral, rfl, rfl⟩ := exists_numeral_of_readDigits read
      exact .inr ⟨numeral, after, rfl, by rw [readPart, read, Option.getD_some]⟩
  · exact .inl (readPart_of_no_dot dot)

/-! ### Reading a version -/

/-- What follows the numbers begins with a hyphen or a line feed, if there is anything. -/
theorem head_ending {suffix : String} {ended : Bool} {c : Char}
    (isNext : ((hyphenated suffix).toList ++ (lineEnd ended).toList).head? = some c) : c = '-' ∨ c = '\n' := by
  rw [toList_hyphenated, toList_lineEnd] at isNext
  by_cases empty : suffix.toList = []
  · cases ended with
    | true => exact .inr (by simpa [empty, eq_comm] using isNext)
    | false => simp [empty] at isNext
  · exact .inl (by simpa [empty, eq_comm] using isNext)

/-- The steps of reading: the first numeral, two more parts, and the suffix. -/
theorem read?_eq_some {text : String} {written : Written} :
    read? text = some written ↔
      ∃ afterMajor afterMinor afterPatch,
        readDigits text.toList = some (written.major, afterMajor) ∧
        readPart afterMajor = (written.minor, afterMinor) ∧
        readPart afterMinor = (written.patch, afterPatch) ∧
        readSuffix afterPatch = some written.suffix := by
  constructor
  · intro read
    obtain ⟨⟨major, afterMajor⟩, isMajor, later⟩ := Option.bind_eq_some_iff.mp read
    obtain ⟨suffix, isSuffix, last⟩ := Option.bind_eq_some_iff.mp later
    cases last
    exact ⟨afterMajor, _, _, isMajor, rfl, rfl, isSuffix⟩
  · rintro ⟨afterMajor, afterMinor, afterPatch, isMajor, isMinor, isPatch, isSuffix⟩
    apply Option.bind_eq_some_iff.mpr
    refine ⟨_, isMajor, ?_⟩
    simp only [isMinor, isPatch, isSuffix]
    rfl

/-- The text of every form can be read. -/
theorem read?_text (form : Form) :
    read? form.text = some (form.numerals.written form.suffix.toList) := by
  obtain ⟨numerals, suffix, oneLine, ended⟩ := form
  let ending := (hyphenated suffix).toList ++ (lineEnd ended).toList
  -- A dot ends a run of digits, and so does whatever follows the numbers.
  have atDot (rest : List Char) : Stops isDecimal ('.' :: rest) := by
    rintro c ⟨⟩
    decide
  have atEnd : Stops isDecimal ending := by
    intro c isNext
    rcases head_ending isNext with rfl | rfl <;> decide
  have missing : readPart ending = ([], ending) := by
    apply readPart_of_no_dot
    intro isNext
    rcases head_ending isNext with impossible | impossible <;> simp at impossible
  have final : readSuffix ending = some suffix.toList := by
    rw [readSuffix_eq_some, String.ofList_toList]
    exact ⟨oneLine, ended, rfl⟩
  have chars : (Form.text ⟨numerals, suffix, oneLine, ended⟩).toList = numerals.chars ++ ending := by
    simp [Form.text, ending]
  rw [read?_eq_some, chars]
  cases numerals with
  | one major => exact ⟨_, _, _, readDigits_of_stops major atEnd, missing, missing, final⟩
  | two major minor =>
    rw [Numerals.chars, List.append_assoc, List.cons_append]
    exact ⟨_, _, _, readDigits_of_stops major (atDot _), readPart_of_stops minor atEnd, missing, final⟩
  | three major minor patch =>
    rw [Numerals.chars, List.append_assoc, List.cons_append, List.append_assoc, List.cons_append]
    exact ⟨_, _, _, readDigits_of_stops major (atDot _), readPart_of_stops minor (atDot _),
      readPart_of_stops patch atEnd, final⟩

/-- Whatever can be read is the text of a form. -/
theorem exists_form_of_read? {text : String} {written : Written} (read : read? text = some written) :
    ∃ form : Form, form.text = text ∧ form.numerals.written form.suffix.toList = written := by
  obtain ⟨afterMajor, afterMinor, afterPatch, isMajor, isMinor, isPatch, isSuffix⟩ := read?_eq_some.mp read
  obtain ⟨majorDigits, minorDigits, patchDigits, suffix⟩ := written
  obtain ⟨major, rfl, whole⟩ := exists_numeral_of_readDigits isMajor
  obtain ⟨oneLine, ended, rfl⟩ := readSuffix_eq_some.mp isSuffix
  -- Numerals that are followed by what was read behind them make a form of the text.
  have formed (numerals : Numerals)
      (chars : numerals.chars ++ ((hyphenated (String.ofList suffix)).toList ++ (lineEnd ended).toList) =
        text.toList) :
      ∃ form : Form, form.text = text ∧
        form.numerals.written form.suffix.toList = numerals.written suffix := by
    refine ⟨⟨numerals, String.ofList suffix, by simpa using oneLine, ended⟩, ?_, by simp⟩
    apply String.toList_inj.mp
    rw [← chars]
    simp [Form.text]
  rcases readPart_cases afterMajor with noMinor | ⟨minor, _, isRest, hasMinor⟩
  · -- Where there is no second part there is no third one either: the same text is looked at again.
    cases noMinor.symm.trans isMinor
    cases noMinor.symm.trans isPatch
    exact formed (.one major) whole.symm
  · cases hasMinor.symm.trans isMinor
    rcases readPart_cases afterMinor with noPatch | ⟨patch, _, isLast, hasPatch⟩
    · cases noPatch.symm.trans isPatch
      exact formed (.two major minor) (by simp [Numerals.chars, whole, isRest])
    · cases hasPatch.symm.trans isPatch
      exact formed (.three major minor patch) (by simp [Numerals.chars, whole, isRest, isLast])

/-! ### Numbers of a version -/

/-- A numeral denotes its value unless it has too many digits. -/
theorem number_digits (numeral : Numeral) :
    number numeral.digits =
      if numeral.digits.length ≤ Text.digitLimit then .ok numeral.value
      else .error (.badNumber (.tooLong numeral.digits.length)) := by
  rw [number, Text.number, numeral.decimalValue_digits]
  split
  · rfl
  · rfl

/-- A form is read by reading its numerals one after the other. -/
theorem parse_text (form : Form) :
    parse form.text =
      form.numerals.toList.mapM (fun numeral => number numeral.digits) >>= fun _ => .ok form.version := by
  obtain ⟨numerals, suffix, oneLine, ended⟩ := form
  have missing : number [] = .ok 0 := rfl
  rw [parse, read?_text]
  -- One split for each numeral: the first one that is too long ends the reading.
  cases numerals with
  | one major =>
    simp only [Numerals.written, Numerals.toList, List.mapM_cons, List.mapM_nil, number_digits, missing,
      String.ofList_toList]
    split
    · rfl
    · rfl
  | two major minor =>
    simp only [Numerals.written, Numerals.toList, List.mapM_cons, List.mapM_nil, number_digits, missing,
      String.ofList_toList]
    split
    · split
      · rfl
      · rfl
    · rfl
  | three major minor patch =>
    simp only [Numerals.written, Numerals.toList, List.mapM_cons, List.mapM_nil, number_digits,
      String.ofList_toList]
    split
    · split
      · split
        · rfl
        · rfl
      · rfl
    · rfl

/-- The text of a form denotes a version exactly if its numerals are short enough. -/
theorem parse_text_eq_ok_iff {form : Form} {version : Version} :
    parse form.text = .ok version ↔ form.Fits ∧ form.version = version := by
  rw [parse_text]
  constructor
  · intro parsed
    obtain ⟨numbers, read, last⟩ := except_bind_eq_ok parsed
    refine ⟨?_, Except.ok.inj last⟩
    intro numeral member
    obtain ⟨value, _, isNumber⟩ := exists_right_of_forall₂ ((except_mapM_eq_ok_iff _ _ _).mp read) member
    -- A numeral that is too long would have been refused.
    by_contra long
    rw [number_digits, if_neg long] at isNumber
    cases isNumber
  · rintro ⟨fits, rfl⟩
    have read : form.numerals.toList.mapM (fun numeral => number numeral.digits) =
        .ok (form.numerals.toList.map Numeral.value) := by
      rw [except_mapM_eq_ok_iff, List.forall₂_map_right_iff, List.forall₂_same]
      intro numeral member
      rw [number_digits, if_pos (fits numeral member)]
    rw [read]
    rfl

/-- The text of a form fails only by a numeral with too many digits. -/
theorem parse_text_eq_error {form : Form} {error : Error} (failed : parse form.text = .error error) :
    ∃ numeral ∈ form.numerals.toList, Text.digitLimit < numeral.digits.length ∧
      error = .badNumber (.tooLong numeral.digits.length) := by
  rw [parse_text] at failed
  rcases except_bind_eq_error failed with unread | ⟨_, _, never⟩
  · obtain ⟨numeral, member, isNumber⟩ := except_mapM_eq_error unread
    rw [number_digits] at isNumber
    split at isNumber
    next => cases isNumber
    next long => exact ⟨numeral, member, Nat.lt_of_not_le long, (Except.error.inj isNumber).symm⟩
  · cases never

/-- A text that has no form is refused. -/
theorem parse_of_no_form {text : String} (outside : ∀ form : Form, form.text ≠ text) :
    parse text = .error (.malformedVersion text) := by
  cases read : read? text with
  | none => rw [parse, read]
  | some written =>
    obtain ⟨form, isText, _⟩ := exists_form_of_read? read
    exact (outside form isText).elim

/-- A text denotes what any of its forms stands for. -/
theorem parse_eq_ok_iff {text : String} {version : Version} :
    parse text = .ok version ↔ ∃ form : Form, form.text = text ∧ form.Fits ∧ form.version = version := by
  constructor
  · intro parsed
    by_cases formed : ∃ form : Form, form.text = text
    · obtain ⟨form, rfl⟩ := formed
      exact ⟨form, rfl, parse_text_eq_ok_iff.mp parsed⟩
    · rw [parse_of_no_form fun form isText => formed ⟨form, isText⟩] at parsed
      cases parsed
  · rintro ⟨form, rfl, stands⟩
    exact parse_text_eq_ok_iff.mpr stands

/-! ### Decimal texts -/

/-- Numbers that have few enough digits to be read. -/
def AreShort (numbers : List Nat) : Prop :=
  ∀ n ∈ numbers, (toString n).length ≤ Text.digitLimit

instance (numbers : List Nat) : Decidable (AreShort numbers) :=
  List.decidableBAll _ _

theorem parse_decimals {a b c : Nat} (short : AreShort [a, b, c]) {suffix : String}
    (oneLine : '\n' ∉ suffix.toList) :
    parse (toString a ++ hyphenated suffix) = .ok ⟨a, 0, 0, suffix⟩ ∧
    parse (toString a ++ "." ++ toString b ++ hyphenated suffix) = .ok ⟨a, b, 0, suffix⟩ ∧
    parse (toString a ++ "." ++ toString b ++ "." ++ toString c ++ hyphenated suffix) =
      .ok ⟨a, b, c, suffix⟩ := by
  simp only [AreShort, List.forall_mem_cons] at short
  obtain ⟨shortA, shortB, shortC, _⟩ := short
  have fits (n : Nat) (few : (toString n).length ≤ Text.digitLimit) :
      (Numeral.ofNat n).digits.length ≤ Text.digitLimit := by
    rwa [Numeral.ofNat, String.length_toList]
  -- Each of the three texts is a form that no line feed ends.
  have parsed (text : String) (numerals : Numerals) (isText : text.toList = numerals.chars)
      (within : ∀ numeral ∈ numerals.toList, numeral.digits.length ≤ Text.digitLimit) :
      parse (text ++ hyphenated suffix) = .ok (numerals.version suffix) := by
    refine parse_eq_ok_iff.mpr ⟨⟨numerals, suffix, oneLine, false⟩, ?_, within, rfl⟩
    rw [Form.text, ← isText, String.ofList_toList]
    exact String.append_empty
  refine ⟨parsed _ (.one (.ofNat a)) rfl ?_, parsed _ (.two (.ofNat a) (.ofNat b)) ?_ ?_,
    parsed _ (.three (.ofNat a) (.ofNat b) (.ofNat c)) ?_ ?_⟩
  · simp only [Numerals.toList, List.forall_mem_cons]
    exact ⟨fits a shortA, by simp⟩
  · simp only [String.toList_append, List.append_assoc]
    rfl
  · simp only [Numerals.toList, List.forall_mem_cons]
    exact ⟨fits a shortA, fits b shortB, by simp⟩
  · simp only [String.toList_append, List.append_assoc]
    rfl
  · simp only [Numerals.toList, List.forall_mem_cons]
    exact ⟨fits a shortA, fits b shortB, fits c shortC, by simp⟩

/-- The numbers of a form can be read again when they are shown. -/
theorem Form.exists_short {form : Form} (fits : form.Fits) :
    ∃ a b c : Nat, AreShort [a, b, c] ∧ form.version = ⟨a, b, c, form.suffix⟩ := by
  obtain ⟨numerals, suffix, oneLine, ended⟩ := form
  -- A numeral is at least as long as the decimal text of its value.
  have short : ∀ numeral ∈ numerals.toList, (toString numeral.value).length ≤ Text.digitLimit := by
    intro numeral member
    have within := fits numeral member
    rw [numeral.length_eq] at within
    omega
  have zero : (toString 0).length ≤ Text.digitLimit := by decide
  cases numerals with
  | one major =>
    simp only [Numerals.toList, List.forall_mem_cons] at short
    refine ⟨major.value, 0, 0, ?_, rfl⟩
    simp only [AreShort, List.forall_mem_cons]
    exact ⟨short.1, zero, zero, by simp⟩
  | two major minor =>
    simp only [Numerals.toList, List.forall_mem_cons] at short
    refine ⟨major.value, minor.value, 0, ?_, rfl⟩
    simp only [AreShort, List.forall_mem_cons]
    exact ⟨short.1, short.2.1, zero, by simp⟩
  | three major minor patch =>
    simp only [Numerals.toList, List.forall_mem_cons] at short
    refine ⟨major.value, minor.value, patch.value, ?_, rfl⟩
    simp only [AreShort, List.forall_mem_cons]
    exact ⟨short.1, short.2.1, short.2.2.1, by simp⟩

/-- The shown numbers of a version that was read denote it again, without the suffix. -/
theorem parse_shown {text : String} {version : Version} (parsed : parse text = .ok version) :
    parse version.text = .ok { version with suffix := "" } := by
  obtain ⟨form, _, fits, rfl⟩ := parse_eq_ok_iff.mp parsed
  obtain ⟨a, b, c, short, numbers⟩ := form.exists_short fits
  have shown : Version.text ⟨a, b, c, form.suffix⟩ =
      toString a ++ "." ++ toString b ++ "." ++ toString c := rfl
  have noSuffix : '\n' ∉ "".toList := by simp
  have again := (parse_decimals short noSuffix).2.2
  rw [hyphenated, if_pos rfl, String.append_empty] at again
  rw [numbers, shown, again]

/-- Numbers with at most as many digits as can be read, written plainly and with or without a suffix, are read
back, with zero for a missing number. The texts that denote a version are exactly those of a form whose
numerals fit. A text of no form is refused as an argument of the command line, and a form fails only over a
numeral with too many digits. Showing a version that was read and reading it again keeps its numbers. -/
theorem versions_parse_exactly :
    (∀ a b c : Nat, AreShort [a, b, c] → ∀ suffix : String, '\n' ∉ suffix.toList →
      parse (toString a ++ hyphenated suffix) = .ok ⟨a, 0, 0, suffix⟩ ∧
      parse (toString a ++ "." ++ toString b ++ hyphenated suffix) = .ok ⟨a, b, 0, suffix⟩ ∧
      parse (toString a ++ "." ++ toString b ++ "." ++ toString c ++ hyphenated suffix) =
        .ok ⟨a, b, c, suffix⟩) ∧
    (∀ text version, parse text = .ok version ↔
      ∃ form : Form, form.text = text ∧ form.Fits ∧ form.version = version) ∧
    (∀ text, (∀ form : Form, form.text ≠ text) →
      parse text = .error (.malformedVersion text) ∧ (Error.malformedVersion text).category = .argument) ∧
    (∀ (form : Form) (error : Error), parse form.text = .error error →
      ∃ numeral ∈ form.numerals.toList, Text.digitLimit < numeral.digits.length ∧
        error = .badNumber (.tooLong numeral.digits.length)) ∧
    (∀ text version, parse text = .ok version →
      parse version.text = .ok { version with suffix := "" }) := by
  refine ⟨?_, ?_, ?_, ?_, ?_⟩
  · intro a b c short suffix oneLine
    exact parse_decimals short oneLine
  · intro text version
    exact parse_eq_ok_iff
  · intro text outside
    exact ⟨parse_of_no_form outside, rfl⟩
  · intro form error failed
    exact parse_text_eq_error failed
  · intro text version parsed
    exact parse_shown parsed

/-- Zero with one digit too many. -/
def longZero : Form where
  numerals := .one {
    digits := List.replicate (Text.digitLimit + 1) '0'
    zeros := Text.digitLimit
    value := 0
    spelled := by rw [List.replicate_succ']; rfl }
  suffix := ""
  oneLine := by simp
  ended := false

theorem versions_parse_exactly_at_sea :
    parse "3.21.12-rc.1-2" = .ok ⟨3, 21, 12, "rc.1-2"⟩ ∧
    (∃ form : Form, form.text = "٠٣.21-rc.1\n" ∧ form.Fits ∧ form.version = ⟨3, 21, 0, "rc.1"⟩) ∧
    parse "3.-rc" = .error (.malformedVersion "3.-rc") ∧
    parse longZero.text = .error (.badNumber (.tooLong 4301)) ∧
    parse "3.21.0" = .ok ⟨3, 21, 0, ""⟩ := by
  obtain ⟨plain, accepted, refused, blamed, shown⟩ := versions_parse_exactly
  have parsed : parse "٠٣.21-rc.1\n" = .ok ⟨3, 21, 0, "rc.1"⟩ := by decide +kernel
  refine ⟨?_, (accepted _ _).mp parsed, ?_, ?_, shown _ _ parsed⟩
  · exact (plain 3 21 12 (by decide) "rc.1-2" (by decide)).2.2
  · refine (refused "3.-rc" ?_).1
    intro form isText
    have failed : parse "3.-rc" = .error (.malformedVersion "3.-rc") := by decide +kernel
    rw [← isText] at failed
    obtain ⟨numeral, _, _, other⟩ := blamed form _ failed
    cases other
  · cases result : parse longZero.text with
    | ok version =>
      obtain ⟨fits, _⟩ := parse_text_eq_ok_iff.mp result
      have few := fits _ (List.mem_singleton.mpr rfl)
      rw [List.length_replicate] at few
      omega
    | error error =>
      obtain ⟨numeral, member, _, rfl⟩ := blamed longZero error result
      obtain rfl := List.mem_singleton.mp member
      rw [List.length_replicate]
      rfl

end Typewire.Version
