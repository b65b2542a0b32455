import Mathlib.Data.List.DropRight
import Typewire.Code.Types

/-!
# String literals denote their texts

What stands between the quotes of a literal is a row of characters and escapes. Each of them gives UTF-16
units, and units give characters again: a lead surrogate together with the trail surrogate after it, any other
unit alone. The reader here follows these rules and knows nothing of how literals are written.

## Main result

`literals_denote_texts`: every text is written as a literal of printable ASCII that has no quote inside which
is not escaped, and that reads as this text.

## Proof strategy

A character has four ways to stand in a literal, listed in `Spelling`. Whatever follows it, a spelling reads as
the units of its character, and these units as the character; so no escape is paired with a neighbour's.
-/
namespace Typewire.Text

/-! ### Reading literals -/

def hexDigitValue? (c : Char) : Option Nat :=
  if '0' ≤ c ∧ c ≤ '9' then some (c.toNat - 0x30)
  else if 'a' ≤ c ∧ c ≤ 'f' then some (c.toNat - 0x57)
  else if 'A' ≤ c ∧ c ≤ 'F' then some (c.toNat - 0x37)
  else none

/-- The unit that four hexadecimal digits give. -/
def unit? (a b c d : Char) : Option Nat := do
  let a ← hexDigitValue? a
  let b ← hexDigitValue? b
  let c ← hexDigitValue? c
  let d ← hexDigitValue? d
  return ((a * 16 + b) * 16 + c) * 16 + d

/-- The character that a backslash with one more character stands for. -/
def shortEscape? : Char → Option Char
  | '"' => some '"'
  | '\\' => some '\\'
  | '/' => some '/'
  | 'b' => some '\x08'
  | 'f' => some '\x0c'
  | 'n' => some '\n'
  | 'r' => some '\r'
  | 't' => some '\t'
  | _ => none

def utf16 (c : Char) : List Nat :=
  if c.toNat < 0x10000 then [c.toNat] else [0xd7c0 + c.toNat / 0x400, 0xdc00 + c.toNat % 0x400]

/-- The units that a literal denotes, read behind its opening quote. The first quote that is not escaped must
end it. -/
def bodyUnits? : List Char → Option (List Nat)
  | [] => none
  | ['"'] => some []
  | '\\' :: 'u' :: a :: b :: c :: d :: rest => do
    let unit ← unit? a b c d
    let units ← bodyUnits? rest
    return unit :: units
  | '\\' :: c :: rest => do
    let escaped ← shortEscape? c
    let units ← bodyUnits? rest
    return utf16 escaped ++ units
  | c :: rest =>
    if c = '"' ∨ c = '\\' ∨ c.toNat < 0x20 then none
    else do
      let units ← bodyUnits? rest
      return utf16 c ++ units

/-- The characters that UTF-16 units encode. A lead surrogate goes together with the trail surrogate after it,
and neither may stand alone. -/
def ofUnits? : List Nat → Option (List Char)
  | [] => some []
  | [unit] => if 0xd800 ≤ unit ∧ unit < 0xe000 then none else some [Char.ofNat unit]
  | unit :: next :: rest =>
    if 0xd800 ≤ unit ∧ unit < 0xdc00 ∧ 0xdc00 ≤ next ∧ next < 0xe000 then do
      let chars ← ofUnits? rest
      return Char.ofNat (0x10000 + (unit - 0xd800) * 0x400 + (next - 0xdc00)) :: chars
    else if 0xd800 ≤ unit ∧ unit < 0xe000 then none
    else do
      let chars ← ofUnits? (next :: rest)
      return Char.ofNat unit :: chars

/-- The text that a string literal denotes. -/
def readLiteral? (literal : String) : Option String :=
  match literal.toList with
  | '"' :: body => do
    let units ← bodyUnits? body
    let chars ← ofUnits? units
    return String.ofList chars
  | _ => none

theorem hexDigitValue?_hexDigit {value : Nat} (small : value < 16) :
    hexDigitValue? (hexDigit value) = some value := by
  have every : ∀ value < 16, hexDigitValue? (hexDigit value) = some value := by decide
  exact every value small

/-- An escaped unit is read back, whatever follows it. -/
theorem bodyUnits?_unitEscape {unit : Nat} (small : unit < 0x10000) (rest : List Char) :
    bodyUnits? (unitEscape unit ++ rest) = (bodyUnits? rest).map (unit :: ·) := by
  have digits : unitEscape unit ++ rest = '\\' :: 'u' :: hexDigit (unit / 16 / 16 / 16 % 16) ::
      hexDigit (unit / 16 / 16 % 16) :: hexDigit (unit / 16 % 16) :: hexDigit (unit % 16) :: rest := rfl
  have value : unit? (hexDigit (unit / 16 / 16 / 16 % 16)) (hexDigit (unit / 16 / 16 % 16))
      (hexDigit (unit / 16 % 16)) (hexDigit (unit % 16)) = some unit := by
    simp only [unit?, hexDigitValue?_hexDigit (Nat.mod_lt _ (by decide : 16 > 0)), Option.bind_eq_bind,
      Option.bind_some, Option.pure_def, Option.some.injEq]
    -- Four digits hold all of the unit.
    omega
  rw [digits, bodyUnits?, value]
  cases bodyUnits? rest <;> rfl

theorem bodyUnits?_shortEscape {c escaped : Char} (isEscape : shortEscape? c = some escaped)
    (rest : List Char) :
    bodyUnits? ('\\' :: c :: rest) = (bodyUnits? rest).map (utf16 escaped ++ ·) := by
  have notUnit : c ≠ 'u' := by
    rintro rfl
    cases isEscape
  rw [bodyUnits?]
  · rw [isEscape]
    cases bodyUnits? rest <;> rfl
  · simp [notUnit]

theorem bodyUnits?_plain {c : Char} (noQuote : c ≠ '"') (noEscape : c ≠ '\\') (visible : 0x20 ≤ c.toNat)
    (rest : List Char) : bodyUnits? (c :: rest) = (bodyUnits? rest).map (utf16 c ++ ·) := by
  have isPlain : ¬ (c = '"' ∨ c = '\\' ∨ c.toNat < 0x20) := by
    simp only [noQuote, noEscape, false_or]
    omega
  rw [bodyUnits?]
  · rw [if_neg isPlain]
    cases bodyUnits? rest <;> rfl
  all_goals simp [noQuote, noEscape]

/-! ### Spellings of one character -/

/-- The ways in which a character can stand in a literal. -/
inductive Spelling (c : Char) : List Char → Prop where
  | short {escape : Char} (isEscape : shortEscape? escape = some c) : Spelling c ['\\', escape]
  | plain (noQuote : c ≠ '"') (noEscape : c ≠ '\\') (visible : 0x20 ≤ c.toNat ∧ c.toNat < 0x7f) :
      Spelling c [c]
  | unit (small : c.toNat < 0x10000) : Spelling c (unitEscape c.toNat)
  | pair (large : 0x10000 ≤ c.toNat) :
      Spelling c (unitEscape (surrogates c.toNat).1 ++ unitEscape (surrogates c.toNat).2)

/-- Every character is spelled in one of these ways. -/
theorem literalChar_spelling (c : Char) : Spelling c (literalChar c) := by
  rw [literalChar]
  split
  next special =>
    have isSpecial : c = '"' ∨ c = '\\' := by simpa using special
    rcases isSpecial with rfl | rfl <;> exact .short rfl
  next notSpecial =>
    have isPlain : c ≠ '"' ∧ c ≠ '\\' := by simpa using notSpecial
    -- The short escapes come before the ranges of code points.
    iterate 5
      split
      next isChar =>
        obtain rfl := of_decide_eq_true isChar
        exact .short rfl
    split
    next inRange => exact .plain isPlain.1 isPlain.2 (by simpa using inRange)
    split
    next small => exact .unit small
    next large => exact .pair (Nat.le_of_not_lt large)

/-- A code point is no surrogate. -/
theorem toNat_range (c : Char) : c.toNat < 0xd800 ∨ 0xe000 ≤ c.toNat ∧ c.toNat < 0x110000 :=
  c.valid.imp_right fun high => high

/-- Whatever follows it, a spelling reads as the units of its character. -/
theorem Spelling.bodyUnits?_eq {c : Char} {spelled : List Char} (spelling : Spelling c spelled)
    (rest : List Char) : bodyUnits? (spelled ++ rest) = (bodyUnits? rest).map (utf16 c ++ ·) := by
  have range := toNat_range c
  cases spelling with
  | short isEscape => exact bodyUnits?_shortEscape isEscape rest
  | plain noQuote noEscape visible => exact bodyUnits?_plain noQuote noEscape visible.1 rest
  | unit small =>
    rw [bodyUnits?_unitEscape small, utf16, if_pos small]
    rfl
  | pair large =>
    -- The offset of 0x10000 goes into the base of the lead surrogate, whose bits lie above the lowest ten.
    have lead : (surrogates c.toNat).1 = 0xd7c0 + c.toNat / 0x400 := by
      simp only [surrogates]
      omega
    have trail : (surrogates c.toNat).2 = 0xdc00 + c.toNat % 0x400 := by
      simp only [surrogates]
      omega
    rw [lead, trail, List.append_assoc, bodyUnits?_unitEscape (by omega), bodyUnits?_unitEscape (by omega),
      Option.map_map, utf16, if_neg (by omega)]
    rfl

/-- Whatever follows them, the units of a character give this character. -/
theorem ofUnits?_utf16 (c : Char) (units : List Nat) :
    ofUnits? (utf16 c ++ units) = (ofUnits? units).map (c :: ·) := by
  have range := toNat_range c
  rw [utf16]
  split
  next small =>
    -- Such a unit is no surrogate, so it pairs with nothing that follows.
    have alone : ¬ (0xd800 ≤ c.toNat ∧ c.toNat < 0xe000) := by omega
    cases units with
    | nil => simp [ofUnits?, alone, Char.ofNat_toNat]
    | cons next rest =>
      have notLead : ¬ (0xd800 ≤ c.toNat ∧ c.toNat < 0xdc00 ∧ 0xdc00 ≤ next ∧ next < 0xe000) := by omega
      rw [List.singleton_append, ofUnits?, if_neg notLead, if_neg alone, Char.ofNat_toNat]
      cases ofUnits? (next :: rest) <;> rfl
  next large =>
    have joined : 0x10000 + (0xd7c0 + c.toNat / 0x400 - 0xd800) * 0x400 +
        (0xdc00 + c.toNat % 0x400 - 0xdc00) = c.toNat := by omega
    rw [List.cons_append, List.singleton_append, ofUnits?, if_pos (by omega), joined, Char.ofNat_toNat]
    cases ofUnits? units <;> rfl

/-! ### Quotes inside a literal -/

/-- How many backslashes stand at the end of a text. -/
def backslashesAtEnd (chars : List Char) : Nat :=
  (chars.rtakeWhile (· == '\\')).length

/-- Every quote has an odd number of backslashes right before it. -/
def QuotesEscaped (chars : List Char) : Prop :=
  ∀ before after, chars = before ++ '"' :: after → backslashesAtEnd before % 2 = 1

theorem backslashesAtEnd_concat (chars : List Char) (c : Char) :
    backslashesAtEnd (chars ++ [c]) = if c = '\\' then backslashesAtEnd chars + 1 else 0 := by
  rw [backslashesAtEnd, List.rtakeWhile_concat]
  by_cases isBackslash : c = '\\'
  · simp [isBackslash, backslashesAtEnd]
  · simp [isBackslash]

/-- Behind an even number of backslashes only the later ones count. -/
theorem backslashesAtEnd_append {first : List Char} (even : backslashesAtEnd first % 2 = 0)
    (second : List Char) : backslashesAtEnd (first ++ second) % 2 = backslashesAtEnd second % 2 := by
  -- The last characters count first, so the second text is taken apart from its end.
  induction second using List.reverseRecOn with
  | nil =>
    rw [List.append_nil, even]
    rfl
  | append_singleton second c ih =>
    rw [← List.append_assoc, backslashesAtEnd_concat, backslashesAtEnd_concat]
    split
    · omega
    · rfl

/-- A piece of a literal that breaks off no escape. -/
structure IsWhole (chars : List Char) : Prop where
  quotes : QuotesEscaped chars
  even : backslashesAtEnd chars % 2 = 0

theorem IsWhole.nil : IsWhole [] where
  quotes before after split := by simp at split
  even := rfl

/-- Two pieces that leave no escape open leave none open together. -/
theorem IsWhole.append {first second : List Char} (ofFirst : IsWhole first) (ofSecond : IsWhole second) :
    IsWhole (first ++ second) where
  quotes before after split := by
    rcases List.append_eq_append_iff.mp split with ⟨rest, rfl, inSecond⟩ | ⟨rest, inFirst, isRest⟩
    · rw [backslashesAtEnd_append ofFirst.even]
      exact ofSecond.quotes rest after inSecond
    · cases rest with
      | nil =>
        -- The second piece would begin with a quote, which nothing in it escapes.
        have odd := ofSecond.quotes [] after (by simpa using isRest.symm)
        cases odd
      | cons c rest =>
        obtain ⟨rfl, -⟩ := List.cons.inj isRest
        exact ofFirst.quotes before rest inFirst
  even := (backslashesAtEnd_append ofFirst.even second).trans ofSecond.even

theorem isWhole_of_noQuote {chars : List Char} {last : Char} (noQuote : '"' ∉ chars ++ [last])
    (noEscape : last ≠ '\\') : IsWhole (chars ++ [last]) where
  quotes before after split := by
    rw [split] at noQuote
    simp at noQuote
  even := by rw [backslashesAtEnd_concat, if_neg noEscape]

theorem isWhole_escape (c : Char) : IsWhole ['\\', c] where
  quotes before after split := by
    -- A quote can only be the second character, with one backslash before it.
    cases before with
    | nil => cases split
    | cons first more =>
      obtain ⟨rfl, inRest⟩ := List.cons.inj split
      cases more with
      | nil => rfl
      | cons second more => simp at inRest
  even := by
    rw [show ['\\', c] = ['\\'] ++ [c] from rfl, backslashesAtEnd_concat]
    split <;> rfl

/-! ### Characters of a literal -/

/-- The characters from the space to the tilde. -/
def IsPrintable (c : Char) : Prop :=
  ' ' ≤ c ∧ c ≤ '~'

instance (c : Char) : Decidable (IsPrintable c) :=
  inferInstanceAs (Decidable (_ ∧ _))

theorem hexDigit_plain {value : Nat} (small : value < 16) :
    IsPrintable (hexDigit value) ∧ hexDigit value ≠ '"' ∧ hexDigit value ≠ '\\' := by
  have every : ∀ value < 16,
      IsPrintable (hexDigit value) ∧ hexDigit value ≠ '"' ∧ hexDigit value ≠ '\\' := by decide
  exact every value small

theorem mem_unitEscape {unit : Nat} {c : Char} (member : c ∈ unitEscape unit) :
    c = '\\' ∨ c = 'u' ∨ ∃ value < 16, c = hexDigit value := by
  have digits : unitEscape unit = ['\\', 'u', hexDigit (unit / 16 / 16 / 16 % 16),
      hexDigit (unit / 16 / 16 % 16), hexDigit (unit / 16 % 16), hexDigit (unit % 16)] := rfl
  rw [digits] at member
  simp only [List.mem_cons, List.not_mem_nil, or_false] at member
  rcases member with rfl | rfl | rfl | rfl | rfl | rfl
  · exact .inl rfl
  · exact .inr (.inl rfl)
  all_goals exact .inr (.inr ⟨_, Nat.mod_lt _ (by decide), rfl⟩)

theorem isWhole_unitEscape (unit : Nat) : IsWhole (unitEscape unit) := by
  have ends : unitEscape unit = ['\\', 'u'] ++ hex 3 (unit / 16) ++ [hexDigit (unit % 16)] := rfl
  rw [ends]
  refine isWhole_of_noQuote ?_ (hexDigit_plain (Nat.mod_lt _ (by decide))).2.2
  rw [← ends]
  intro quoted
  obtain isQuote | isQuote | ⟨value, small, isQuote⟩ := mem_unitEscape quoted
  · cases isQuote
  · cases isQuote
  · exact (hexDigit_plain small).2.1 isQuote.symm

theorem isPrintable_of_mem_unitEscape {unit : Nat} {c : Char} (member : c ∈ unitEscape unit) :
    IsPrintable c := by
  obtain rfl | rfl | ⟨value, small, rfl⟩ := mem_unitEscape member
  · decide
  · decide
  · exact (hexDigit_plain small).1

theorem isPrintable_of_shortEscape? {escape c : Char} (isEscape : shortEscape? escape = some c) :
    IsPrintable escape := by
  rw [shortEscape?.eq_def] at isEscape
  split at isEscape
  case h_9 => cases isEscape
  all_goals decide

namespace Spelling

variable {c : Char} {spelled : List Char}

theorem isWhole (spelling : Spelling c spelled) : IsWhole spelled := by
  cases spelling with
  | short isEscape => exact isWhole_escape _
  | plain noQuote noEscape visible =>
    exact isWhole_of_noQuote (by simpa using noQuote.symm : '"' ∉ [] ++ [c]) noEscape
  | unit small => exact isWhole_unitEscape _
  | pair large => exact (isWhole_unitEscape _).append (isWhole_unitEscape _)

theorem isPrintable (spelling : Spelling c spelled) : ∀ d ∈ spelled, IsPrintable d := by
  intro d member
  cases spelling with
  | short isEscape =>
    rcases List.mem_pair.mp member with rfl | rfl
    · decide
    · exact isPrintable_of_shortEscape? isEscape
  | plain noQuote noEscape visible =>
    obtain rfl := List.mem_singleton.mp member
    exact ⟨visible.1, Nat.le_of_lt_succ visible.2⟩
  | unit small => exact isPrintable_of_mem_unitEscape member
  | pair large =>
    rcases List.mem_append.mp member with inLead | inTrail
    · exact isPrintable_of_mem_unitEscape inLead
    · exact isPrintable_of_mem_unitEscape inTrail

end Spelling

/-! ### Whole literals -/

/-- The body of a literal is read as the units of its text. -/
theorem bodyUnits?_flatMap (chars : List Char) :
    bodyUnits? (chars.flatMap literalChar ++ ['"']) = some (chars.flatMap utf16) := by
  induction chars with
  | nil => rfl
  | cons c chars ih =>
    rw [List.flatMap_cons, List.append_assoc, (literalChar_spelling c).bodyUnits?_eq, ih]
    rfl

/-- A text is read back from its units. -/
theorem ofUnits?_flatMap (chars : List Char) : ofUnits? (chars.flatMap utf16) = some chars := by
  induction chars with
  | nil => rfl
  | cons c chars ih =>
    rw [List.flatMap_cons, ofUnits?_utf16, ih]
    rfl

theorem isWhole_flatMap (chars : List Char) : IsWhole (chars.flatMap literalChar) := by
  induction chars with
  | nil => exact .nil
  | cons c chars ih =>
    rw [List.flatMap_cons]
    exact (literalChar_spelling c).isWhole.append ih

theorem isPrintable_flatMap (chars : List Char) : ∀ c ∈ chars.flatMap literalChar, IsPrintable c := by
  intro c member
  obtain ⟨source, _, inSpelling⟩ := List.mem_flatMap.mp member
  exact (literalChar_spelling source).isPrintable c inSpelling

theorem toList_literal (text : String) :
    (literal text).toList = '"' :: (text.toList.flatMap literalChar ++ ['"']) := by
  rw [literal, String.toList_ofList]
  rfl

/-- A literal of a text: quoted, all of it printable, with no unescaped quote inside, and read as the text. -/
structure IsLiteralOf (literal text : String) : Prop where
  quoted : ∃ body, literal.toList = '"' :: (body ++ ['"']) ∧ QuotesEscaped body
  printable : ∀ c ∈ literal.toList, IsPrintable c
  denotes : readLiteral? literal = some text

theorem literal_isLiteralOf (text : String) : IsLiteralOf (literal text) text where
  quoted := ⟨_, toList_literal text, (isWhole_flatMap text.toList).quotes⟩
  printable := by
    intro c member
    rw [toList_literal, List.mem_cons, List.mem_append, List.mem_singleton] at member
    rcases member with rfl | inBody | rfl
    · decide
    · exact isPrintable_flatMap text.toList c inBody
    · decide
  denotes := by
    simp only [readLiteral?, toList_literal, bodyUnits?_flatMap, Option.bind_eq_bind, Option.bind_some,
      ofUnits?_flatMap, Option.pure_def, String.ofList_toList]

/-- Every text is denoted by the literal that is written for it, also where it is the default of a field. -/
theorem literals_denote_texts (text : String) :
    IsLiteralOf (literal text) text ∧ IsLiteralOf (Code.scalarInitial .string (some text)) text :=
  ⟨literal_isLiteralOf text, literal_isLiteralOf text⟩

/-- Surrogates that do not pair up, and quotes that end a literal early, denote nothing. -/
example : readLiteral? "\"\\uD83D\\ude00\\/\"" = some "😀/" ∧ readLiteral? "\"\\ude00\\ud83d\"" = none ∧
    readLiteral? "\"\\\\\"\"" = none := by
  decide +kernel

end Typewire.Text
