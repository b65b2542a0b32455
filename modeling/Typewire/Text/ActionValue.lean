import Typewire.Text.Alphanumeric
import Typewire.Text.Integer
import Typewire.Text.Words

/-!
# Values in the tags of actions

A tag that starts with `@` ties an action to a text. Behind an equals sign stand the name of a handler
and its arguments, or just a value. Arguments and values are constants: numbers, strings, truth values,
tuples, sets and maps. Nothing is computed from them here; what counts is whether they are well formed.

A text is read as tokens first, and the tokens are then read as one value or as several with commas
between them. Members of sets and keys of maps must not be sets or maps themselves.
-/
namespace Typewire.Text

/-- A token of a constant value. -/
inductive ValueToken where
  | number (imaginary : Bool)
  | text (isBytes : Bool)
  | constant
  /-- The word that, with a pair of brackets, denotes the empty set. -/
  | setWord
  | mark (c : Char)
  deriving Repr, DecidableEq, Inhabited

namespace ActionValue

/-! ### Tokens -/

def isWordChar (c : Char) : Bool :=
  c.isAlphanum || c == '_' || 127 < c.toNat

def isHexDigit (c : Char) : Bool :=
  c.isDigit || ('a' ≤ c && c ≤ 'f') || ('A' ≤ c && c ≤ 'F')

/-- Whether a character is a digit of a number whose base a letter tells. -/
def digitOfBase? : Char → Option (Char → Bool)
  | 'x' | 'X' => some isHexDigit
  | 'o' | 'O' => some fun c => '0' ≤ c && c ≤ '7'
  | 'b' | 'B' => some fun c => c == '0' || c == '1'
  | _ => none

/-- The run of digits and underscores at the start of a text, and the rest. -/
def digitRun (isDigit : Char → Bool) (cs : List Char) : List Char × List Char :=
  cs.span fun c => isDigit c || c == '_'

/-- What follows an exponent, if there is one at the start of a text; `true` tells that there is. -/
def afterExponent? (cs : List Char) : Option (Bool × List Char) :=
  match cs with
  | [] => some (false, cs)
  | e :: rest =>
    if e = 'e' || e = 'E' then
      let unsigned := match rest with
        | '+' :: digits | '-' :: digits => digits
        | digits => digits
      let (run, after) := digitRun Char.isDigit unsigned
      if dividesWell true run then some (true, after) else none
    else some (false, cs)

/-- What follows the fraction at the start of a text, if there is one. -/
def afterFraction? (cs : List Char) : Option (Bool × List Char) :=
  match cs with
  | '.' :: rest =>
    let (run, after) := digitRun Char.isDigit rest
    if run.isEmpty || dividesWell true run then some (true, after) else none
  | _ => some (false, cs)

/-- Whether the digits of an integer are in order: only zeros follow a zero at the start, and there
are not too many. -/
def isIntegerRun (run : List Char) : Bool :=
  let digits := run.filter (· != '_')
  digits.length ≤ digitLimit && (digits.head? ≠ some '0' || digits.all (· = '0'))

/-- A decimal number at the start of a text, and the rest. -/
def readDecimal? (cs : List Char) : Option (ValueToken × List Char) := do
  let (run, rest) := digitRun Char.isDigit cs
  if run.isEmpty || dividesWell true run then
    let (hasFraction, rest) ← afterFraction? rest
    let (hasExponent, rest) ← afterExponent? rest
    match rest with
    | 'j' :: rest | 'J' :: rest => return (.number true, rest)
    | _ =>
      if hasFraction || hasExponent || isIntegerRun run then return (.number false, rest) else none
  else none

/-- A number at the start of a text, and the rest. No word may follow at once. -/
def readNumber? (cs : List Char) : Option (ValueToken × List Char) := do
  let found ← match cs with
    | '0' :: base :: rest =>
      match digitOfBase? base with
      | some isDigit =>
        let (run, after) := digitRun isDigit rest
        let digits := if run.head? = some '_' then run.tail else run
        if dividesWell true digits then some (.number false, after) else none
      | none => readDecimal? cs
    | _ => readDecimal? cs
  if found.2.head?.any isWordChar then none else return found

def hexNumber (digits : List Char) : Nat :=
  digits.foldl (fun value c =>
    16 * value + (if c.isDigit then c.toNat - '0'.toNat else c.toLower.toNat - 'a'.toNat + 10)) 0

/-- Whether so many hexadecimal digits start a text and denote a code point. -/
def startsCode (count : Nat) (cs : List Char) : Bool :=
  let digits := cs.take count
  digits.length = count && digits.all isHexDigit && hexNumber digits ≤ 0x10ffff

/-- Whether the name of a character in curly brackets starts a text. -/
def startsCharName (cs : List Char) : Bool :=
  match cs with
  | '\x7b' :: rest =>
    let name := rest.takeWhile fun c => c.isAlphanum || c == ' ' || c == '-'
    !name.isEmpty && (rest.drop name.length).head? = some '\x7d'
  | _ => false

/-- Whether an escape is sound, given the character after the backslash and the text behind it. -/
def isEscape (isBytes : Bool) (c : Char) (rest : List Char) : Bool :=
  match c with
  | 'x' => startsCode 2 rest
  | 'u' => isBytes || startsCode 4 rest
  | 'U' => isBytes || startsCode 8 rest
  | 'N' => isBytes || startsCharName rest
  | _ => true

/-- How a string is written. -/
structure Quotation where
  quote : Char
  /-- Whether three quotes stand at either end, so that line breaks may stand between them. -/
  triple : Bool
  /-- Whether backslashes stand for themselves. -/
  raw : Bool
  isBytes : Bool

/-- What follows the end of a string. -/
def afterString? (quotation : Quotation) : List Char → Option (List Char)
  | [] => none
  | '\\' :: c :: rest =>
    if quotation.isBytes && 127 < c.toNat then none
    else if quotation.raw || isEscape quotation.isBytes c rest then afterString? quotation rest
    else none
  | c :: rest =>
    if c = quotation.quote then
      if quotation.triple then
        match rest with
        | second :: third :: after =>
          if second = quotation.quote && third = quotation.quote then some after
          else afterString? quotation (second :: third :: after)
        | _ => none
      else some rest
    else if (c = '\n' && !quotation.triple) || (quotation.isBytes && 127 < c.toNat) then none
    else afterString? quotation rest

/-- A string at the start of a text, given the letters before its quote. -/
def readString? (letters : String) (cs : List Char) : Option (ValueToken × List Char) := do
  let (raw, isBytes) ← [("", false, false), ("u", false, false), ("r", true, false),
    ("b", false, true), ("br", true, true), ("rb", true, true)].lookup letters
  match cs with
  | quote :: rest =>
    let triple := rest.take 2 = [quote, quote]
    let body := if triple then rest.drop 2 else rest
    let after ← afterString? { quote, triple, raw, isBytes } body
    return (.text isBytes, after)
  | [] => none

def wordToken? : String → Option ValueToken
  | "True" | "False" | "None" => some .constant
  | "set" => some .setWord
  | _ => none

/-- The token at the start of a text, and the rest. -/
def readToken? (cs : List Char) : Option (ValueToken × List Char) :=
  match cs with
  | [] => none
  | '.' :: '.' :: '.' :: rest => some (.constant, rest)
  | c :: rest =>
    if c.isDigit || (c = '.' && rest.head?.any Char.isDigit) then readNumber? cs
    else if c = '"' || c = '\'' then readString? "" cs
    else if isWordChar c then
      let (word, after) := cs.span isWordChar
      if after.head? = some '"' || after.head? = some '\'' then
        readString? (String.ofList (word.map Char.toLower)) after
      else (wordToken? (String.ofList word)).map (·, after)
    else if "()\x7b\x7d,:+-".toList.contains c then some (.mark c, rest)
    else none

/-- How deep brackets may be nested. -/
def depthLimit : Nat := 200

/-- The depth after a token, if it is allowed. -/
def depthAfter? (depth : Nat) : ValueToken → Option Nat
  | .mark c =>
    if c = '(' || c = '\x7b' then if depth < depthLimit then some (depth + 1) else none
    else if c = ')' || c = '\x7d' then some (depth - 1)
    else some depth
  | _ => some depth

/-- Whether nothing but blanks and comments follows, given whether a comment has started. -/
def isIdle (inComment : Bool) : List Char → Bool
  | [] => true
  | c :: rest =>
    if c = '\n' then isIdle false rest
    else if inComment || c = ' ' || c = '\t' || c = '\x0c' then isIdle inComment rest
    else c = '#' && isIdle true rest

/-- The tokens of a text, read with so many steps at most, given whether there were any before and how
many brackets are open. A line break outside all brackets ends the value. -/
def tokensWithin : Nat → Bool → Nat → List Char → Option (List ValueToken)
  | _, _, _, [] => some []
  | 0, _, _, _ :: _ => none
  | steps + 1, started, depth, c :: rest =>
    if c = ' ' || c = '\t' || c = '\x0c' then tokensWithin steps started depth rest
    else if c = '\n' then
      if started && depth = 0 then if isIdle false rest then some [] else none
      else tokensWithin steps started depth rest
    else if c = '#' then tokensWithin steps started depth (rest.dropWhile (· != '\n'))
    else if c = '\\' then
      if rest.head? = some '\n' && 1 < rest.length then tokensWithin steps started depth rest.tail
      else none
    else do
      let (token, after) ← readToken? (c :: rest)
      let depth ← depthAfter? depth token
      let others ← tokensWithin steps true depth after
      return token :: others

/-- A text with line feeds for all line breaks. -/
def withLineFeeds : List Char → List Char
  | '\r' :: '\n' :: rest => '\n' :: withLineFeeds rest
  | '\r' :: rest => '\n' :: withLineFeeds rest
  | c :: rest => c :: withLineFeeds rest
  | [] => []

def tokens? (cs : List Char) : Option (List ValueToken) :=
  if cs.contains '\x00' then none
  else tokensWithin cs.length false 0 (withLineFeeds cs)

/-! ### Values -/

/-- What sort of value was read, as far as it matters for what may be done with it. -/
inductive ValueSort where
  | real
  | imaginary
  /-- A number with a sign before it. -/
  | signed (imaginary : Bool)
  /-- Any other value that may be a key. -/
  | plain
  /-- A set, a map, or a tuple that holds one. -/
  | collection
  deriving Repr, DecidableEq, Inhabited

namespace ValueSort

/-- Whether a value may be a key or a member of a set. -/
def isKey (sort : ValueSort) : Bool :=
  sort ≠ .collection

/-- A number with a sign. Nothing else takes one. -/
def withSign? : ValueSort → Option ValueSort
  | real => some (.signed false)
  | imaginary => some (.signed true)
  | _ => none

/-- A real number and an imaginary one make up a complex number. -/
def plus? (first second : ValueSort) : Option ValueSort :=
  if (first = .real || first = .signed false) && second = .imaginary then some .plain else none

def tuple (members : List ValueSort) : ValueSort :=
  if members.all isKey then .plain else .collection

end ValueSort

/-- Whether a token ends a list of values. -/
def isClosing (token : ValueToken) : Bool :=
  token = .mark ')' || token = .mark '\x7d'

mutual

/-- A value, or the sum of two numbers, at the start of tokens. -/
def readSum? : Nat → List ValueToken → Option (ValueSort × List ValueToken)
  | 0, _ => none
  | steps + 1, tokens => do
    let (first, rest) ← readSigned? steps tokens
    match rest with
    | .mark '+' :: rest | .mark '-' :: rest =>
      let (second, rest) ← readSigned? steps rest
      return (← first.plus? second, rest)
    | _ => return (first, rest)

/-- A value that may have signs before it. -/
def readSigned? : Nat → List ValueToken → Option (ValueSort × List ValueToken)
  | 0, _ => none
  | steps + 1, tokens =>
    match tokens with
    | .mark '+' :: rest | .mark '-' :: rest => do
      let (operand, rest) ← readSigned? steps rest
      return (← operand.withSign?, rest)
    | _ => readAtom? steps tokens

/-- A value without signs. -/
def readAtom? : Nat → List ValueToken → Option (ValueSort × List ValueToken)
  | 0, _ => none
  | steps + 1, tokens =>
    match tokens with
    | .number imaginary :: rest => some (if imaginary then .imaginary else .real, rest)
    | .constant :: rest => some (.plain, rest)
    | .text isBytes :: rest =>
      match rest with
      | .text next :: _ => if next = isBytes then readAtom? steps rest else none
      | _ => some (.plain, rest)
    | .setWord :: .mark '(' :: .mark ')' :: rest => some (.collection, rest)
    | .mark '(' :: .mark ')' :: rest => some (.plain, rest)
    | .mark '(' :: rest => do
      let (first, rest) ← readSum? steps rest
      let (others, rest) ← readOthers? steps rest
      match rest with
      | .mark ')' :: rest =>
        return ((others.map fun others => .tuple (first :: others)).getD first, rest)
      | _ => none
    | .mark '\x7b' :: .mark '\x7d' :: rest => some (.collection, rest)
    | .mark '\x7b' :: rest => do
      let (first, rest) ← readSum? steps rest
      if first.isKey then
        match rest with
        | .mark ':' :: rest =>
          let (_, rest) ← readSum? steps rest
          return (.collection, ← afterEntries? steps rest)
        | _ =>
          let (others, rest) ← readOthers? steps rest
          match rest with
          | .mark '\x7d' :: rest =>
            if (others.getD []).all ValueSort.isKey then return (.collection, rest) else none
          | _ => none
      else none
    | _ => none

/-- The values behind a first one, each with a comma before it; a comma may stand at the end. Without
any comma there is no list. -/
def readOthers? : Nat → List ValueToken → Option (Option (List ValueSort) × List ValueToken)
  | 0, _ => none
  | steps + 1, tokens =>
    match tokens with
    | .mark ',' :: rest =>
      if rest.head?.all isClosing then some (some [], rest)
      else do
        let (next, rest) ← readSum? steps rest
        let (others, rest) ← readOthers? steps rest
        return (some (next :: others.getD []), rest)
    | _ => some (none, tokens)

/-- What follows the other entries of a map, up to the bracket that closes it. -/
def afterEntries? : Nat → List ValueToken → Option (List ValueToken)
  | 0, _ => none
  | steps + 1, tokens =>
    match tokens with
    | .mark '\x7d' :: rest => some rest
    | .mark ',' :: .mark '\x7d' :: rest => some rest
    | .mark ',' :: rest => do
      let (key, rest) ← readSum? steps rest
      match rest with
      | .mark ':' :: rest =>
        let (_, rest) ← readSum? steps rest
        if key.isKey then afterEntries? steps rest else none
      | _ => none
    | _ => none

end

/-- Whether a text is a constant value, or several with commas between them. -/
def isConstant (cs : List Char) : Bool :=
  let found : Option (List ValueToken) := do
    let tokens ← tokens? cs
    let steps := 4 * tokens.length + 4
    let (_, rest) ← readSum? steps tokens
    let (_, rest) ← readOthers? steps rest
    return rest
  found = some []

/-! ### Actions -/

/-- The arguments of an action: the part in brackets behind the name of a handler, a pair of brackets
where only a name is given, and else the whole text. -/
def arguments (cs : List Char) : List Char :=
  let name := cs.takeWhile fun c => isAlphanumeric c || c == '_' || c == '.'
  match cs.drop name.length with
  | [] => ['(', ')']
  | '(' :: rest =>
    if rest.getLast? = some ')' && !rest.contains '\n' then '(' :: rest else cs
  | _ => cs

/-- Whether the text behind the equals sign of an action is well formed. Nothing at all is. -/
def isWellFormed (cs : List Char) : Bool :=
  cs.isEmpty || isConstant (arguments (trim cs))

end ActionValue

end Typewire.Text
