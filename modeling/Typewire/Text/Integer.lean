import Typewire.Text.Blank
import Typewire.Text.Digit
import Typewire.Text.Quoted

/-!
# Integers in text

An integer may have blanks around it, a sign, and decimal digits of any script with single underscores
between them. The number of digits is limited.
-/
namespace Typewire.Text

/-- The most digits that a number may have. -/
def digitLimit : Nat := 4300

/-- Why a text is no number. -/
inductive NumberFault where
  /-- The text does not have the form of a number. -/
  | malformed (text : String)
  /-- There are too many digits. -/
  | tooLong (digits : Nat)
  deriving Repr, DecidableEq, Inhabited

/-- The wording of a fault. Only the start of a long text is shown. -/
def NumberFault.message : NumberFault → String
  | malformed text =>
    "invalid literal for int() with base 10: " ++ String.ofList ((quoted text).toList.take 200)
  | tooLong digits =>
    "Exceeds the limit (4300 digits) for integer string conversion: value has " ++
      toString digits ++ " digits; use sys.set_int_max_str_digits() to increase the limit"

/-- Whether a blank may stand around a number. The separators among the control characters may not. -/
def isNumberBlank (c : Char) : Bool :=
  isBlank c && !(0x1c ≤ c.toNat && c.toNat ≤ 0x1f)

/-- The sign at the start of a text, `true` for a negative one, and the rest. -/
def readSign : List Char → Bool × List Char
  | '-' :: rest => (true, rest)
  | '+' :: rest => (false, rest)
  | cs => (false, cs)

/-- Whether underscores stand only singly and between other characters. `bound` tells whether the text
follows its start or an underscore. -/
def dividesWell (bound : Bool) : List Char → Bool
  | [] => !bound
  | c :: rest => if c = '_' then !bound && dividesWell true rest else dividesWell false rest

/-- The number that digits denote. No digits denote zero. -/
def number (digits : List Char) : Except NumberFault Nat :=
  if digits.length ≤ digitLimit then .ok (decimalValue digits)
  else .error (.tooLong digits.length)

/-- The integer that a text denotes. -/
def integer (cs : List Char) : Except NumberFault Int := do
  let (negative, rest) := readSign (cs.dropWhile isNumberBlank)
  let run := rest.takeWhile fun c => isDecimal c || c == '_'
  if dividesWell true run then
    let value ← number (run.filter (· != '_'))
    if (rest.drop run.length).all isNumberBlank then
      return if negative then -(value : Int) else value
    else .error (.malformed (String.ofList cs))
  else .error (.malformed (String.ofList cs))

end Typewire.Text
