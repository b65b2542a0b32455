/-!
# Control sequences of terminals

An escape character and a bracket start a sequence that sets colours or moves the cursor. It has
parameters, then intermediate characters, then one final character. Text that does not go to a terminal
is written without such sequences.
-/
namespace Typewire.Text

/-- The character that starts a sequence. -/
def escape : Char := '\x1b'

def isParameterChar (c : Char) : Bool :=
  '0' ≤ c && c ≤ '?'

def isIntermediateChar (c : Char) : Bool :=
  ' ' ≤ c && c ≤ '/'

def isFinalChar (c : Char) : Bool :=
  '@' ≤ c && c ≤ '~'

/-- What follows the sequence at the start of a text, if there is one. -/
def afterSequence? (cs : List Char) : Option (List Char) :=
  match cs with
  | first :: '[' :: body =>
    match (body.dropWhile isParameterChar).dropWhile isIntermediateChar with
    | final :: rest => if first = escape && isFinalChar final then some rest else none
    | [] => none
  | _ => none

/-- A sequence takes characters away. -/
theorem length_afterSequence? {cs rest : List Char} (h : afterSequence? cs = some rest) :
    rest.length < cs.length := by
  unfold afterSequence? at h
  split at h
  · rename_i first body
    have drop (p : Char → Bool) (l : List Char) : (l.dropWhile p).length ≤ l.length :=
      (List.dropWhile_suffix p).length_le
    split at h
    · rename_i final tail hEq
      split at h
      · cases h
        have h₁ := drop isIntermediateChar (body.dropWhile isParameterChar)
        have h₂ := drop isParameterChar body
        rw [hEq] at h₁
        simp only [List.length_cons] at h₁ ⊢
        omega
      · cases h
    · cases h
  · cases h

/-- The characters outside all sequences. -/
def withoutSequences (cs : List Char) : List Char :=
  match _h : afterSequence? cs with
  | some rest => withoutSequences rest
  | none =>
    match cs with
    | [] => []
    | c :: rest => c :: withoutSequences rest
termination_by cs.length
decreasing_by
  · exact length_afterSequence? ‹_›
  · simp

/-- A text without control sequences. -/
def plainText (s : String) : String :=
  String.ofList (withoutSequences s.toList)

end Typewire.Text
