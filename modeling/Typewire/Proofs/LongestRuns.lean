import Mathlib.Data.List.TakeWhile

/-!
# Longest runs of a class of characters

A reader that takes the longest run of a class finds the run that a grammar asks for, as soon as the text
does not go on with a character of the class.
-/
namespace Typewire.Text

/-- A text does not go on with a character of a class. -/
def Stops (p : Char → Bool) (rest : List Char) : Prop :=
  ∀ c, rest.head? = some c → p c = false

/-- A run that what follows cannot extend is taken as a whole. -/
theorem takeWhile_of_stops {p : Char → Bool} {run rest : List Char} (inside : ∀ c ∈ run, p c = true)
    (stops : Stops p rest) : (run ++ rest).takeWhile p = run := by
  rw [List.takeWhile_append_of_pos inside]
  cases rest with
  | nil => simp
  | cons c rest => simp [stops c rfl]

theorem dropWhile_of_stops {p : Char → Bool} {run rest : List Char} (inside : ∀ c ∈ run, p c = true)
    (stops : Stops p rest) : (run ++ rest).dropWhile p = rest := by
  rw [List.dropWhile_append_of_pos inside]
  cases rest with
  | nil => rfl
  | cons c rest => simp [stops c rfl]

/-- Where every character is of one class, no character of a class without common members comes next. -/
theorem stops_of_forall {p q : Char → Bool} (apart : ∀ c, p c = true → q c = false) {cs : List Char}
    (inside : ∀ c ∈ cs, p c = true) : Stops q cs :=
  fun c isNext => apart c (inside c (List.mem_of_head? isNext))

theorem apart_comm {p q : Char → Bool} (apart : ∀ c, p c = true → q c = false) (c : Char)
    (inSecond : q c = true) : p c = false := by
  cases inFirst : p c with
  | false => rfl
  | true =>
    rw [apart c inFirst] at inSecond
    cases inSecond

end Typewire.Text
