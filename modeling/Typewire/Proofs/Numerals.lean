import Typewire.Text.Digit
import Mathlib.Data.List.Basic
import Mathlib.Data.List.Induction

/-!
# Numerals

A numeral is the decimal text of a number up to zeros in front and up to the script of its digits. Every run
of digits is a numeral, and its value is the number that it spells.

Values are compared from the right: one more digit behind a numeral is one more digit behind the decimal text
of its value, unless that value is zero.
-/
namespace Typewire.Text

/-! ### Values of digits -/

theorem digitValue?_lt {c : Char} {value : Nat} (isDigit : digitValue? c = some value) : value < 10 := by
  obtain ⟨start, found, rfl⟩ := Option.map_eq_some_iff.mp isDigit
  have bounds := List.find?_some found
  simp only [Bool.and_eq_true, decide_eq_true_eq] at bounds
  omega

theorem digitValue?_digitChar : ∀ value < 10, digitValue? (Nat.digitChar value) = some value := by
  decide

theorem digitValue?_of_isDigit {c : Char} (digit : c.isDigit = true) :
    digitValue? c = some (c.toNat - '0'.toNat) := by
  have bounds : 48 ≤ c.toNat ∧ c.toNat ≤ 57 := Char.isDigit_iff_toNat.mp digit
  have small : c.toNat - 48 < 10 := by omega
  -- The table of zeros need not be opened: such a character is one of the ten that were looked up above.
  have same : Nat.digitChar (c.toNat - 48) = c := by
    apply Char.toNat_inj.mp
    rw [Nat.toNat_digitChar_of_lt_ten small]
    omega
  have valued := digitValue?_digitChar _ small
  rwa [same] at valued

theorem isDecimal_iff {c : Char} : isDecimal c = true ↔ ∃ value, digitValue? c = some value :=
  Option.isSome_iff_exists

/-- Only the values of the digits count. -/
theorem decimalValue_congr {first second : List Char}
    (same : first.map digitValue? = second.map digitValue?) : decimalValue first = decimalValue second := by
  have values (digits : List Char) : decimalValue digits =
      (digits.map digitValue?).foldl (fun value digit => 10 * value + digit.getD 0) 0 := by
    rw [decimalValue, List.foldl_map]
  rw [values, values, same]

/-- Leading zeros do not count. -/
theorem decimalValue_zeros_append (zeros : Nat) (digits : List Char) :
    decimalValue (List.replicate zeros '0' ++ digits) = decimalValue digits := by
  induction zeros with
  | zero => rfl
  | succ zeros ih =>
    rw [← ih]
    rfl

/-- The digits of a number denote it. -/
theorem decimalValue_toDigits (n : Nat) : decimalValue (Nat.toDigits 10 n) = n := by
  -- On the digits of a decimal text the fold over all scripts is the library's fold over one of them.
  have step : ∀ value, ∀ c ∈ Nat.toDigits 10 n,
      10 * value + (digitValue? c).getD 0 = 10 * value + (c.toNat - '0'.toNat) := by
    intro value c member
    rw [digitValue?_of_isDigit (Nat.isDigit_of_mem_toDigits (by decide) (by decide) member), Option.getD_some]
  calc decimalValue (Nat.toDigits 10 n) = Nat.ofDigitChars 10 (Nat.toDigits 10 n) 0 :=
        List.foldl_ext _ _ _ step
    _ = n := Nat.ofDigitChars_toDigits (by decide) (by decide)

/-! ### Numerals -/

/-- Digits of any script that spell a number: after some zeros they have, one by one, the values of the digits
of its decimal text. -/
structure Numeral where
  digits : List Char
  zeros : Nat
  value : Nat
  spelled : digits.map digitValue? = (List.replicate zeros '0' ++ (toString value).toList).map digitValue?

namespace Numeral

theorem toList_toString (n : Nat) : (toString n).toList = Nat.toDigits 10 n := by
  rw [Nat.toString_eq_repr, Nat.toList_repr]

/-- The decimal text of a number. -/
def ofNat (n : Nat) : Numeral where
  digits := (toString n).toList
  zeros := 0
  value := n
  spelled := rfl

theorem length_eq (numeral : Numeral) :
    numeral.digits.length = numeral.zeros + (toString numeral.value).length := by
  have lengths := congrArg List.length numeral.spelled
  rwa [List.length_map, List.length_map, List.length_append, List.length_replicate,
    String.length_toList] at lengths

theorem digits_ne_nil (numeral : Numeral) : numeral.digits ≠ [] := by
  intro empty
  have spelled := numeral.spelled
  rw [empty, toList_toString] at spelled
  simp [Nat.toDigits_ne_nil] at spelled

theorem isDecimal_of_mem (numeral : Numeral) : ∀ c ∈ numeral.digits, isDecimal c = true := by
  intro c member
  have valued : digitValue? c ∈ numeral.digits.map digitValue? := List.mem_map_of_mem member
  rw [numeral.spelled, toList_toString] at valued
  obtain ⟨d, inText, same⟩ := List.mem_map.mp valued
  have digit : d.isDigit = true := by
    rcases List.mem_append.mp inText with inZeros | inDigits
    · rw [List.eq_of_mem_replicate inZeros]
      rfl
    · exact Nat.isDigit_of_mem_toDigits (by decide) (by decide) inDigits
  exact isDecimal_iff.mpr ⟨_, same.symm.trans (digitValue?_of_isDigit digit)⟩

theorem decimalValue_digits (numeral : Numeral) : decimalValue numeral.digits = numeral.value := by
  rw [decimalValue_congr numeral.spelled, decimalValue_zeros_append, toList_toString, decimalValue_toDigits]

/-- One more digit behind a numeral. -/
theorem exists_concat (numeral : Numeral) {c : Char} {value : Nat} (isDigit : digitValue? c = some value) :
    ∃ longer : Numeral, longer.digits = numeral.digits ++ [c] := by
  have small := digitValue?_lt isDigit
  have last : [c].map digitValue? = (Nat.toDigits 10 value).map digitValue? := by
    rw [Nat.toDigits_of_lt_base small, List.map_singleton, List.map_singleton, isDigit,
      digitValue?_digitChar value small]
  have spelled := numeral.spelled
  rw [toList_toString] at spelled
  by_cases zero : numeral.value = 0
  · -- The text of zero is itself a zero in front of the new digit.
    refine ⟨⟨numeral.digits ++ [c], numeral.zeros + 1, value, ?_⟩, rfl⟩
    rw [List.map_append, spelled, last, ← List.map_append, zero, toList_toString, List.replicate_succ']
    rfl
  · refine ⟨⟨numeral.digits ++ [c], numeral.zeros, 10 * numeral.value + value, ?_⟩, rfl⟩
    have text := Nat.toDigits_append_toDigits (b := 10) (by decide) (Nat.pos_of_ne_zero zero) small
    rw [List.map_append, spelled, last, ← List.map_append, toList_toString, ← text, List.append_assoc]

/-- Every run of digits is a numeral. -/
theorem exists_of_digits {digits : List Char} (nonempty : digits ≠ [])
    (decimal : ∀ c ∈ digits, isDecimal c = true) : ∃ numeral : Numeral, numeral.digits = digits := by
  -- By induction from the right end, where the least digit is.
  induction digits using List.reverseRecOn with
  | nil => exact (nonempty rfl).elim
  | append_singleton digits c ih =>
    obtain ⟨value, isDigit⟩ := isDecimal_iff.mp (decimal c (by simp))
    by_cases first : digits = []
    · have small := digitValue?_lt isDigit
      refine ⟨⟨[c], 0, value, ?_⟩, by simp [first]⟩
      simp [Nat.toDigits_of_lt_base small, isDigit, digitValue?_digitChar value small]
    · obtain ⟨numeral, rfl⟩ := ih first fun d member => decimal d (by simp [member])
      exact numeral.exists_concat isDigit

end Numeral

end Typewire.Text
