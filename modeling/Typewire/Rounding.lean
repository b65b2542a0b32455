/-!
# Rounding
-/
namespace Typewire

/-- A number divided by another, rounded to the nearest whole number; a half goes to the even one. -/
def roundedQuotient (total count : Nat) : Nat :=
  let below := total / count
  let rest := total % count
  if 2 * rest < count || (2 * rest = count && below % 2 = 0) then below else below + 1

end Typewire
