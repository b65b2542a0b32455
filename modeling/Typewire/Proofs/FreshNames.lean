import Typewire.Name.Pool
import Typewire.Proofs.DottedNames

/-!
# Pools hand out fresh names

The search for a free number looks at one candidate more than there are taken names, and candidates of
one base differ, so it ends at a free one. Hence `allocate` and `claim` return a name that was not taken
before, and the pool afterwards holds that name and everything it held. `Gives` says the same of a series
of names that were taken one after the other.
-/
namespace Typewire.NamePool

/-! ### Numbered candidates -/

/-- The number of a candidate can be read off its last digits. -/
theorem number_eq_of_numbered_eq {base : String} {first second : Nat}
    (equal : numbered base first = numbered base second) : first = second := by
  have digits : Nat.toDigits 10 first = Nat.toDigits 10 second := by
    simpa [numbered] using congrArg String.toList equal
  calc first = Nat.ofDigitChars 10 (Nat.toDigits 10 first) 0 := by simp
    _ = Nat.ofDigitChars 10 (Nat.toDigits 10 second) 0 := by rw [digits]
    _ = second := by simp

theorem numbered_plain {base : String} (plain : Text.IsPlain base) (number : Nat) :
    Text.IsPlain (numbered base number) := by
  constructor
  · intro empty
    have chars := congrArg String.toList empty
    simp [numbered] at chars
  · intro dot
    simp only [numbered, String.toList_append, Nat.toString_eq_repr, Nat.toList_repr,
      List.mem_append] at dot
    rcases dot with (inBase | inScore) | inDigits
    · exact plain.2 inBase
    · simp at inScore
    · have digit := Nat.isDigit_of_mem_toDigits (by decide) (by decide) inDigits
      simp at digit

/-! ### The search -/

/-- A search that ends at a taken name has seen taken names only. -/
theorem numbered_mem_of_firstFree_mem {taken : List String} {base : String} {start fuel : Nat}
    (ended : numbered base (firstFree taken base start fuel) ∈ taken) :
    ∀ i < fuel, numbered base (start + i) ∈ taken := by
  induction fuel generalizing start with
  | zero => simp
  | succ fuel ih =>
    intro i bound
    rw [firstFree] at ended
    split at ended
    next present =>
      -- The search went past this candidate, so it is taken, and so is every later one it saw.
      cases i with
      | zero => simpa using present
      | succ i =>
        have later := ih ended i (by omega)
        rwa [Nat.add_right_comm] at later
    next absent =>
      simp only [List.contains_iff_mem] at absent
      exact absurd ended absent

/-- One candidate more than there are taken names cannot all be taken. -/
theorem numbered_firstFree_not_mem (taken : List String) (base : String) (start : Nat) :
    numbered base (firstFree taken base start (taken.length + 1)) ∉ taken := by
  intro ended
  have seen := numbered_mem_of_firstFree_mem ended
  let candidates := (List.range (taken.length + 1)).map fun i => numbered base (start + i)
  have distinct : candidates.Nodup := by
    apply List.pairwise_map.mpr
    apply List.nodup_range.imp
    intro i j differ equal
    exact differ (Nat.add_left_cancel (number_eq_of_numbered_eq equal))
  have included : candidates ⊆ taken := by
    intro name member
    obtain ⟨i, inRange, rfl⟩ := List.mem_map.mp member
    exact seen i (List.mem_range.mp inRange)
  -- So many different names do not fit among those taken.
  have count := List.Nodup.length_le_of_subset distinct included
  have size : candidates.length = taken.length + 1 := by simp [candidates]
  omega

/-! ### Allocating and claiming -/

theorem allocate_fresh (pool : NamePool) (base : String) :
    (pool.allocate base).1 ∉ pool.taken :=
  numbered_firstFree_not_mem pool.taken base (pool.nextNumber base)

@[simp] theorem allocate_taken (pool : NamePool) (base : String) :
    (pool.allocate base).2.taken = (pool.allocate base).1 :: pool.taken := rfl

theorem allocate_plain {base : String} (plain : Text.IsPlain base) (pool : NamePool) :
    Text.IsPlain (pool.allocate base).1 :=
  numbered_plain plain _

theorem claim_fresh (pool : NamePool) (name : String) : (pool.claim name).1 ∉ pool.taken := by
  rw [claim]
  split
  next => exact allocate_fresh pool _
  next absent => simpa [contains] using absent

@[simp] theorem claim_taken (pool : NamePool) (name : String) :
    (pool.claim name).2.taken = (pool.claim name).1 :: pool.taken := by
  rw [claim]
  split <;> rfl

theorem legalize_dotFree {name : String} (dotFree : '.' ∉ name.toList) :
    '.' ∉ (Name.legalize name).toList := by
  rw [Name.legalize]
  split
  · exact dotFree
  · simpa using dotFree

theorem legalize_plain {name : String} (plain : Text.IsPlain name) :
    Text.IsPlain (Name.legalize name) := by
  refine ⟨?_, legalize_dotFree plain.2⟩
  rw [Name.legalize]
  split
  · exact plain.1
  · intro empty
    have chars := congrArg String.toList empty
    simp at chars

theorem claim_plain {name : String} (plain : Text.IsPlain name) (pool : NamePool) :
    Text.IsPlain (pool.claim name).1 := by
  rw [claim]
  split
  · exact allocate_plain (legalize_plain plain) pool
  · exact legalize_plain plain

/-! ### Series of names -/

/-- A pool gives names and becomes another one: the names are distinct, were free before, and are all
that is taken after in addition. -/
structure Gives (before : NamePool) (names : List String) (after : NamePool) : Prop where
  distinct : names.Nodup
  fresh : ∀ name ∈ names, name ∉ before.taken
  taken : ∀ name, name ∈ after.taken ↔ name ∈ names ∨ name ∈ before.taken

theorem Gives.none (pool : NamePool) : pool.Gives [] pool :=
  ⟨List.nodup_nil, by simp, by simp⟩

theorem Gives.allocate (pool : NamePool) (base : String) :
    pool.Gives [(pool.allocate base).1] (pool.allocate base).2 := by
  refine ⟨by simp, ?_, by simp⟩
  intro given member
  rw [List.mem_singleton.mp member]
  exact pool.allocate_fresh base

theorem Gives.claim (pool : NamePool) (name : String) :
    pool.Gives [(pool.claim name).1] (pool.claim name).2 := by
  refine ⟨by simp, ?_, by simp⟩
  intro given member
  rw [List.mem_singleton.mp member]
  exact pool.claim_fresh name

/-- Names that are given in two series are given in one. -/
theorem Gives.append {before middle after : NamePool} {first second : List String}
    (left : before.Gives first middle) (right : middle.Gives second after) :
    before.Gives (first ++ second) after := by
  -- The first names are taken by the time the second ones are chosen.
  have apart : ∀ name ∈ second, name ∉ first := fun name inSecond inFirst =>
    right.fresh name inSecond ((left.taken name).mpr (.inl inFirst))
  refine ⟨?_, ?_, ?_⟩
  · refine List.nodup_append.mpr ⟨left.distinct, right.distinct, ?_⟩
    rintro name inFirst other inSecond rfl
    exact apart name inSecond inFirst
  · intro name member
    rcases List.mem_append.mp member with inFirst | inSecond
    · exact left.fresh name inFirst
    · exact fun old => right.fresh name inSecond ((left.taken name).mpr (.inr old))
  · intro name
    rw [right.taken, left.taken, List.mem_append]
    constructor
    · rintro (inSecond | inFirst | old)
      · exact .inl (.inr inSecond)
      · exact .inl (.inl inFirst)
      · exact .inr old
    · rintro ((inFirst | inSecond) | old)
      · exact .inr (.inl inFirst)
      · exact .inl inSecond
      · exact .inr (.inr old)

end Typewire.NamePool
