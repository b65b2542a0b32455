import Typewire.Proofs.FreshNames

/-!
# Which numbers are handed out

`allocate` resumes its search behind the last number it handed out for a base. All numbers up to there
belong to taken names, so the search still ends at the least free number. Hence a series of allocations for
one base gives the first free numbers in order, and whether a numbered name is among them can be told by
counting the free numbers below it.
-/
namespace Typewire.NamePool

variable {pool after : NamePool} {base : String} {taken names : List String} {number : Nat}

/-! ### The search -/

theorem start_le_firstFree (taken : List String) (base : String) (start fuel : Nat) :
    start ≤ firstFree taken base start fuel := by
  induction fuel generalizing start with
  | zero => exact Nat.le_refl _
  | succ fuel ih =>
    rw [firstFree]
    split
    · have later := ih (start + 1)
      omega
    · exact Nat.le_refl _

/-- What a search went past is taken. -/
theorem numbered_mem_of_lt_firstFree {start fuel : Nat} (begun : start ≤ number)
    (passed : number < firstFree taken base start fuel) : numbered base number ∈ taken := by
  induction fuel generalizing start with
  | zero =>
    rw [firstFree] at passed
    omega
  | succ fuel ih =>
    rw [firstFree] at passed
    split at passed
    next present =>
      by_cases here : number = start
      · rw [here]
        simpa using present
      · exact ih (by omega) passed
    next => omega

/-! ### The least free number -/

/-- All numbers that the search for a base would skip belong to taken names. -/
def Dense (pool : NamePool) (base : String) : Prop :=
  ∀ number, 0 < number → number < pool.nextNumber base → numbered base number ∈ pool.taken

/-- A number of a base whose name is free while all smaller ones are taken. -/
structure LeastFree (taken : List String) (base : String) (number : Nat) : Prop where
  positive : 0 < number
  free : numbered base number ∉ taken
  below : ∀ smaller, 0 < smaller → smaller < number → numbered base smaller ∈ taken

theorem Dense.reserving (names : List String) (base : String) : (reserving names).Dense base := by
  intro number positive below
  have first : (NamePool.reserving names).nextNumber base = 1 := rfl
  omega

/-- The search for a base resumes behind the number it gave; other bases are not affected. -/
theorem nextNumber_allocate (pool : NamePool) (base other : String) :
    (pool.allocate base).2.nextNumber other = if other = base then
      firstFree pool.taken base (pool.nextNumber base) (pool.taken.length + 1) + 1
    else pool.nextNumber other := by
  simp only [nextNumber, allocate, OrderedMap.get?_put]
  split <;> rfl

/-- A dense pool gives the least free number. -/
theorem Dense.allocate_leastFree (dense : pool.Dense base) :
    ∃ number, (pool.allocate base).1 = numbered base number ∧ LeastFree pool.taken base number := by
  refine ⟨_, rfl, ?_, allocate_fresh pool base, ?_⟩
  · have begins := start_le_firstFree pool.taken base (pool.nextNumber base) (pool.taken.length + 1)
    have positive : 0 < pool.nextNumber base := Nat.succ_pos _
    omega
  · intro smaller positive passed
    -- Below the start of the search names are taken by density, above it because it went past them.
    by_cases early : smaller < pool.nextNumber base
    · exact dense smaller positive early
    · exact numbered_mem_of_lt_firstFree (by omega) passed

theorem Dense.allocate (dense : pool.Dense base) : (pool.allocate base).2.Dense base := by
  intro number positive below
  rw [nextNumber_allocate, if_pos rfl] at below
  rw [allocate_taken]
  by_cases last : numbered base number = (pool.allocate base).1
  · rw [last]
    exact List.mem_cons_self
  · refine List.mem_cons_of_mem _ ?_
    by_cases early : number < pool.nextNumber base
    · exact dense number positive early
    · refine numbered_mem_of_lt_firstFree (Nat.le_of_not_lt early)
        (Nat.lt_of_le_of_ne (Nat.le_of_lt_succ below) ?_)
      rintro rfl
      exact last rfl

/-- A number given to one base stands in the way of no other. -/
theorem Dense.allocate_other {other : String} (dense : pool.Dense other) (differ : other ≠ base) :
    (pool.allocate base).2.Dense other := by
  intro number positive below
  rw [nextNumber_allocate, if_neg differ] at below
  rw [allocate_taken]
  exact List.mem_cons_of_mem _ (dense number positive below)

/-! ### Counting free numbers -/

/-- How many smaller numbers of a base are free. -/
def freeBelow (taken : List String) (base : String) (number : Nat) : Nat :=
  (List.range number).countP fun smaller => 0 < smaller ∧ numbered base smaller ∉ taken

theorem freeBelow_succ (taken : List String) (base : String) (number : Nat) :
    freeBelow taken base (number + 1) = freeBelow taken base number +
      if 0 < number ∧ numbered base number ∉ taken then 1 else 0 := by
  simp [freeBelow, List.range_succ, List.countP_append, List.countP_cons]

theorem freeBelow_congr {taken' : List String}
    (same : ∀ smaller < number, numbered base smaller ∈ taken ↔ numbered base smaller ∈ taken') :
    freeBelow taken base number = freeBelow taken' base number := by
  apply List.countP_congr
  intro smaller member
  simp [same smaller (List.mem_range.mp member)]

theorem LeastFree.freeBelow_eq_zero (least : LeastFree taken base number) :
    freeBelow taken base number = 0 := by
  rw [freeBelow, List.countP_eq_zero]
  intro smaller member
  rw [decide_eq_true_eq]
  exact fun free => free.2 (least.below smaller free.1 (List.mem_range.mp member))

theorem numbered_mem_cons {first other : Nat} (differ : other ≠ first) :
    numbered base other ∈ numbered base first :: taken ↔ numbered base other ∈ taken := by
  rw [List.mem_cons, or_iff_right]
  exact fun equal => differ (number_eq_of_numbered_eq equal)

/-- Taking a free number leaves one free number less below every larger one. -/
theorem freeBelow_take {first : Nat} (positive : 0 < first) (free : numbered base first ∉ taken)
    (larger : first < number) :
    freeBelow taken base number = freeBelow (numbered base first :: taken) base number + 1 := by
  induction number with
  | zero => omega
  | succ number ih =>
    rw [freeBelow_succ, freeBelow_succ]
    by_cases here : number = first
    · subst here
      have same : freeBelow taken base number = freeBelow (numbered base number :: taken) base number :=
        freeBelow_congr fun smaller below => (numbered_mem_cons (by omega)).symm
      rw [if_pos ⟨positive, free⟩, if_neg (by simp), same]
    · simp only [ih (by omega), numbered_mem_cons here]
      omega

/-! ### Series of one base -/

/-- A pool hands out names of one base, one after the other. -/
inductive Allocates (base : String) : NamePool → List String → NamePool → Prop where
  | none (pool : NamePool) : Allocates base pool [] pool
  | next {pool after : NamePool} {names : List String}
      (others : Allocates base (pool.allocate base).2 names after) :
      Allocates base pool ((pool.allocate base).1 :: names) after

/-- A series takes the free numbers from below, as many as it has names. -/
theorem Allocates.numbered_mem_iff (allocates : Allocates base pool names after)
    (dense : pool.Dense base) (positive : 0 < number) :
    numbered base number ∈ names ↔
      numbered base number ∉ pool.taken ∧ freeBelow pool.taken base number < names.length := by
  induction allocates with
  | none pool => simp
  | @next pool after names others ih =>
    obtain ⟨first, isFirst, least⟩ := dense.allocate_leastFree
    have later := ih dense.allocate
    rw [allocate_taken, isFirst] at later
    rw [isFirst, List.length_cons]
    rcases Nat.lt_trichotomy number first with smaller | rfl | larger
    · -- Smaller numbers are taken already.
      have present := least.below number positive smaller
      have absent : numbered base number ∉ names := fun given =>
        (later.mp given).1 (List.mem_cons_of_mem _ present)
      rw [numbered_mem_cons (by omega)]
      exact ⟨fun given => absurd given absent, fun free => absurd present free.1⟩
    · rw [least.freeBelow_eq_zero]
      exact ⟨fun _ => ⟨least.free, Nat.succ_pos _⟩, fun _ => List.mem_cons_self⟩
    · rw [numbered_mem_cons (by omega), later, numbered_mem_cons (by omega),
        freeBelow_take least.positive least.free larger, Nat.add_lt_add_iff_right]

/-- Every name of a series is a numbered one. -/
theorem Allocates.exists_number (allocates : Allocates base pool names after)
    (dense : pool.Dense base) {name : String} (given : name ∈ names) :
    ∃ number, 0 < number ∧ name = numbered base number := by
  induction allocates with
  | none pool => cases given
  | next others ih =>
    rcases List.mem_cons.mp given with rfl | later
    · obtain ⟨number, isNumber, least⟩ := dense.allocate_leastFree
      exact ⟨number, least.positive, isNumber⟩
    · exact ih dense.allocate later

end Typewire.NamePool
