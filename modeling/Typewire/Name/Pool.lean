import Typewire.Name.Basic
import Typewire.OrderedMap

/-!
# Fresh names

A pool holds the names taken in one scope. `allocate` hands out numbered names, `claim` a name of the
caller's choice, numbered only when it is taken. For each base the pool remembers the last number it
handed out, so that a search resumes there.
-/
namespace Typewire

/-- The names of one scope and, for each base, the last number handed out. -/
structure NamePool where
  taken : List String := []
  counters : OrderedMap String Nat := []
  deriving Repr, Inhabited

namespace NamePool

/-- A pool in which the given names are taken from the start. -/
def reserving (names : List String) : NamePool :=
  { taken := names }

def contains (pool : NamePool) (name : String) : Bool :=
  pool.taken.contains name

/-- The candidate of a base with a number. -/
def numbered (base : String) (number : Nat) : String :=
  base ++ "_" ++ toString number

/-- The first number from `start` on whose candidate is free, looking at `fuel` candidates. -/
def firstFree (taken : List String) (base : String) (start : Nat) : Nat → Nat
  | 0 => start
  | fuel + 1 =>
    if taken.contains (numbered base start) then firstFree taken base (start + 1) fuel else start

/-- The number after the last one handed out for a base. -/
def nextNumber (pool : NamePool) (base : String) : Nat :=
  (pool.counters.get? base).getD 0 + 1

/-- Takes the name with the next free number. Of one more candidate than there are taken names, one
is free. -/
def allocate (pool : NamePool) (base : String) : String × NamePool :=
  let number := firstFree pool.taken base (pool.nextNumber base) (pool.taken.length + 1)
  let name := numbered base number
  (name, { taken := name :: pool.taken, counters := pool.counters.put base number })

/-- Takes the legal form of a name, or a numbered variant of it when that form is taken. -/
def claim (pool : NamePool) (name : String) : String × NamePool :=
  let wanted := Name.legalize name
  if pool.contains wanted then pool.allocate wanted
  else (wanted, { pool with taken := wanted :: pool.taken })

def claimAll (pool : NamePool) : List String → List String × NamePool
  | [] => ([], pool)
  | name :: names =>
    let (given, pool) := pool.claim name
    let (others, pool) := claimAll pool names
    (given :: others, pool)

end NamePool

end Typewire
