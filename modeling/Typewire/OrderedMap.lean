/-!
# Maps that remember the order of their keys

A list of pairs. A key keeps the place of its first assignment and holds the value of its last one.
-/
namespace Typewire

/-- Pairs of keys and values in the order in which the keys were first assigned. -/
abbrev OrderedMap (α β : Type) := List (α × β)

namespace OrderedMap

variable {α β : Type} [DecidableEq α]

def get? (map : OrderedMap α β) (key : α) : Option β :=
  (map.find? fun entry => entry.1 = key).map Prod.snd

def put (map : OrderedMap α β) (key : α) (value : β) : OrderedMap α β :=
  match map with
  | [] => [(key, value)]
  | entry :: rest => if entry.1 = key then (key, value) :: rest else entry :: put rest key value

/-- The map that results from assigning pairs one after the other. -/
def ofPairs (pairs : List (α × β)) : OrderedMap α β :=
  pairs.foldl (fun map entry => put map entry.1 entry.2) []

def keys (map : OrderedMap α β) : List α :=
  map.map Prod.fst

theorem get?_put (map : OrderedMap α β) (key other : α) (value : β) :
    get? (put map key value) other = if other = key then some value else get? map other := by
  induction map with
  | nil =>
    by_cases same : key = other
    · simp [put, get?, same]
    · simp [put, get?, same, Ne.symm same]
  | cons entry rest ih =>
    simp only [put]
    by_cases found : entry.1 = key
    · by_cases same : key = other
      · simp [get?, found, same]
      · simp [get?, found, same, Ne.symm same]
    · by_cases here : entry.1 = other
      · have differs : ¬ other = key := fun equal => found (here.trans equal)
        simp [get?, here, differs]
      · simpa [get?, found, here] using ih

theorem keys_put (map : OrderedMap α β) (key : α) (value : β) :
    keys (put map key value) = if key ∈ keys map then keys map else keys map ++ [key] := by
  induction map with
  | nil => simp [put, keys]
  | cons entry rest ih =>
    by_cases found : entry.1 = key
    · simp [put, keys, found]
    · have step : keys (put (entry :: rest) key value) = entry.1 :: keys (put rest key value) := by
        simp [put, keys, found]
      have absent : ¬ key = entry.1 := fun equal => found equal.symm
      by_cases member : key ∈ keys rest
      · rw [step, ih, if_pos member]
        have present : key ∈ keys (entry :: rest) := by
          simpa [keys] using Or.inr member
        rw [if_pos present]
        rfl
      · rw [step, ih, if_neg member]
        have missing : key ∉ keys (entry :: rest) := by
          simpa [keys, absent] using member
        rw [if_neg missing]
        rfl

/-- Going on by one element repeats an earlier one or adds a first occurrence at the end. -/
theorem eraseDups_concat (keys : List α) (key : α) :
    (keys ++ [key]).eraseDups = if key ∈ keys then keys.eraseDups else keys.eraseDups ++ [key] := by
  rw [List.eraseDups_append]
  by_cases known : key ∈ keys
  · simp [known, List.removeAll]
  · simp [known, List.removeAll, List.eraseDups_cons]

end OrderedMap

end Typewire
