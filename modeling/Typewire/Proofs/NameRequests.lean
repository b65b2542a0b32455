import Typewire.Proofs.Numbering

/-!
# Requests to a pool of names

A pool is asked for names again and again, numbered ones and ones of the caller's choice, and a request for
one base can take a name that a later request for another base would have come to. Still each answer is
settled by the names taken at that point: the number that the pool remembers for a base only spares the
search candidates that are taken anyway.

## Main result

`answers_settled_by_taken_names`: the answers to a series of requests are distinct and not reserved, and each
is the one that the names taken before it call for.
-/
namespace Typewire

namespace Name

/-- Whatever is written with an underscore can be declared. -/
theorem isLegal_of_underscore {name : String} (underscore : '_' ∈ name.toList) : isLegal name = true := by
  have spelledWithout : ∀ word ∈ reservedWords ++ generatedGlobals, '_' ∉ word.toList := by decide
  have absent : name ∉ reservedWords ++ generatedGlobals := fun member =>
    spelledWithout name member underscore
  simpa [isLegal, List.mem_append] using absent

/-- An underscore makes every name legal. -/
theorem isLegal_legalize (name : String) : isLegal (legalize name) = true := by
  rw [legalize]
  split
  next legal => exact legal
  next => exact isLegal_of_underscore (by simp)

theorem isLegal_iff {name : String} :
    isLegal name = true ↔ name ∉ reservedWords ∧ name ∉ generatedGlobals := by
  simp [isLegal]

end Name

namespace NamePool

/-- What a pool can be asked for. -/
inductive Request where
  | allocate (base : String)
  | claim (name : String)
  deriving Repr, DecidableEq

def serve (pool : NamePool) : Request → String × NamePool
  | .allocate base => pool.allocate base
  | .claim name => pool.claim name

/-- The answers to requests that are made one after the other, and the pool after them. -/
def serveAll (pool : NamePool) : List Request → List String × NamePool
  | [] => ([], pool)
  | request :: requests =>
    let first := pool.serve request
    let others := serveAll first.2 requests
    (first.1 :: others.1, others.2)

/-- The answer that a request calls for while some names are taken. Nothing else counts, in particular no
number of an earlier answer. -/
def Request.CallsFor (taken : List String) : Request → String → Prop
  | .allocate base, answer => ∃ number, answer = numbered base number ∧ LeastFree taken base number
  | .claim name, answer =>
    (Name.legalize name ∉ taken → answer = Name.legalize name) ∧
    (Name.legalize name ∈ taken → ∃ number,
      answer = numbered (Name.legalize name) number ∧ LeastFree taken (Name.legalize name) number) ∧
    answer ∉ Name.reservedWords ∧ answer ∉ Name.generatedGlobals

variable {pool : NamePool} {base : String} {taken taken' : List String} {first second : Nat}

/-! ### Only the taken names count -/

theorem LeastFree.unique (isFirst : LeastFree taken base first) (isSecond : LeastFree taken base second) :
    first = second := by
  -- The smaller of two such numbers would be free and taken.
  rcases Nat.lt_trichotomy first second with smaller | same | larger
  · exact absurd (isSecond.below first isFirst.positive smaller) isFirst.free
  · exact same
  · exact absurd (isFirst.below second isSecond.positive larger) isSecond.free

theorem LeastFree.congr (same : ∀ name, name ∈ taken ↔ name ∈ taken')
    (least : LeastFree taken base first) : LeastFree taken' base first where
  positive := least.positive
  free := mt (same _).mpr least.free
  below smaller positive isBelow := (same _).mp (least.below smaller positive isBelow)

theorem Request.CallsFor.congr {request : Request} {answer : String}
    (same : ∀ name, name ∈ taken ↔ name ∈ taken') (calls : request.CallsFor taken answer) :
    request.CallsFor taken' answer := by
  cases request with
  | allocate base =>
    obtain ⟨number, isNumbered, least⟩ := calls
    exact ⟨number, isNumbered, least.congr same⟩
  | claim name =>
    obtain ⟨free, numbered, legal⟩ := calls
    refine ⟨fun absent => free (mt (same _).mp absent), fun present => ?_, legal⟩
    obtain ⟨number, isNumbered, least⟩ := numbered ((same _).mpr present)
    exact ⟨number, isNumbered, least.congr same⟩

theorem Request.CallsFor.unique {request : Request} {answer other : String}
    (calls : request.CallsFor taken answer) (callsOther : request.CallsFor taken other) :
    answer = other := by
  cases request with
  | allocate base =>
    obtain ⟨number, rfl, least⟩ := calls
    obtain ⟨_, rfl, leastOther⟩ := callsOther
    rw [least.unique leastOther]
  | claim name =>
    by_cases present : Name.legalize name ∈ taken
    · obtain ⟨number, rfl, least⟩ := calls.2.1 present
      obtain ⟨_, rfl, leastOther⟩ := callsOther.2.1 present
      rw [least.unique leastOther]
    · rw [calls.1 present, callsOther.1 present]

/-! ### One request -/

theorem isLegal_numbered (base : String) (number : Nat) : Name.isLegal (numbered base number) = true :=
  Name.isLegal_of_underscore (by simp [numbered])

theorem claim_of_taken {name : String} (present : Name.legalize name ∈ pool.taken) :
    pool.claim name = pool.allocate (Name.legalize name) := by
  simp [claim, contains, present]

theorem claim_of_free {name : String} (absent : Name.legalize name ∉ pool.taken) :
    pool.claim name = (Name.legalize name, { pool with taken := Name.legalize name :: pool.taken }) := by
  simp [claim, contains, absent]

theorem isLegal_claim (pool : NamePool) (name : String) : Name.isLegal (pool.claim name).1 = true := by
  by_cases present : Name.legalize name ∈ pool.taken
  · rw [claim_of_taken present]
    exact isLegal_numbered _ _
  · rw [claim_of_free present]
    exact Name.isLegal_legalize name

theorem serve_gives (pool : NamePool) (request : Request) :
    pool.Gives [(pool.serve request).1] (pool.serve request).2 := by
  cases request with
  | allocate base => exact .allocate pool base
  | claim name => exact .claim pool name

theorem allocate_dense (dense : ∀ base, pool.Dense base) (base other : String) :
    (pool.allocate base).2.Dense other := by
  by_cases same : other = base
  · rw [same]
    exact (dense base).allocate
  · exact (dense other).allocate_other same

theorem serve_dense (dense : ∀ base, pool.Dense base) (request : Request) (base : String) :
    (pool.serve request).2.Dense base := by
  cases request with
  | allocate other => exact allocate_dense dense other base
  | claim name =>
    by_cases present : Name.legalize name ∈ pool.taken
    · rw [serve, claim_of_taken present]
      exact allocate_dense dense _ base
    · -- No number is handed out, and what was taken stays so.
      rw [serve, claim_of_free present]
      exact fun number positive below => List.mem_cons_of_mem _ (dense base number positive below)

/-- A dense pool answers a request as the taken names call for. -/
theorem serve_callsFor (dense : ∀ base, pool.Dense base) (request : Request) :
    request.CallsFor pool.taken (pool.serve request).1 := by
  cases request with
  | allocate base => exact (dense base).allocate_leastFree
  | claim name =>
    refine ⟨fun absent => ?_, fun present => ?_, Name.isLegal_iff.mp (isLegal_claim pool name)⟩
    · rw [serve, claim_of_free absent]
    · rw [serve, claim_of_taken present]
      exact (dense _).allocate_leastFree

/-! ### Series of requests -/

theorem serveAll_gives (pool : NamePool) (requests : List Request) :
    pool.Gives (pool.serveAll requests).1 (pool.serveAll requests).2 := by
  induction requests generalizing pool with
  | nil => exact .none pool
  | cons request requests ih => exact (serve_gives pool request).append (ih _)

theorem serveAll_dense (dense : ∀ base, pool.Dense base) (requests : List Request) :
    ∀ base, (pool.serveAll requests).2.Dense base := by
  induction requests generalizing pool with
  | nil => exact dense
  | cons request requests ih => exact ih (serve_dense dense request)

theorem serveAll_append (pool : NamePool) (earlier later : List Request) :
    pool.serveAll (earlier ++ later) =
      ((pool.serveAll earlier).1 ++ ((pool.serveAll earlier).2.serveAll later).1,
        ((pool.serveAll earlier).2.serveAll later).2) := by
  induction earlier generalizing pool with
  | nil => rfl
  | cons request earlier ih => simp only [List.cons_append, serveAll, ih]

@[simp] theorem length_serveAll (pool : NamePool) (requests : List Request) :
    (pool.serveAll requests).1.length = requests.length := by
  induction requests generalizing pool with
  | nil => rfl
  | cons request requests ih => simp [serveAll, ih]

/-- The first answers do not depend on later requests. -/
theorem take_serveAll (pool : NamePool) (requests : List Request) (count : Nat) :
    (pool.serveAll requests).1.take count = (pool.serveAll (requests.take count)).1 := by
  rcases Nat.le_total count requests.length with within | beyond
  · -- Cut at the count, the answers to the first part are the first answers.
    have split := serveAll_append pool (requests.take count) (requests.drop count)
    rw [List.take_append_drop] at split
    have size : (pool.serveAll (requests.take count)).1.length = count := by simp [within]
    rw [split, List.take_append_of_le_length (by omega), List.take_of_length_le (by omega)]
  · rw [List.take_of_length_le beyond, List.take_of_length_le (by simpa using beyond)]

/-- What is taken after some requests are the reserved names and the answers. -/
theorem mem_taken_serveAll (reserved : List String) (requests : List Request) (name : String) :
    name ∈ ((reserving reserved).serveAll requests).2.taken ↔
      name ∈ reserved ++ ((reserving reserved).serveAll requests).1 := by
  rw [(serveAll_gives _ requests).taken, List.mem_append]
  exact Or.comm

/-- The answer to a request within a series is the one that the pool gives after the requests before. -/
theorem getElem?_serveAll (pool : NamePool) {requests : List Request} {position : Nat} {request : Request}
    (isAt : requests[position]? = some request) :
    (pool.serveAll requests).1[position]? =
      some ((pool.serveAll (requests.take position)).2.serve request).1 := by
  obtain ⟨bound, isElement⟩ := List.getElem?_eq_some_iff.mp isAt
  have split : requests = requests.take position ++ request :: requests.drop (position + 1) := by
    rw [← isElement, ← List.drop_eq_getElem_cons bound, List.take_append_drop]
  have before : (pool.serveAll (requests.take position)).1.length = position := by
    rw [length_serveAll, List.length_take, Nat.min_eq_left (Nat.le_of_lt bound)]
  have answers := congrArg Prod.fst
    (serveAll_append pool (requests.take position) (request :: requests.drop (position + 1)))
  rw [← split] at answers
  rw [answers, List.getElem?_append_right (by omega), before, Nat.sub_self]
  rfl

/-- The answers to a series of requests are distinct and none of them is reserved, at every point exactly the
reserved names and the answers so far are taken, and each answer is the one that the names taken at its point
call for. A pool that holds those names and remembers no number gives the same answer. -/
theorem answers_settled_by_taken_names (reserved : List String) (requests : List Request) :
    let answers := ((reserving reserved).serveAll requests).1
    answers.Nodup ∧ (∀ answer ∈ answers, answer ∉ reserved) ∧
    (∀ count name, ((reserving reserved).serveAll (requests.take count)).2.contains name = true ↔
      name ∈ reserved ++ answers.take count) ∧
    ∀ position request, requests[position]? = some request →
      ∃ answer, answers[position]? = some answer ∧
        request.CallsFor (reserved ++ answers.take position) answer ∧
        ((reserving (reserved ++ answers.take position)).serve request).1 = answer := by
  have gives := serveAll_gives (reserving reserved) requests
  refine ⟨gives.distinct, gives.fresh, fun count name => ?_, fun position request isAt => ?_⟩
  · rw [contains, List.contains_iff_mem, mem_taken_serveAll, take_serveAll]
  · -- The invariant at this point: every number that a search would skip belongs to a taken name.
    have dense := serveAll_dense (Dense.reserving reserved) (requests.take position)
    have calls := (serve_callsFor dense request).congr (mem_taken_serveAll reserved (requests.take position))
    rw [← take_serveAll] at calls
    refine ⟨_, getElem?_serveAll _ isAt, calls, ?_⟩
    exact (serve_callsFor (Dense.reserving _) request).unique calls

/-- Requests that get in each other's way: names are claimed that other requests would come to, and a claim
moves the number of a base on. -/
def tideRequests : List Request :=
  [.claim "class", .allocate "tide", .claim "class_", .claim "tide_4", .claim "tide", .claim "tide",
    .allocate "tide"]

theorem answers_settled_for_tides :
    ((reserving ["tide_1"]).serveAll tideRequests).1 =
      ["class_", "tide_2", "class__1", "tide_4", "tide", "tide_3", "tide_5"] ∧
    tideRequests[6]? = some (.allocate "tide") ∧
    ∃ answer, ((reserving ["tide_1"]).serveAll tideRequests).1[6]? = some answer ∧
      (Request.allocate "tide").CallsFor
        (["tide_1"] ++ ((reserving ["tide_1"]).serveAll tideRequests).1.take 6) answer ∧
      ((reserving (["tide_1"] ++ ((reserving ["tide_1"]).serveAll tideRequests).1.take 6)).serve
        (.allocate "tide")).1 = answer :=
  ⟨by decide +kernel, rfl,
    (answers_settled_by_taken_names ["tide_1"] tideRequests).2.2.2 6 (.allocate "tide") rfl⟩

end NamePool

end Typewire
