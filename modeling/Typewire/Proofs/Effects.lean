import Mathlib.Data.List.Forall2
import Mathlib.Order.Defs.Unbundled

/-!
# Steps that may fail and keep a state

What is used of the two kinds of steps of the generator: steps that only may fail, and steps that may fail
and also change a state. Each property of steps below is closed under sequencing and traversal, so that a
statement about a whole run reduces to one about its single steps:

- `OnlyFails`: the failures that can occur;
- `Moves`: how the state can change;
- `During`: a step that was made in the course of a run;
- `Ensures`: what the value of a step has, given an invariant of the state;
- `Refines`: what succeeds in one way succeeds in the same way in another.
-/
namespace Typewire

variable {ε σ α β : Type}

/-! ### Related lists -/

theorem exists_right_of_forall₂ {R : α → β → Prop} {xs : List α} {ys : List β}
    (related : List.Forall₂ R xs ys) {x : α} (member : x ∈ xs) : ∃ y ∈ ys, R x y := by
  induction related with
  | nil => simp at member
  | cons here _ ih =>
    rcases List.mem_cons.mp member with rfl | later
    · exact ⟨_, List.mem_cons_self, here⟩
    · obtain ⟨y, inList, holds⟩ := ih later
      exact ⟨y, List.mem_cons_of_mem _ inList, holds⟩

theorem exists_left_of_forall₂ {R : α → β → Prop} {xs : List α} {ys : List β}
    (related : List.Forall₂ R xs ys) {y : β} (member : y ∈ ys) : ∃ x ∈ xs, R x y :=
  exists_right_of_forall₂ related.flip member

theorem getElem?_of_forall₂ {R : α → β → Prop} {xs : List α} {ys : List β}
    (related : List.Forall₂ R xs ys) {position : Nat} {x : α} (isAt : xs[position]? = some x) :
    ∃ y, ys[position]? = some y ∧ R x y := by
  induction related generalizing position with
  | nil => simp at isAt
  | cons here _ ih =>
    cases position with
    | zero =>
      obtain rfl := Option.some.inj isAt
      exact ⟨_, rfl, here⟩
    | succ position => exact ih isAt

/-- Where elements have one partner each and partners are distinct, a partner belongs to one element. -/
theorem eq_of_forall₂ {R : α → β → Prop} {xs : List α} {ys : List β}
    (related : List.Forall₂ R xs ys) (distinct : ys.Nodup)
    (unique : ∀ x y y', R x y → R x y' → y = y') {x x' : α} {y : β} (member : x ∈ xs) (member' : x' ∈ xs)
    (holds : R x y) (holds' : R x' y) : x = x' := by
  obtain ⟨i, isAt⟩ := List.getElem?_of_mem member
  obtain ⟨j, isAt'⟩ := List.getElem?_of_mem member'
  obtain ⟨z, found, partner⟩ := getElem?_of_forall₂ related isAt
  obtain ⟨z', found', partner'⟩ := getElem?_of_forall₂ related isAt'
  -- Both positions hold the same partner.
  obtain rfl := unique x y z holds partner
  obtain rfl := unique x' y z' holds' partner'
  obtain ⟨bound, _⟩ := List.getElem?_eq_some_iff.mp found
  obtain rfl : i = j := (List.getElem?_inj bound distinct).mp (found.trans found'.symm)
  exact Option.some.inj (isAt.symm.trans isAt')

/-- Related elements are elements of their lists. -/
theorem forall₂_mem {R : α → β → Prop} {xs : List α} {ys : List β} (related : List.Forall₂ R xs ys) :
    List.Forall₂ (fun x y => x ∈ xs ∧ y ∈ ys ∧ R x y) xs ys := by
  have right := (List.forall₂_and_left ys xs).mpr ⟨fun y member => member, related.flip⟩
  exact (List.forall₂_and_left xs ys).mpr ⟨fun x member => member, right.flip⟩

/-- Two lists that are related to a third one agree where related elements do. -/
theorem map_eq_map_of_forall₂ {γ δ : Type} {R : α → β → Prop} {S : α → γ → Prop} {xs : List α}
    {ys : List β} {zs : List γ} (first : List.Forall₂ R xs ys) (second : List.Forall₂ S xs zs)
    {f : β → δ} {g : γ → δ} (agree : ∀ x y z, R x y → S x z → f y = g z) : ys.map f = zs.map g := by
  induction first generalizing zs with
  | nil =>
    cases second
    rfl
  | cons related _ ih =>
    cases second with
    | cons related' others => rw [List.map_cons, List.map_cons, agree _ _ _ related related', ih others]

theorem eq_map_of_forall₂ {R : α → β → Prop} {xs : List α} {ys : List β} (related : List.Forall₂ R xs ys)
    {f : α → β} (agree : ∀ x y, R x y → y = f x) : ys = xs.map f := by
  induction related with
  | nil => rfl
  | cons here _ ih => rw [List.map_cons, ← agree _ _ here, ← ih]

theorem exists_map_of_forall₂ {γ : Type} {R : α → β → Prop} {S : α → γ → Prop} {f : γ → β} {xs : List α}
    {ys : List β} (related : List.Forall₂ R xs ys) (each : ∀ x y, R x y → ∃ z, y = f z ∧ S x z) :
    ∃ zs, ys = zs.map f ∧ List.Forall₂ S xs zs := by
  induction related with
  | nil => exact ⟨[], rfl, .nil⟩
  | cons here _ ih =>
    obtain ⟨z, rfl, holds⟩ := each _ _ here
    obtain ⟨zs, rfl, hold⟩ := ih
    exact ⟨z :: zs, rfl, .cons holds hold⟩

theorem forall₂_filterMap {R : α → β → Prop} {f : α → Option β} {xs : List α}
    (each : ∀ x ∈ xs, ∃ y, f x = some y ∧ R x y) : List.Forall₂ R xs (xs.filterMap f) := by
  induction xs with
  | nil => exact .nil
  | cons x xs ih =>
    obtain ⟨y, found, related⟩ := each x List.mem_cons_self
    rw [List.filterMap_cons_some found]
    exact .cons related (ih fun x' member => each x' (List.mem_cons_of_mem _ member))

/-! ### Steps that only may fail -/

theorem exists_ok_of_isOk {step : Except ε α} (succeeds : step.isOk = true) :
    ∃ value, step = .ok value := by
  cases step with
  | error failure => cases succeeds
  | ok value => exact ⟨value, rfl⟩

/-- A sequence succeeds only if both steps do. -/
theorem except_bind_eq_ok {step : Except ε α} {next : α → Except ε β} {result : β}
    (returned : (step >>= next) = .ok result) :
    ∃ value, step = .ok value ∧ next value = .ok result := by
  cases step with
  | error failure => cases returned
  | ok value => exact ⟨value, rfl, returned⟩

/-- A sequence fails in its first step or in its second one. -/
theorem except_bind_eq_error {step : Except ε α} {next : α → Except ε β} {failure : ε}
    (failed : (step >>= next) = .error failure) :
    step = .error failure ∨ ∃ value, step = .ok value ∧ next value = .error failure := by
  cases step with
  | error other => exact .inl (congrArg Except.error (Except.error.inj failed))
  | ok value => exact .inr ⟨value, rfl, failed⟩

/-- A traversal succeeds exactly if all elements do, and gives their values in order. -/
theorem except_mapM_eq_ok_iff (f : α → Except ε β) (xs : List α) (ys : List β) :
    xs.mapM f = .ok ys ↔ List.Forall₂ (fun x y => f x = .ok y) xs ys := by
  induction xs generalizing ys with
  | nil =>
    rw [List.mapM_nil, List.forall₂_nil_left_iff]
    exact ⟨fun returned => (Except.ok.inj returned).symm, fun empty => empty ▸ rfl⟩
  | cons x xs ih =>
    rw [List.mapM_cons, List.forall₂_cons_left_iff]
    constructor
    · intro returned
      obtain ⟨y, first, rest⟩ := except_bind_eq_ok returned
      obtain ⟨ys', others, last⟩ := except_bind_eq_ok rest
      exact ⟨y, ys', first, (ih ys').mp others, (Except.ok.inj last).symm⟩
    · rintro ⟨y, ys', first, others, rfl⟩
      rw [first, (ih ys').mpr others]
      rfl

theorem except_bind_congr {step : Except ε α} {next other : α → Except ε β}
    (same : ∀ value, step = .ok value → next value = other value) : (step >>= next) = (step >>= other) := by
  cases step with
  | error failure => rfl
  | ok value => exact same value rfl

theorem except_mapM_congr {f g : α → Except ε β} {xs : List α} (same : ∀ x ∈ xs, f x = g x) :
    xs.mapM f = xs.mapM g := by
  induction xs with
  | nil => rfl
  | cons x xs ih =>
    rw [List.mapM_cons, List.mapM_cons, same x List.mem_cons_self,
      ih fun y member => same y (List.mem_cons_of_mem x member)]

theorem except_mapM_map {γ δ : Type} {f : β → Except ε δ} {g : α → β} {h : α → Except ε γ} {k : γ → δ}
    (same : ∀ x, f (g x) = (h x).map k) (xs : List α) :
    (xs.map g).mapM f = (xs.mapM h).map (List.map k) := by
  induction xs with
  | nil => rfl
  | cons x xs ih =>
    rw [List.map_cons, List.mapM_cons, List.mapM_cons, same, ih]
    cases h x with
    | error failure => rfl
    | ok value =>
      cases xs.mapM h with
      | error failure => rfl
      | ok values => rfl

/-- A traversal that fails does so at one of its elements. -/
theorem except_mapM_eq_error {f : α → Except ε β} {xs : List α} {failure : ε}
    (failed : xs.mapM f = .error failure) : ∃ x ∈ xs, f x = .error failure := by
  induction xs with
  | nil => cases failed
  | cons x xs ih =>
    rw [List.mapM_cons] at failed
    rcases except_bind_eq_error failed with here | ⟨y, _, later⟩
    · exact ⟨x, List.mem_cons_self, here⟩
    · rcases except_bind_eq_error later with there | ⟨ys, _, never⟩
      · obtain ⟨x', member, fails⟩ := ih there
        exact ⟨x', List.mem_cons_of_mem _ member, fails⟩
      · cases never

/-- A step fails with an allowed failure only. -/
def FailsOnly (allowed : ε → Prop) (step : Except ε α) : Prop :=
  ∀ failure, step = .error failure → allowed failure

namespace FailsOnly

variable {allowed : ε → Prop}

theorem pure (value : α) : FailsOnly allowed (pure value : Except ε α) := by
  intro failure failed
  cases failed

theorem bind {step : Except ε α} {next : α → Except ε β} (first : FailsOnly allowed step)
    (later : ∀ value, step = .ok value → FailsOnly allowed (next value)) :
    FailsOnly allowed (step >>= next) := by
  intro failure failed
  rcases except_bind_eq_error failed with here | ⟨value, returned, there⟩
  · exact first failure here
  · exact later value returned failure there

theorem mapM {f : α → Except ε β} {xs : List α} (each : ∀ x ∈ xs, FailsOnly allowed (f x)) :
    FailsOnly allowed (xs.mapM f) := by
  intro failure failed
  obtain ⟨x, member, fails⟩ := except_mapM_eq_error failed
  exact each x member failure fails

/-- A step that cannot fail succeeds. -/
theorem exists_ok {step : Except ε α} (never : FailsOnly (fun _ => False) step) :
    ∃ value, step = .ok value := by
  cases step with
  | error failure => exact (never failure rfl).elim
  | ok value => exact ⟨value, rfl⟩

end FailsOnly

/-! ### Steps with a state -/

/-- A step that may fail and changes a state, also when it fails. -/
abbrev Step (ε σ α : Type) := ExceptT ε (StateM σ) α

theorem run_liftM (step : Except ε α) (state : σ) :
    (liftM step : Step ε σ α).run state = (step, state) := rfl

theorem run_bind_of_ok {step : Step ε σ α} (next : α → Step ε σ β) {before after : σ} {value : α}
    (returned : step.run before = (.ok value, after)) :
    (step >>= next).run before = (next value).run after := by
  -- A step is a function of the state, and sequencing looks at its outcome first.
  change (StateT.bind step.run (ExceptT.bindCont next)) before = _
  rw [StateT.bind, returned]
  rfl

theorem run_bind_of_error {step : Step ε σ α} (next : α → Step ε σ β) {before after : σ} {failure : ε}
    (failed : step.run before = (.error failure, after)) :
    (step >>= next).run before = (.error failure, after) := by
  change (StateT.bind step.run (ExceptT.bindCont next)) before = _
  rw [StateT.bind, failed]
  rfl

/-- A sequence that succeeds goes through a state between its two steps. -/
theorem run_bind_eq_ok {step : Step ε σ α} {next : α → Step ε σ β} {before after : σ} {result : β}
    (returned : (step >>= next).run before = (.ok result, after)) :
    ∃ value middle, step.run before = (.ok value, middle) ∧
      (next value).run middle = (.ok result, after) := by
  cases first : step.run before with
  | mk outcome middle =>
    cases outcome with
    | error failure =>
      rw [run_bind_of_error next first] at returned
      cases returned
    | ok value =>
      rw [run_bind_of_ok next first] at returned
      exact ⟨value, middle, rfl, returned⟩

/-- A sequence that fails does so in its first step, or in its second one from the state between them. -/
theorem run_bind_eq_error {step : Step ε σ α} {next : α → Step ε σ β} {before after : σ} {failure : ε}
    (failed : (step >>= next).run before = (.error failure, after)) :
    step.run before = (.error failure, after) ∨
      ∃ value middle, step.run before = (.ok value, middle) ∧
        (next value).run middle = (.error failure, after) := by
  cases first : step.run before with
  | mk outcome middle =>
    cases outcome with
    | error other =>
      rw [run_bind_of_error next first] at failed
      cases failed
      exact .inl rfl
    | ok value =>
      rw [run_bind_of_ok next first] at failed
      exact .inr ⟨value, middle, rfl, failed⟩

/-! ### Failures that can occur -/

/-- Whatever the state, a step fails with an allowed failure only. -/
def OnlyFails (allowed : ε → Prop) (step : Step ε σ α) : Prop :=
  ∀ before failure after, step.run before = (.error failure, after) → allowed failure

namespace OnlyFails

variable {allowed : ε → Prop}

theorem pure (value : α) : OnlyFails allowed (pure value : Step ε σ α) := by
  intro before failure after failed
  cases failed

theorem liftM {step : Except ε α} (only : ∀ failure, step = .error failure → allowed failure) :
    OnlyFails allowed (liftM step : Step ε σ α) := by
  intro before failure after failed
  rw [run_liftM] at failed
  exact only failure (congrArg Prod.fst failed)

theorem bind {step : Step ε σ α} {next : α → Step ε σ β} (first : OnlyFails allowed step)
    (later : ∀ value, OnlyFails allowed (next value)) : OnlyFails allowed (step >>= next) := by
  intro before failure after failed
  rcases run_bind_eq_error failed with here | ⟨value, middle, _, there⟩
  · exact first before failure after here
  · exact later value middle failure after there

theorem mapM {f : α → Step ε σ β} {xs : List α} (each : ∀ x ∈ xs, OnlyFails allowed (f x)) :
    OnlyFails allowed (xs.mapM f) := by
  induction xs with
  | nil => exact pure []
  | cons x xs ih =>
    rw [List.mapM_cons]
    refine bind (each x List.mem_cons_self) fun y => ?_
    exact bind (ih fun x' member => each x' (List.mem_cons_of_mem _ member)) fun ys => pure _

end OnlyFails

/-! ### Changes of the state -/

/-- A step changes the state along a relation, whether it succeeds or not. -/
def Moves (R : σ → σ → Prop) (step : Step ε σ α) : Prop :=
  ∀ before outcome after, step.run before = (outcome, after) → R before after

/-- A step gave a value in the course of a run that went from one state to another. -/
def During (R : σ → σ → Prop) (start finish : σ) (step : Step ε σ α) (value : α) : Prop :=
  ∃ before after, R start before ∧ step.run before = (.ok value, after) ∧ R after finish

section Relation

variable {R : σ → σ → Prop} [Std.Refl R] [IsTrans σ R]

namespace Moves

omit [IsTrans σ R] in
theorem pure (value : α) : Moves R (pure value : Step ε σ α) := by
  intro before outcome after ran
  cases ran
  exact refl_of R before

omit [IsTrans σ R] in
theorem liftM (step : Except ε α) : Moves R (liftM step : Step ε σ α) := by
  intro before outcome after ran
  cases ran
  exact refl_of R before

omit [Std.Refl R] in
theorem bind {step : Step ε σ α} {next : α → Step ε σ β}
    (first : Moves R step) (later : ∀ value, Moves R (next value)) : Moves R (step >>= next) := by
  intro before outcome after ran
  cases begun : step.run before with
  | mk result middle =>
    have reached := first before result middle begun
    cases result with
    | error failure =>
      rw [run_bind_of_error next begun] at ran
      cases ran
      exact reached
    | ok value =>
      rw [run_bind_of_ok next begun] at ran
      exact trans_of R reached (later value middle outcome after ran)

theorem mapM {f : α → Step ε σ β} {xs : List α} (each : ∀ x ∈ xs, Moves R (f x)) :
    Moves R (xs.mapM f) := by
  induction xs with
  | nil => exact pure []
  | cons x xs ih =>
    rw [List.mapM_cons]
    refine bind (each x List.mem_cons_self) fun y => ?_
    exact bind (ih fun x' member => each x' (List.mem_cons_of_mem _ member)) fun ys => pure _

end Moves

namespace During

variable {start finish : σ}

omit [Std.Refl R] [IsTrans σ R] in
theorem liftM {step : Except ε α} {value : α}
    (made : During R start finish (liftM step : Step ε σ α) value) : step = .ok value := by
  obtain ⟨before, after, _, ran, _⟩ := made
  exact congrArg Prod.fst ran

omit [Std.Refl R] [IsTrans σ R] in
theorem pure {value result : α}
    (made : During R start finish (pure value : Step ε σ α) result) : value = result := by
  obtain ⟨before, after, _, ran, _⟩ := made
  exact Except.ok.inj (congrArg Prod.fst ran)

omit [Std.Refl R] in
/-- The parts of a step were made in the course of the same run. -/
theorem bind {step : Step ε σ α} {next : α → Step ε σ β} {result : β}
    (made : During R start finish (step >>= next) result) (first : Moves R step)
    (later : ∀ value, Moves R (next value)) :
    ∃ value, During R start finish step value ∧ During R start finish (next value) result := by
  obtain ⟨before, after, begins, ran, ends⟩ := made
  obtain ⟨value, middle, ranFirst, ranNext⟩ := run_bind_eq_ok ran
  refine ⟨value, ⟨before, middle, begins, ranFirst, ?_⟩, ⟨middle, after, ?_, ranNext, ends⟩⟩
  · exact trans_of R (later value middle _ after ranNext) ends
  · exact trans_of R begins (first before _ middle ranFirst)

/-- The steps of a traversal in the course of a run are made in the course of that run. -/
theorem mapM {f : α → Step ε σ β} {xs : List α} {ys : List β}
    (made : During R start finish (xs.mapM f) ys) (each : ∀ x ∈ xs, Moves R (f x)) :
    List.Forall₂ (fun x y => During R start finish (f x) y) xs ys := by
  induction xs generalizing ys with
  | nil =>
    rw [List.mapM_nil] at made
    rw [← made.pure]
    exact .nil
  | cons x xs ih =>
    have others : ∀ x' ∈ xs, Moves R (f x') := fun x' member => each x' (List.mem_cons_of_mem _ member)
    rw [List.mapM_cons] at made
    obtain ⟨y, first, rest⟩ := made.bind (each x List.mem_cons_self) fun y =>
      Moves.bind (Moves.mapM others) fun ys => Moves.pure _
    obtain ⟨ys', traversed, last⟩ := rest.bind (Moves.mapM others) fun ys => Moves.pure _
    rw [← last.pure]
    exact .cons first (ih traversed others)

end During

end Relation

/-! ### Results -/

/-- From a state in which an invariant holds, a step that succeeds keeps the invariant and gives a value
with a property. -/
def Ensures (I : σ → Prop) (step : Step ε σ α) (Q : α → Prop) : Prop :=
  ∀ before value after, I before → step.run before = (.ok value, after) → I after ∧ Q value

namespace Ensures

variable {I : σ → Prop}

theorem anything (step : Step ε σ α) : Ensures (fun _ => True) step fun _ => True :=
  fun _ _ _ _ _ => ⟨trivial, trivial⟩

theorem pure {value : α} {Q : α → Prop} (holds : Q value) :
    Ensures I (pure value : Step ε σ α) Q := by
  intro before result after invariant ran
  cases ran
  exact ⟨invariant, holds⟩

theorem liftM {step : Except ε α} {Q : α → Prop} (holds : ∀ value, step = .ok value → Q value) :
    Ensures I (liftM step : Step ε σ α) Q := by
  intro before result after invariant ran
  rw [run_liftM, Prod.mk.injEq] at ran
  exact ⟨ran.2 ▸ invariant, holds result ran.1⟩

/-- What the first step ensures may be used in the second. -/
theorem bind {step : Step ε σ α} {next : α → Step ε σ β} {P : α → Prop} {Q : β → Prop}
    (first : Ensures I step P) (later : ∀ value, P value → Ensures I (next value) Q) :
    Ensures I (step >>= next) Q := by
  intro before result after invariant ran
  obtain ⟨value, middle, ranFirst, ranNext⟩ := run_bind_eq_ok ran
  obtain ⟨kept, holds⟩ := first before value middle invariant ranFirst
  exact later value holds middle result after kept ranNext

/-- The rule of consequence. -/
theorem imp {step : Step ε σ α} {P Q : α → Prop} (holds : Ensures I step P)
    (weaker : ∀ value, P value → Q value) : Ensures I step Q := by
  intro before value after invariant ran
  obtain ⟨kept, has⟩ := holds before value after invariant ran
  exact ⟨kept, weaker value has⟩

/-- What each step of a traversal ensures of its value holds of all values. -/
theorem mapM {f : α → Step ε σ β} {xs : List α} {Q : β → Prop}
    (each : ∀ x ∈ xs, Ensures I (f x) Q) : Ensures I (xs.mapM f) fun ys => ∀ y ∈ ys, Q y := by
  induction xs with
  | nil => exact pure (by simp)
  | cons x xs ih =>
    rw [List.mapM_cons]
    refine bind (each x List.mem_cons_self) fun y holds => ?_
    refine bind (ih fun x' member => each x' (List.mem_cons_of_mem _ member)) fun ys others => ?_
    exact pure (List.forall_mem_cons.mpr ⟨holds, others⟩)

/-- What each step ensures may depend on the element that it is made for. -/
theorem mapM_forall₂ {f : α → Step ε σ β} {xs : List α} {R : α → β → Prop}
    (each : ∀ x ∈ xs, Ensures I (f x) (R x)) : Ensures I (xs.mapM f) (List.Forall₂ R xs) := by
  induction xs with
  | nil => exact pure .nil
  | cons x xs ih =>
    rw [List.mapM_cons]
    refine bind (each x List.mem_cons_self) fun y holds => ?_
    refine bind (ih fun x' member => each x' (List.mem_cons_of_mem _ member)) fun ys others => ?_
    exact pure (.cons holds others)

/-- A traversal of what some elements are related to gives what is related to those elements. -/
theorem mapM_of_forall₂ {γ : Type} {f : α → Step ε σ β} {zs : List γ} {xs : List α} {S : γ → α → Prop}
    {R : γ → β → Prop} (related : List.Forall₂ S zs xs)
    (each : ∀ z ∈ zs, ∀ x, S z x → Ensures I (f x) (R z)) : Ensures I (xs.mapM f) (List.Forall₂ R zs) := by
  induction related with
  | nil => exact pure .nil
  | @cons z x zs xs here _ ih =>
    rw [List.mapM_cons]
    refine bind (each z List.mem_cons_self x here) fun y holds => ?_
    refine bind (ih fun z' member => each z' (List.mem_cons_of_mem _ member)) fun ys others => ?_
    exact pure (.cons holds others)

end Ensures

/-! ### Agreement of two steps -/

/-- Whenever the first step succeeds, so does the second, with the same value and state. -/
def Refines (first second : Step ε σ α) : Prop :=
  ∀ before value after, first.run before = (.ok value, after) → second.run before = (.ok value, after)

namespace Refines

theorem refl (step : Step ε σ α) : Refines step step := fun _ _ _ ran => ran

theorem liftM {first second : Except ε α} (agree : ∀ value, first = .ok value → second = .ok value) :
    Refines (liftM first : Step ε σ α) (liftM second) := by
  intro before value after ran
  rw [run_liftM, Prod.mk.injEq] at ran
  rw [run_liftM, agree value ran.1, ran.2]

theorem bind {first second : Step ε σ α} {next next' : α → Step ε σ β} (begin : Refines first second)
    (later : ∀ value, Refines (next value) (next' value)) :
    Refines (first >>= next) (second >>= next') := by
  intro before value after ran
  obtain ⟨result, middle, ranFirst, ranNext⟩ := run_bind_eq_ok ran
  rw [run_bind_of_ok next' (begin before result middle ranFirst)]
  exact later result middle value after ranNext

theorem mapM {f g : α → Step ε σ β} {xs : List α} (each : ∀ x ∈ xs, Refines (f x) (g x)) :
    Refines (xs.mapM f) (xs.mapM g) := by
  induction xs with
  | nil => exact refl _
  | cons x xs ih =>
    rw [List.mapM_cons, List.mapM_cons]
    refine bind (each x List.mem_cons_self) fun y => ?_
    exact bind (ih fun x' member => each x' (List.mem_cons_of_mem _ member)) fun ys => refl _

end Refines

end Typewire
