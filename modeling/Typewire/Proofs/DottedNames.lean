import Typewire.Text.Dotted

/-!
# Laws of dotted names

Splitting at dots and joining with dots undo each other on parts without dots. A full name is its scope,
a dot and a plain name, so that the names around it are itself and the names around its scope.
-/
namespace Typewire.Text

/-- A name that a schema may declare: not empty and without dots. -/
def IsPlain (name : String) : Prop :=
  name ≠ "" ∧ '.' ∉ name.toList

instance (name : String) : Decidable (IsPlain name) :=
  inferInstanceAs (Decidable (_ ∧ _))

/-! ### Splitting -/

theorem not_mem_of_mem_splitOn {α : Type} [BEq α] [LawfulBEq α] {separator : α} {xs part : List α}
    (member : part ∈ xs.splitOn separator) : separator ∉ part := by
  by_cases occurs : separator ∈ xs
  · -- Cut at the first separator: nothing of it is left before, and what comes after is shorter.
    obtain ⟨before, after, split, absent⟩ := List.eq_append_cons_of_mem occurs
    have shorter : after.length < xs.length := by
      rw [split, List.length_append, List.length_cons]
      omega
    rw [split, List.splitOn_append_cons_self, List.splitOn_eq_singleton absent] at member
    rcases List.mem_append.mp member with first | later
    · rwa [List.mem_singleton.mp first]
    · exact not_mem_of_mem_splitOn later
  · rw [List.splitOn_eq_singleton occurs] at member
    rwa [List.mem_singleton.mp member]
termination_by xs.length

section Separator

variable {separator : Char} {mark : String}

theorem not_mem_of_mem_splitAtChar {s part : String} (member : part ∈ splitAtChar separator s) :
    separator ∉ part.toList := by
  obtain ⟨chars, isPart, rfl⟩ := List.mem_map.mp member
  rw [String.toList_ofList]
  exact not_mem_of_mem_splitOn isPart

/-- A separator between two texts divides the parts of the one from those of the other. -/
theorem splitAtChar_append (isMark : mark.toList = [separator]) (left right : String) :
    splitAtChar separator (left ++ mark ++ right) =
      splitAtChar separator left ++ splitAtChar separator right := by
  have chars : (left ++ mark ++ right).toList = left.toList ++ separator :: right.toList := by
    simp [isMark]
  simp only [splitAtChar, chars, List.splitOn_append_cons_self, List.map_append]

/-- Splitting a text and joining the parts gives the text back. -/
theorem intercalate_splitAtChar (isMark : mark.toList = [separator]) (s : String) :
    mark.intercalate (splitAtChar separator s) = s := by
  apply String.toList_inj.mp
  have inverse : String.toList ∘ String.ofList = id := by
    funext chars
    simp
  rw [String.toList_intercalate, isMark, splitAtChar, List.map_map, inverse, List.map_id,
    List.intercalate_splitOn]

/-- Parts without the separator are found again. -/
theorem splitAtChar_intercalate (isMark : mark.toList = [separator]) {parts : List String}
    (nonempty : parts ≠ []) (free : ∀ part ∈ parts, separator ∉ part.toList) :
    splitAtChar separator (mark.intercalate parts) = parts := by
  have split : (mark.intercalate parts).toList.splitOn separator = parts.map String.toList := by
    rw [String.toList_intercalate, isMark]
    apply List.splitOn_intercalate
    · intro chars member
      obtain ⟨part, inParts, rfl⟩ := List.mem_map.mp member
      exact free part inParts
    · simpa using nonempty
  have inverse : String.ofList ∘ String.toList = id := by
    funext part
    simp
  rw [splitAtChar, split, List.map_map, inverse, List.map_id]

end Separator

theorem segments_ne_nil (name : String) : segments name ≠ [] := by
  simp [segments, splitAtChar]

theorem segments_of_dotFree {name : String} (dotFree : '.' ∉ name.toList) :
    segments name = [name] := by
  simp [segments, splitAtChar, List.splitOn_eq_singleton dotFree]

theorem IsPlain.segments {name : String} (plain : IsPlain name) : segments name = [name] :=
  segments_of_dotFree plain.2

theorem segments_append_dot (left right : String) :
    segments (left ++ "." ++ right) = segments left ++ segments right :=
  splitAtChar_append rfl left right

theorem dotFree_of_mem_segments {name part : String} (member : part ∈ segments name) :
    '.' ∉ part.toList :=
  not_mem_of_mem_splitAtChar member

/-! ### Joining -/

theorem joinDots_segments (name : String) : joinDots (segments name) = name :=
  intercalate_splitAtChar rfl name

/-- Parts without dots are found again in their dotted name. -/
theorem segments_joinDots {parts : List String} (nonempty : parts ≠ [])
    (dotFree : ∀ part ∈ parts, '.' ∉ part.toList) : segments (joinDots parts) = parts :=
  splitAtChar_intercalate rfl nonempty dotFree

@[simp] theorem joinDots_singleton (part : String) : joinDots [part] = part :=
  String.intercalate_singleton

theorem joinDots_append {left right : List String} (leftNonempty : left ≠ [])
    (rightNonempty : right ≠ []) :
    joinDots (left ++ right) = joinDots left ++ "." ++ joinDots right :=
  String.intercalate_append_of_ne_nil leftNonempty rightNonempty

/-! ### Parts of a path -/

theorem firstSegment_joinDots {first : String} {rest : List String}
    (dotFree : ∀ part ∈ first :: rest, '.' ∉ part.toList) :
    firstSegment (joinDots (first :: rest)) = first := by
  rw [firstSegment, segments_joinDots (List.cons_ne_nil _ _) dotFree, List.headD_cons]

theorem afterFirst_joinDots {first : String} {rest : List String}
    (dotFree : ∀ part ∈ first :: rest, '.' ∉ part.toList) :
    afterFirst (joinDots (first :: rest)) = joinDots rest := by
  rw [afterFirst, segments_joinDots (List.cons_ne_nil _ _) dotFree, List.tail_cons]

theorem lastSegment_joinDots {start : List String} {last : String}
    (dotFree : ∀ part ∈ start ++ [last], '.' ∉ part.toList) :
    lastSegment (joinDots (start ++ [last])) = last := by
  rw [lastSegment, segments_joinDots (by simp) dotFree, List.getLastD_concat]

/-- A dotted path is empty only if it has no part. -/
theorem joinDots_eq_empty_iff {parts : List String} (plain : ∀ part ∈ parts, IsPlain part) :
    joinDots parts = "" ↔ parts = [] := by
  constructor
  · intro empty
    apply Classical.byContradiction
    intro nonempty
    have split := segments_joinDots nonempty fun part member => (plain part member).2
    rw [empty] at split
    -- The empty text has one part, an empty one, and that is not plain.
    have single : segments "" = [""] := segments_of_dotFree (by simp)
    have member : "" ∈ parts := by
      rw [← split, single]
      simp
    exact (plain "" member).1 rfl
  · rintro rfl
    rfl

/-! ### Enclosing names -/

theorem initials_append_singleton {α : Type} (xs : List α) (x : α) :
    initials (xs ++ [x]) = (xs ++ [x]) :: initials xs := by
  induction xs with
  | nil => rfl
  | cons y ys ih => simp [initials, ih]

theorem ne_nil_of_mem_initials {α : Type} {xs initial : List α} (member : initial ∈ initials xs) :
    initial ≠ [] := by
  induction xs with
  | nil => simp [initials] at member
  | cons x xs ih =>
    rcases List.mem_append.mp member with longer | shortest
    · obtain ⟨rest, _, rfl⟩ := List.mem_map.mp longer
      exact List.cons_ne_nil x rest
    · rw [List.mem_singleton.mp shortest]
      exact List.cons_ne_nil x []

/-- The innermost name around a place is the place itself. -/
theorem enclosing_eq_cons (name : String) : ∃ others, enclosing name = name :: others := by
  -- Take the last part off: the longest initial run of parts is the whole name.
  rcases List.eq_nil_or_concat (segments name) with empty | ⟨start, last, split⟩
  · exact absurd empty (segments_ne_nil name)
  · rw [List.concat_eq_append] at split
    refine ⟨(initials start).map joinDots, ?_⟩
    rw [enclosing, split, initials_append_singleton, List.map_cons, ← split, joinDots_segments]

/-- The names around a declared name are itself and those around its scope. -/
theorem enclosing_append_dot {scope name : String} (dotFree : '.' ∉ name.toList) :
    enclosing (scope ++ "." ++ name) = (scope ++ "." ++ name) :: enclosing scope := by
  have split : segments (scope ++ "." ++ name) = segments scope ++ [name] := by
    rw [segments_append_dot, segments_of_dotFree dotFree]
  rw [enclosing, split, initials_append_singleton, List.map_cons, ← split, joinDots_segments,
    enclosing]

end Typewire.Text
