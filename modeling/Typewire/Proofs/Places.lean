import Mathlib.Data.List.Induction
import Typewire.Console.FileTree
import Typewire.Proofs.DottedNames
import Typewire.Proofs.Effects

/-!
# Paths and the places that they lead to

A path is followed component by component, and every directory on the way must be there. Where it ends does
not depend on that: if it can be followed at all, it ends where its text alone says.

A path below a directory may go up and down. As long as it does not go further up than it went down, it ends
below the directory, and where exactly depends on the components that remain.
-/
namespace Typewire

namespace Path

/-! ### Components -/

/-- Names without slashes are found again between the slashes. -/
theorem components_intercalate {parts : List String} (nonempty : parts ≠ [])
    (slashFree : ∀ part ∈ parts, '/' ∉ part.toList) :
    components (String.intercalate "/" parts) = parts :=
  Text.splitAtChar_intercalate rfl nonempty slashFree

theorem components_slash_append (path : String) : components ("/" ++ path) = "" :: components path := by
  have split := Text.splitAtChar_append (show "/".toList = ['/'] from rfl) "" path
  rw [String.empty_append] at split
  exact split

theorem components_injective {path other : String} (same : components path = components other) :
    path = other := by
  have joined := Text.intercalate_splitAtChar (show "/".toList = ['/'] from rfl) other
  rwa [show Text.splitAtChar '/' other = Text.splitAtChar '/' path from same.symm,
    Text.intercalate_splitAtChar rfl] at joined

theorem splitOn_append_of_not_mem {separator : Char} {suffix : List Char}
    (absent : separator ∉ suffix) (text : List Char) : ∃ above last,
      text.splitOn separator = above ++ [last] ∧ (text ++ suffix).splitOn separator = above ++ [last ++ suffix] := by
  by_cases occurs : separator ∈ text
  · -- Before the first separator nothing changes.
    obtain ⟨before, after, split, free⟩ := List.eq_append_cons_of_mem occurs
    have shorter : after.length < text.length := by
      rw [split, List.length_append, List.length_cons]
      omega
    obtain ⟨above, last, whole, extended⟩ := splitOn_append_of_not_mem absent after
    refine ⟨before :: above, last, ?_, ?_⟩
    · rw [split, List.splitOn_append_cons_self_of_not_mem free, whole, List.cons_append]
    · rw [split, List.append_assoc, List.cons_append, List.splitOn_append_cons_self_of_not_mem free,
        extended, List.cons_append]
  · have stillFree : separator ∉ text ++ suffix := by
      simp [occurs, absent]
    exact ⟨[], text, List.splitOn_eq_singleton occurs, List.splitOn_eq_singleton stillFree⟩
termination_by text.length

/-- A text without slashes after a path becomes the end of its last component. -/
theorem components_append {suffix : String} (slashFree : '/' ∉ suffix.toList) (path : String) :
    ∃ above last, components path = above ++ [last] ∧
      components (path ++ suffix) = above ++ [last ++ suffix] := by
  obtain ⟨above, last, whole, extended⟩ := splitOn_append_of_not_mem slashFree path.toList
  refine ⟨above.map String.ofList, String.ofList last, ?_, ?_⟩
  · simp [components, Text.splitAtChar, whole]
  · simp [components, Text.splitAtChar, String.toList_append, extended, String.ofList_append]

/-! ### Walks -/

/-- A component that leads further down. -/
def IsName (component : String) : Prop :=
  component ≠ "" ∧ component ≠ "." ∧ component ≠ ".."

instance (component : String) : Decidable (IsName component) :=
  inferInstanceAs (Decidable (_ ∧ _ ∧ _))

section Step

variable {absolute : Bool} {passed : List String} {component : String}

/-- The three kinds of components: those that do not count, steps up, and names. -/
theorem component_cases (component : String) :
    (component = "" ∨ component = ".") ∨ component = ".." ∨ IsName component := by
  unfold IsName
  grind

theorem step_of_ignored (ignored : component = "" ∨ component = ".") :
    step absolute passed component = passed := by
  simp [step, ignored]

theorem step_of_isName (isName : IsName component) :
    step absolute passed component = component :: passed := by
  simp [step, isName.1, isName.2.1, isName.2.2]

theorem step_up_nil : step absolute [] ".." = if absolute then [] else [".."] := by
  simp [step]

theorem step_up_cons {last : String} : step absolute (last :: passed) ".." =
    if last = ".." then ".." :: last :: passed else passed := by
  simp [step]

/-- Empty and `.` components do not count. -/
theorem foldl_step_filter (parts passed : List String) :
    (parts.filter fun part => part ≠ "" && part ≠ ".").foldl (step absolute) passed =
      parts.foldl (step absolute) passed := by
  induction parts generalizing passed with
  | nil => rfl
  | cons part others ih =>
    by_cases ignored : part = "" ∨ part = "."
    · have skipped : ¬ (part ≠ "" && part ≠ ".") = true := by
        grind
      rw [List.filter_cons, if_neg skipped, ih, List.foldl_cons, step_of_ignored ignored]
    · have kept : (part ≠ "" && part ≠ ".") = true := by
        grind
      rw [List.filter_cons, if_pos kept, List.foldl_cons, List.foldl_cons, ih]

/-- What holds of the components passed so far, the last one first: steps up that could not be resolved come
before everything else, and below the root there are none. -/
structure Walked (absolute : Bool) (passed : List String) : Prop where
  slashFree : "/" ∉ passed
  upFirst : passed.Pairwise fun later earlier => later = ".." → earlier = ".."
  rooted : absolute = true → ".." ∉ passed

theorem Walked.start (absolute : Bool) : Walked absolute [] :=
  ⟨by simp, .nil, by simp⟩

theorem Walked.tail {last : String} (walked : Walked absolute (last :: passed)) :
    Walked absolute passed where
  slashFree member := walked.slashFree (List.mem_cons_of_mem _ member)
  upFirst := walked.upFirst.of_cons
  rooted root member := walked.rooted root (List.mem_cons_of_mem _ member)

/-- Above a step up that could not be resolved there are only more of them. -/
theorem Walked.eq_up (walked : Walked absolute (".." :: passed)) :
    ∀ earlier ∈ passed, earlier = ".." :=
  fun _ member => List.rel_of_pairwise_cons walked.upFirst member rfl

/-- A step keeps what holds of the components passed. -/
theorem Walked.step (walked : Walked absolute passed) (slashFree : component ≠ "/") :
    Walked absolute (Path.step absolute passed component) := by
  rcases component_cases component with ignored | rfl | isName
  · rwa [step_of_ignored ignored]
  · cases passed with
    | nil =>
      rw [step_up_nil]
      cases absolute with
      | true => exact Walked.start true
      | false => exact ⟨by simp, List.pairwise_singleton _ _, by simp⟩
    | cons last rest =>
      rw [step_up_cons]
      split
      next isUp =>
        subst isUp
        -- Below the root there would be nothing to go up from.
        have relative : absolute ≠ true := fun root => walked.rooted root List.mem_cons_self
        have allUp : ∀ earlier ∈ ".." :: rest, earlier = ".." := by
          simpa using walked.eq_up
        refine ⟨by simpa using walked.slashFree, ?_, fun root => absurd root relative⟩
        exact List.pairwise_cons.mpr ⟨fun earlier member _ => allUp earlier member, walked.upFirst⟩
      next => exact walked.tail
  · rw [step_of_isName isName]
    refine ⟨by simp [walked.slashFree, slashFree.symm], ?_, ?_⟩
    · exact List.pairwise_cons.mpr ⟨fun _ _ isUp => absurd isUp isName.2.2, walked.upFirst⟩
    · intro root
      simp [walked.rooted root, isName.2.2.symm]

theorem Walked.foldl {parts : List String} (slashFree : ∀ part ∈ parts, part ≠ "/")
    (walked : Walked absolute passed) : Walked absolute (parts.foldl (Path.step absolute) passed) := by
  induction parts generalizing passed with
  | nil => exact walked
  | cons part others ih =>
    exact ih (fun other member => slashFree other (List.mem_cons_of_mem _ member))
      (walked.step (slashFree part List.mem_cons_self))

/-- A step up that could not be resolved stays. -/
theorem mem_step_of_mem (climbed : ".." ∈ passed) : ".." ∈ step false passed component := by
  rcases component_cases component with ignored | rfl | isName
  · rwa [step_of_ignored ignored]
  · cases passed with
    | nil => cases climbed
    | cons last rest =>
      rw [step_up_cons]
      split
      next => exact List.mem_cons_self
      next notUp => exact List.mem_of_ne_of_mem (Ne.symm notUp) climbed
  · rw [step_of_isName isName]
    exact List.mem_cons_of_mem _ climbed

/-- A walk that goes no further up than it went down can start from anywhere. -/
theorem foldl_step_of_not_mem {parts : List String} (stays : ".." ∉ parts.foldl (step false) [])
    (absolute : Bool) (passed : List String) :
    parts.foldl (step absolute) passed = parts.foldl (step false) [] ++ passed := by
  induction parts using List.reverseRecOn with
  | nil => rfl
  | append_singleton parts component ih =>
    simp only [List.foldl_append, List.foldl_cons, List.foldl_nil] at stays ⊢
    rw [ih fun climbed => stays (mem_step_of_mem climbed)]
    -- Only a step up looks at what was passed, and it finds something to go back over.
    rcases component_cases component with ignored | rfl | isName
    · rw [step_of_ignored ignored, step_of_ignored ignored]
    · cases shape : parts.foldl (step false) [] with
      | nil =>
        rw [shape, step_up_nil] at stays
        simp at stays
      | cons last rest =>
        rw [shape, step_up_cons] at stays
        have notUp : last ≠ ".." := by
          rintro rfl
          simp at stays
        rw [List.cons_append, step_up_cons, step_up_cons, if_neg notUp, if_neg notUp]
    · rw [step_of_isName isName, step_of_isName isName, List.cons_append]

end Step

end Path

namespace Console

/-! ### Clean paths -/

namespace CleanPath

/-- A component that counts, be it a name or a step up. -/
structure IsPart (part : String) : Prop where
  ne_empty : part ≠ ""
  ne_dot : part ≠ "."
  slashFree : '/' ∉ part.toList

/-- A path as it is read from a text. -/
structure IsClean (path : CleanPath) : Prop where
  root : path.root = "" ∨ path.root = "/" ∨ path.root = "//"
  parts : ∀ part ∈ path.parts, IsPart part

theorem IsPart.ne_slash {part : String} (isPart : IsPart part) : part ≠ "/" := by
  rintro rfl
  exact isPart.slashFree (by decide)

theorem isPart_of_mem_partsOf {text part : String} (member : part ∈ partsOf text) : IsPart part := by
  obtain ⟨isComponent, counts⟩ := List.mem_filter.mp member
  simp only [Bool.and_eq_true, decide_eq_true_eq] at counts
  exact ⟨counts.1, counts.2, Text.not_mem_of_mem_splitAtChar isComponent⟩

theorem rootOf_cases (text : String) : rootOf text = "" ∨ rootOf text = "/" ∨ rootOf text = "//" := by
  rw [rootOf]
  split <;> simp

/-- What a text denotes is a clean path. -/
theorem ofText_isClean (text : String) : (ofText text).IsClean :=
  ⟨rootOf_cases text, fun _ member => isPart_of_mem_partsOf member⟩

theorem within_isClean (directory fileName : String) : (within directory fileName).IsClean := by
  rw [within]
  split
  next => exact ofText_isClean fileName
  next =>
    refine ⟨rootOf_cases directory, fun part member => ?_⟩
    rcases List.mem_append.mp member with above | below
    · exact isPart_of_mem_partsOf above
    · exact isPart_of_mem_partsOf below

/-- Relative paths are those without a root. -/
theorem rootOf_eq_empty_iff {text : String} : rootOf text = "" ↔ Path.isAbsolute text = false := by
  rw [rootOf, Path.isAbsolute]
  cases shape : text.toList with
  | nil => simp
  | cons first others =>
    by_cases slash : first = '/'
    · subst slash
      simp only [decide_true, List.takeWhile_cons_of_pos, List.length_cons, List.head?_cons]
      split <;> simp_all
    · simp [slash]

theorem partsOf_slash_append (text : String) : partsOf ("/" ++ text) = partsOf text := by
  simp [partsOf, Path.components_slash_append]

theorem partsOf_intercalate {parts : List String} (nonempty : parts ≠ [])
    (areParts : ∀ part ∈ parts, IsPart part) : partsOf (String.intercalate "/" parts) = parts := by
  rw [partsOf, Path.components_intercalate nonempty fun part member => (areParts part member).slashFree,
    List.filter_eq_self]
  intro part member
  simp [(areParts part member).ne_empty, (areParts part member).ne_dot]

theorem takeWhile_intercalate {parts : List String} (areParts : ∀ part ∈ parts, IsPart part) :
    (String.intercalate "/" parts).toList.takeWhile (· = '/') = [] := by
  cases parts with
  | nil => rfl
  | cons first others =>
    -- The first part starts with a character that is not a slash.
    have isPart := areParts first List.mem_cons_self
    have nonempty : first.toList ≠ [] := by
      simpa using isPart.ne_empty
    obtain ⟨start, rest, shape⟩ := List.exists_cons_of_ne_nil nonempty
    have notSlash : start ≠ '/' := by
      rintro rfl
      exact isPart.slashFree (by simp [shape])
    cases others with
    | nil => simp [shape, notSlash]
    | cons second others => simp [String.toList_intercalate, shape, notSlash]

theorem rootOf_append {root text : String} (isRoot : root = "" ∨ root = "/" ∨ root = "//")
    (start : text.toList.takeWhile (· = '/') = []) : rootOf (root ++ text) = root := by
  rcases isRoot with rfl | rfl | rfl
  · simp [rootOf, start]
  · simp [rootOf, start]
  · simp [rootOf, start]

theorem partsOf_append {root text : String} (isRoot : root = "" ∨ root = "/" ∨ root = "//") :
    partsOf (root ++ text) = partsOf text := by
  rcases isRoot with rfl | rfl | rfl
  · rw [String.empty_append]
  · exact partsOf_slash_append text
  · rw [show "//" = "/" ++ "/" from rfl, String.append_assoc, partsOf_slash_append, partsOf_slash_append]

/-- The text of a path denotes the path. -/
theorem ofText_text {path : CleanPath} (clean : path.IsClean) : ofText path.text = path := by
  obtain ⟨root, parts⟩ := path
  obtain ⟨isRoot, areParts⟩ := clean
  by_cases empty : parts = []
  · subst empty
    rcases isRoot with rfl | rfl | rfl <;> decide +kernel
  · have whole : text ⟨root, parts⟩ = root ++ String.intercalate "/" parts := by
      simp [text, empty]
    rw [ofText, whole, rootOf_append isRoot (takeWhile_intercalate areParts), partsOf_append isRoot,
      partsOf_intercalate empty areParts]

end CleanPath

/-! ### Places -/

namespace Place

/-- The place at the end of a walk. -/
def ofWalk (absolute : Bool) (passed : List String) : Place :=
  if absolute then "/" :: passed.reverse else passed.reverse

theorem up_of_forall_eq {place : Place} (allUp : ∀ name ∈ place, name = "..") :
    place.up = place ++ [".."] := by
  rw [up, if_pos]
  simpa using allUp

theorem up_concat {place : Place} {name : String} (notUp : name ≠ "..") (notRoot : name ≠ "/") :
    Place.up (place ++ [name]) = place := by
  have someName : ¬ (place ++ [name]).all (· = "..") = true := by
    simp [notUp]
  have notTop : place ++ [name] ≠ ["/"] := by
    intro top
    have last := congrArg List.getLast? top
    simp [notRoot] at last
  rw [up, if_neg someName, if_neg notTop, List.dropLast_concat]

theorem ofWalk_cons (absolute : Bool) (passed : List String) (component : String) :
    ofWalk absolute (component :: passed) = ofWalk absolute passed ++ [component] := by
  cases absolute <;> simp [ofWalk]

/-- The place above the end of a walk is where one more step up leads. -/
theorem up_ofWalk {absolute : Bool} {passed : List String} (walked : Path.Walked absolute passed) :
    (ofWalk absolute passed).up = ofWalk absolute (Path.step absolute passed "..") := by
  cases passed with
  | nil => cases absolute <;> rfl
  | cons last rest =>
    rw [Path.step_up_cons]
    split
    next isUp =>
      subst isUp
      -- The walk consists of steps up only, so it is relative and one more is kept.
      have relative : absolute = false := by
        simpa using fun root => walked.rooted root List.mem_cons_self
      have allUp : ∀ name ∈ ofWalk absolute (".." :: rest), name = ".." := by
        simpa [relative, ofWalk, or_imp, forall_and] using walked.eq_up
      rw [up_of_forall_eq allUp, ofWalk_cons absolute (".." :: rest)]
    next notUp =>
      have notRoot : last ≠ "/" := by
        rintro rfl
        exact walked.slashFree List.mem_cons_self
      rw [ofWalk_cons, up_concat notUp notRoot]

end Place

namespace FileTree

section Walk

variable {absolute : Bool} {passed : List String} {place : Place} {component : String}

theorem step_of_ignored (ignored : component = "" ∨ component = ".") :
    step place component = .ok place := by
  simp [step, ignored]

theorem step_of_isName (isName : Path.IsName component) : step place component =
    if CleanPath.nameLimit < component.utf8ByteSize then .error .tooLong else .ok (place ++ [component]) := by
  simp [step, isName.1, isName.2.1, isName.2.2]

/-- A step in the tree is a step of the walk. -/
theorem step_ofWalk (walked : Path.Walked absolute passed)
    (stepped : step (.ofWalk absolute passed) component = .ok place) :
    place = .ofWalk absolute (Path.step absolute passed component) := by
  rcases Path.component_cases component with ignored | rfl | isName
  · rw [step_of_ignored ignored] at stepped
    rw [Path.step_of_ignored ignored, Except.ok.inj stepped]
  · have up : step (.ofWalk absolute passed) ".." = .ok (Place.ofWalk absolute passed).up := by
      simp [step]
    rw [up] at stepped
    rw [← Place.up_ofWalk walked, Except.ok.inj stepped]
  · rw [step_of_isName isName] at stepped
    split at stepped
    next => cases stepped
    next => rw [Path.step_of_isName isName, Place.ofWalk_cons, Except.ok.inj stepped]

/-- A path that can be followed ends where the walk over its components ends. -/
theorem follow_ofWalk {tree : FileTree} {parts : List String}
    (slashFree : ∀ part ∈ parts, part ≠ "/") (walked : Path.Walked absolute passed)
    (followed : tree.follow (.ofWalk absolute passed) parts = .ok place) :
    place = .ofWalk absolute (parts.foldl (Path.step absolute) passed) := by
  induction parts generalizing passed with
  | nil => exact (Except.ok.inj followed).symm
  | cons part others ih =>
    obtain ⟨_, _, afterEnter⟩ := except_bind_eq_ok followed
    obtain ⟨next, stepped, rest⟩ := except_bind_eq_ok afterEnter
    rw [step_ofWalk walked stepped] at rest
    exact ih (fun other member => slashFree other (List.mem_cons_of_mem _ member))
      (walked.step (slashFree part List.mem_cons_self)) rest

end Walk

end FileTree

/-- The place that a path leads to, whether or not it can be followed. -/
def CleanPath.place (path : CleanPath) : Place :=
  let absolute : Bool := path.root ≠ ""
  .ofWalk absolute (path.parts.foldl (Path.step absolute) [])

namespace FileTree

theorem locate_eq_place (text : String) : locate text = (CleanPath.ofText text).place := by
  have kind : Path.isAbsolute text = decide (CleanPath.rootOf text ≠ "") := by
    by_cases relative : Path.isAbsolute text = false
    · simp [relative, CleanPath.rootOf_eq_empty_iff]
    · simp [CleanPath.rootOf_eq_empty_iff, relative]
  rw [locate, Path.normalize, CleanPath.place, CleanPath.ofText, CleanPath.partsOf]
  simp only [Path.foldl_step_filter, ← kind]
  rfl

/-- A clean path is located at its place. -/
theorem locate_text {path : CleanPath} (clean : path.IsClean) : locate path.text = path.place := by
  rw [locate_eq_place, CleanPath.ofText_text clean]

/-- What is written at a path is written at its place. -/
theorem place_of_follow {tree : FileTree} {path : CleanPath} (clean : path.IsClean) {parent place : Place}
    (followed : tree.follow (start path.root) path.parts.dropLast = .ok parent)
    (stepped : step parent (path.parts.getLast?.getD ".") = .ok place) : place = path.place := by
  have origin : start path.root = .ofWalk (path.root ≠ "") [] := by
    by_cases relative : path.root = "" <;> simp [start, Place.ofWalk, relative]
  rw [origin] at followed
  have above : ∀ part ∈ path.parts.dropLast, part ≠ "/" :=
    fun part member => (clean.parts part (List.dropLast_subset _ member)).ne_slash
  have walked := Path.Walked.foldl above (.start (path.root ≠ ""))
  rw [follow_ofWalk above (.start _) followed] at stepped
  rw [step_ofWalk walked stepped, CleanPath.place]
  -- Taking the last component off and stepping to it is the whole walk.
  rcases List.eq_nil_or_concat path.parts with empty | ⟨start, last, split⟩
  · simp [empty, Path.step_of_ignored]
  · simp [split, List.concat_eq_append]

end FileTree

/-! ### Output files -/

theorem Place.ofWalk_append (absolute : Bool) (passed more : List String) :
    ofWalk absolute (more ++ passed) = ofWalk absolute passed ++ more.reverse := by
  cases absolute <;> simp [ofWalk]

/-- A relative path that does not leave its directory leads to what remains of its components. -/
theorem FileTree.locate_within {directory fileName : String}
    (relative : Path.isAbsolute fileName = false) (stays : ".." ∉ Path.normalize fileName) :
    locate (CleanPath.within directory fileName).text = locate directory ++ Path.normalize fileName := by
  rw [Path.normalize, relative, List.mem_reverse] at stays
  rw [locate_text (CleanPath.within_isClean directory fileName), locate_eq_place, Path.normalize,
    relative, CleanPath.within, relative]
  simp only [Bool.false_eq_true, if_false, CleanPath.place, CleanPath.ofText, List.foldl_append,
    CleanPath.partsOf, Path.foldl_step_filter]
  rw [Path.foldl_step_of_not_mem stays, Place.ofWalk_append]
  rfl

end Console

namespace Path

theorem isName_append_extension (start : String) : IsName (start ++ outputExtension) := by
  have lastChar : (start ++ outputExtension).toList.getLast? = some 's' := by
    simp [outputExtension]
  refine ⟨?_, ?_, ?_⟩
  all_goals
    intro same
    rw [same] at lastChar
    revert lastChar
    decide

/-- The last component of an output name ends with the extension. -/
theorem exists_components_outputName (fileName : String) :
    ∃ above last, components (outputName fileName) = above ++ [last ++ outputExtension] := by
  have slashFree : '/' ∉ outputExtension.toList := by decide
  obtain ⟨above, last, _, extended⟩ := components_append slashFree ((stem? fileName).getD fileName)
  exact ⟨above, last, extended⟩

theorem foldl_step_of_forall_isName {absolute : Bool} {parts : List String}
    (names : ∀ part ∈ parts, IsName part) (passed : List String) :
    parts.foldl (step absolute) passed = parts.reverse ++ passed := by
  induction parts generalizing passed with
  | nil => rfl
  | cons part others ih =>
    rw [List.foldl_cons, step_of_isName (names part List.mem_cons_self),
      ih fun other member => names other (List.mem_cons_of_mem _ member)]
    simp

/-- A path of names is in normal form. -/
theorem normalize_of_forall_isName {path : String} (names : ∀ part ∈ components path, IsName part) :
    normalize path = components path := by
  rw [normalize, foldl_step_of_forall_isName names, List.append_nil, List.reverse_reverse]

/-- A slash at the start leaves an empty component before it. -/
theorem components_of_isAbsolute {path : String} (absolute : isAbsolute path = true) :
    ∃ others, components path = "" :: others := by
  have start : path.toList.head? = some '/' := by
    simpa [isAbsolute] using absolute
  obtain ⟨rest, shape⟩ := List.head?_eq_some_iff.mp start
  have split : path = "/" ++ String.ofList rest := by
    apply String.toList_inj.mp
    simp [shape]
  exact ⟨_, split ▸ components_slash_append (String.ofList rest)⟩

theorem isAbsolute_of_forall_isName {path : String} (names : ∀ part ∈ components path, IsName part) :
    isAbsolute path = false := by
  by_contra absolute
  obtain ⟨others, start⟩ := components_of_isAbsolute (by simpa using absolute)
  exact (names "" (by simp [start])).1 rfl

/-- The names that a schema compiler gives to files: relative, without `.` and `..`, and with the extension of
schema files. -/
structure IsCanonical (fileName : String) : Prop where
  extended : ∃ stem, fileName = stem ++ ".proto"
  names : ∀ part ∈ components fileName, IsName part

theorem outputName_append_extension (stem : String) :
    outputName (stem ++ ".proto") = stem ++ outputExtension := by
  have found : stem? (stem ++ ".proto") = some stem := by
    simp [stem?, stemOfReversed, isExtensionChar]
  rw [outputName, found, Option.getD_some]

namespace IsCanonical

variable {fileName other : String}

theorem isName_outputName (canonical : IsCanonical fileName) :
    ∀ part ∈ components (outputName fileName), IsName part := by
  obtain ⟨⟨stem, rfl⟩, names⟩ := canonical
  -- The two extensions end the same component.
  obtain ⟨above, last, split, schema⟩ := components_append (show '/' ∉ ".proto".toList by decide) stem
  obtain ⟨above, last, again, output⟩ := components_append (show '/' ∉ outputExtension.toList by decide) stem
  obtain ⟨rfl, _⟩ := List.append_inj' (split.symm.trans again) rfl
  rw [outputName_append_extension, output]
  intro part member
  rcases List.mem_append.mp member with isAbove | isLast
  · apply names part
    rw [schema]
    exact List.mem_append_left _ isAbove
  · rw [List.mem_singleton.mp isLast]
    exact isName_append_extension last

theorem outputName_injective (canonical : IsCanonical fileName) (otherCanonical : IsCanonical other)
    (same : normalize (outputName fileName) = normalize (outputName other)) : fileName = other := by
  rw [normalize_of_forall_isName canonical.isName_outputName,
    normalize_of_forall_isName otherCanonical.isName_outputName] at same
  have sameOutput := components_injective same
  obtain ⟨⟨stem, rfl⟩, _⟩ := canonical
  obtain ⟨⟨otherStem, rfl⟩, _⟩ := otherCanonical
  rw [outputName_append_extension, outputName_append_extension, String.append_left_inj] at sameOutput
  rw [sameOutput]

end IsCanonical

end Path

end Typewire
