import Typewire.Proofs.Places

/-!
# Writing files

A write makes the directories on the way to its place and then puts its text there. Making directories leaves
all files as they are, so a write changes the content at one place or, if it fails, at none. A series of
writes goes on until one fails.

Nothing is in the way of a write if no directory on the way is a file and the place itself is no directory;
then the write succeeds. This stays so after other writes, unless the place of one is on the way to the other.
-/
namespace Typewire.Console

/-! ### One write -/

def Write.place (file : Write) : Place :=
  FileTree.locate file.path

namespace FileTree

variable {tree after : FileTree}

/-- Making a directory leaves all files as they are. -/
theorem makeDirectory_files {path : CleanPath} (made : tree.makeDirectory path = .ok after) :
    after.files = tree.files := by
  obtain ⟨_, _, afterCheck⟩ := except_bind_eq_ok made
  obtain ⟨parent, _, afterFollow⟩ := except_bind_eq_ok afterCheck
  obtain ⟨_, _, chosen⟩ := except_bind_eq_ok afterFollow
  split at chosen
  next => cases chosen
  next => cases chosen
  next name _ _ =>
    obtain ⟨place, _, last⟩ := except_bind_eq_ok chosen
    split at last
    next => cases last
    next =>
      cases last
      rfl

theorem ensureLast_files {path : CleanPath} (ensured : tree.ensureLast path = .ok after) :
    after.files = tree.files := by
  rw [ensureLast] at ensured
  split at ensured
  next made =>
    cases ensured
    exact makeDirectory_files made
  next =>
    split at ensured
    next =>
      cases ensured
      rfl
    next => cases ensured

/-- Making directories leaves all files as they are, even if it fails on the way. -/
theorem ensureReversed_files (tree : FileTree) (root : String) (parts : List String) :
    (tree.ensureReversed root parts).1.files = tree.files := by
  induction parts generalizing tree with
  | nil =>
    rw [ensureReversed]
    split
    next ensured => exact ensureLast_files ensured
    next => rfl
  | cons name above ih =>
    rw [ensureReversed]
    split
    next ensured => exact ensureLast_files ensured
    next =>
      -- The directories above are made first, and then the directory itself is tried again.
      have made := ih tree
      split
      next shape => rwa [shape] at made
      next shape =>
        rw [shape] at made
        split
        next ensured => exact (ensureLast_files ensured).trans made
        next => exact made
    next => rfl

/-- Writing a file replaces what was at its place. -/
theorem writeFile_files {path : CleanPath} (clean : path.IsClean) {content : Wire.Bytes}
    (written : tree.writeFile path content = .ok after) :
    after.files = tree.files.filter (fun entry => entry.1 != path.place) ++ [(path.place, content)] := by
  obtain ⟨_, _, afterCheck⟩ := except_bind_eq_ok written
  obtain ⟨parent, followed, afterFollow⟩ := except_bind_eq_ok afterCheck
  obtain ⟨_, _, afterEnter⟩ := except_bind_eq_ok afterFollow
  obtain ⟨place, stepped, last⟩ := except_bind_eq_ok afterEnter
  split at last
  next => cases last
  next =>
    cases last
    rw [place_of_follow clean followed stepped]

/-- A write either fails and leaves the files as they are, or replaces what is at its place. -/
theorem write_cases (tree : FileTree) (file : Write) :
    (∃ after fault, tree.write file = (after, some fault) ∧ after.files = tree.files) ∨
    ∃ after, tree.write file = (after, none) ∧
      after.files = tree.files.filter (fun entry => entry.1 != file.place) ++
        [(file.place, Wire.encodeText file.text)] := by
  -- Directories come before the file, and making them leaves all files alone, also if it fails half-way.
  have ensured := ensureReversed_files tree (CleanPath.ofText file.path).parent.root
    (CleanPath.ofText file.path).parent.parts.reverse
  rw [write]
  dsimp only [ensureDirectory]
  split
  next middle fault shape =>
    rw [shape] at ensured
    exact .inl ⟨middle, fault, rfl, ensured⟩
  next middle shape =>
    rw [shape] at ensured
    dsimp only at ensured
    split
    next after written =>
      have files := writeFile_files (CleanPath.ofText_isClean file.path) written
      rw [← locate_eq_place, ensured] at files
      exact .inr ⟨after, rfl, files⟩
    next fault _ => exact .inl ⟨middle, fault, rfl, ensured⟩

/-- After a write its place holds the new content, and every other place what it held before. -/
theorem content?_of_files_eq {place : Place} {content : Wire.Bytes}
    (files : after.files = tree.files.filter (fun entry => entry.1 != place) ++ [(place, content)])
    (ordinary : place ≠ nullDevice) (other : Place) :
    after.content? other = if place = other then some content else tree.content? other := by
  by_cases here : place = other
  · subst here
    -- Everything that was at this place has been filtered out.
    have gone : (tree.files.filter fun entry => entry.1 != place).find? (fun entry => entry.1 = place) =
        none := by
      simp
    rw [if_pos rfl, content?, if_neg ordinary, files, List.find?_append, gone]
    simp
  · have kept : (tree.files.filter fun entry => entry.1 != place).find? (fun entry => entry.1 = other) =
        tree.files.find? fun entry => entry.1 = other := by
      rw [List.find?_filter]
      congr 1
      funext entry
      by_cases isOther : entry.1 = other
      · simp [isOther, Ne.symm here]
      · simp [isOther]
    rw [if_neg here, content?, content?, files, List.find?_append, kept]
    simp [here]

/-! ### A series of writes -/

/-- What a series of contents leaves at a place: the last one that was put there. -/
def lastAt? {α : Type} (place : α → Place) (content : α → Wire.Bytes) (series : List α) (target : Place) :
    Option Wire.Bytes :=
  (series.findRev? fun item => place item = target).map content

section LastAt

variable {α β : Type} {place : α → Place} {content : α → Wire.Bytes} {series : List α} {target : Place}

theorem lastAt?_cons (item : α) (series : List α) : lastAt? place content (item :: series) target =
    (lastAt? place content series target).or (if place item = target then some (content item) else none) := by
  simp only [lastAt?, List.findRev?_eq_find?_reverse, List.reverse_cons, List.find?_append]
  cases found : series.reverse.find? fun item => place item = target with
  | some later => rfl
  | none => by_cases here : place item = target <;> simp [here]

theorem lastAt?_map {f : β → α} {places : β → Place} {contents : β → Wire.Bytes} {series : List β}
    (agree : ∀ item ∈ series, place (f item) = places item ∧ content (f item) = contents item) :
    lastAt? place content (series.map f) target = lastAt? places contents series target := by
  induction series with
  | nil => rfl
  | cons item others ih =>
    obtain ⟨samePlace, sameContent⟩ := agree item List.mem_cons_self
    rw [List.map_cons, lastAt?_cons, lastAt?_cons, samePlace, sameContent,
      ih fun other member => agree other (List.mem_cons_of_mem _ member)]

/-- What is left at a place was put there by some item of the series. -/
theorem exists_of_lastAt? {bytes : Wire.Bytes} (left : lastAt? place content series target = some bytes) :
    ∃ item ∈ series, place item = target ∧ content item = bytes := by
  obtain ⟨item, found, rfl⟩ := Option.map_eq_some_iff.mp left
  rw [List.findRev?_eq_find?_reverse] at found
  refine ⟨item, List.mem_reverse.mp (List.mem_of_find?_eq_some found), ?_, rfl⟩
  simpa using List.find?_some found

theorem exists_lastAt? (place : α → Place) (content : α → Wire.Bytes) {item : α} (member : item ∈ series) :
    ∃ bytes, lastAt? place content series (place item) = some bytes := by
  have found : (series.findRev? fun other => place other = place item).isSome := by
    rw [List.findRev?_eq_find?_reverse, List.find?_isSome]
    exact ⟨item, List.mem_reverse.mpr member, by simp⟩
  obtain ⟨later, isLater⟩ := Option.isSome_iff_exists.mp found
  exact ⟨content later, by rw [lastAt?, isLater, Option.map_some]⟩

end LastAt

/-- The writes that were completed are the first ones. -/
theorem complete_isPrefix (tree : FileTree) (writes : List Write) :
    (tree.writeAll writes).complete <+: writes := by
  induction writes generalizing tree with
  | nil => exact List.prefix_rfl
  | cons file others ih =>
    rw [writeAll]
    rcases write_cases tree file with ⟨after, fault, failed, _⟩ | ⟨after, done, _⟩
    · rw [failed]
      exact List.nil_prefix
    · rw [done]
      exact List.cons_prefix_cons.mpr ⟨rfl, ih after⟩

/-- A series ends without a fault exactly if all of it was written. -/
theorem fault_eq_none_iff (tree : FileTree) (writes : List Write) :
    (tree.writeAll writes).fault = none ↔ (tree.writeAll writes).complete = writes := by
  induction writes generalizing tree with
  | nil => simp [writeAll]
  | cons file others ih =>
    rw [writeAll]
    rcases write_cases tree file with ⟨after, fault, failed, _⟩ | ⟨after, done, _⟩
    · simp [failed]
    · simp [done, ih after]

/-- After a series of writes every place has the text of the last complete one there, and any other place has
what it had before. -/
theorem content?_writeAll (tree : FileTree) {writes : List Write}
    (ordinary : ∀ file ∈ writes, file.place ≠ nullDevice) (place : Place) :
    (tree.writeAll writes).tree.content? place =
      (lastAt? Write.place (Wire.encodeText ∘ Write.text) (tree.writeAll writes).complete place).or
        (tree.content? place) := by
  induction writes generalizing tree with
  | nil => rfl
  | cons file others ih =>
    rw [writeAll]
    -- A write that fails ends the series; one that is done can be overruled by a later one at its place.
    rcases write_cases tree file with ⟨after, fault, failed, same⟩ | ⟨after, done, files⟩
    · rw [failed]
      dsimp only
      rw [content?, content?, same]
      rfl
    · rw [done]
      dsimp only
      rw [ih after fun other member => ordinary other (List.mem_cons_of_mem _ member), lastAt?_cons,
        content?_of_files_eq files (ordinary file List.mem_cons_self)]
      by_cases here : file.place = place
      · simp [here]
      · simp [here]

end FileTree

/-! ### When nothing is in the way -/

namespace CleanPath

/-- A name that the system takes. -/
def IsShortName (part : String) : Prop :=
  Path.IsName part ∧ part.utf8ByteSize ≤ nameLimit

instance (part : String) : Decidable (IsShortName part) :=
  inferInstanceAs (Decidable (_ ∧ _))

/-- A path that only goes down, by names that the system takes. -/
structure Acceptable (path : CleanPath) : Prop where
  clean : path.IsClean
  names : ∀ part ∈ path.parts, IsShortName part
  checked : check path.text = .ok ()

/-- The system takes texts without a null character that are not too long. -/
theorem check_eq_ok_iff {text : String} :
    check text = .ok () ↔ '\x00' ∉ text.toList ∧ text.utf8ByteSize ≤ pathLimit := by
  rw [check]
  by_cases null : '\x00' ∈ text.toList
  · simp [null]
  · by_cases long : pathLimit < text.utf8ByteSize
    · simp [null, long]
    · simp [null, long, Nat.le_of_not_lt long]

/-- The text of a path starts with the texts of the directories on the way. -/
theorem exists_text_eq (root : String) {above : List String} (nonempty : above ≠ []) (rest : List String) :
    ∃ more, text ⟨root, above ++ rest⟩ = text ⟨root, above⟩ ++ more := by
  by_cases last : rest = []
  · exact ⟨"", by simp [last]⟩
  · refine ⟨"/" ++ String.intercalate "/" rest, ?_⟩
    simp [text, nonempty, String.intercalate_append_of_ne_nil nonempty last, String.append_assoc]

theorem Acceptable.of_append {root : String} {above rest : List String}
    (acceptable : Acceptable ⟨root, above ++ rest⟩) : Acceptable ⟨root, above⟩ := by
  obtain ⟨⟨isRoot, areParts⟩, names, checked⟩ := acceptable
  refine ⟨⟨isRoot, fun part member => areParts part (List.mem_append_left _ member)⟩,
    fun part member => names part (List.mem_append_left _ member), ?_⟩
  by_cases empty : above = []
  · subst empty
    rcases isRoot with rfl | rfl | rfl <;> decide +kernel
  · -- What is refused in the shorter text would be refused in the longer one.
    obtain ⟨more, whole⟩ := exists_text_eq root empty rest
    rw [check_eq_ok_iff, whole, String.toList_append, String.utf8ByteSize_append] at checked
    apply check_eq_ok_iff.mpr
    constructor
    · exact fun null => checked.1 (List.mem_append_left _ null)
    · omega

/-- An acceptable path leads to the place that its components name. -/
theorem Acceptable.place_eq {path : CleanPath} (acceptable : path.Acceptable) :
    path.place = FileTree.start path.root ++ path.parts := by
  rw [place, Path.foldl_step_of_forall_isName fun part member => (acceptable.names part member).1]
  by_cases relative : path.root = "" <;> simp [relative, Place.ofWalk, FileTree.start]

end CleanPath

namespace FileTree

variable {tree after : FileTree} {place : Place} {parts : List String}

theorem enter_of_isDirectory (isDirectory : tree.isDirectory place = true) : tree.enter place = .ok () := by
  rw [enter, if_pos isDirectory]

theorem enter_of_missing (notDirectory : tree.isDirectory place = false)
    (clear : tree.content? place = none) : tree.enter place = .error .missing := by
  simp [enter, notDirectory, clear]

theorem isDirectory_start (tree : FileTree) (root : String) : tree.isDirectory (start root) = true := by
  by_cases relative : root = "" <;> simp [isDirectory, start, relative, Place.isGiven]

/-- Whether all places on the way to the end of a path are directories. -/
def Passable (tree : FileTree) (place : Place) (parts : List String) : Prop :=
  ∀ above, above <+: parts → above ≠ parts → tree.isDirectory (place ++ above) = true

theorem step_of_isShortName {component : String} (isShort : CleanPath.IsShortName component) :
    step place component = .ok (place ++ [component]) := by
  rw [step_of_isName isShort.1, if_neg (Nat.not_lt.mpr isShort.2)]

/-- A passable path can be followed to its end. -/
theorem follow_of_passable (names : ∀ part ∈ parts, CleanPath.IsShortName part)
    (passable : tree.Passable place parts) : tree.follow place parts = .ok (place ++ parts) := by
  induction parts generalizing place with
  | nil => simp [follow]
  | cons part others ih =>
    have here : tree.isDirectory place = true := by
      simpa using passable [] List.nil_prefix (by simp)
    have next : tree.Passable (place ++ [part]) others := by
      intro above isAbove proper
      simpa using passable (part :: above) (List.cons_prefix_cons.mpr ⟨rfl, isAbove⟩) (by simpa using proper)
    rw [follow, enter_of_isDirectory here, step_of_isShortName (names part List.mem_cons_self)]
    dsimp only [bind, Except.bind]
    rw [ih (fun other member => names other (List.mem_cons_of_mem _ member)) next]
    simp

/-- If nothing on the way is a file, then a path that cannot be followed lacks a directory. -/
theorem follow_of_not_passable (names : ∀ part ∈ parts, CleanPath.IsShortName part)
    (clear : ∀ above, above <+: parts → above ≠ parts → tree.content? (place ++ above) = none)
    (blocked : ¬ tree.Passable place parts) : tree.follow place parts = .error .missing := by
  induction parts generalizing place with
  | nil =>
    refine absurd (fun above isAbove proper => ?_) blocked
    exact absurd (List.prefix_nil.mp isAbove) proper
  | cons part others ih =>
    have nothing : tree.content? place = none := by
      simpa using clear [] List.nil_prefix (by simp)
    cases here : tree.isDirectory place with
    | false =>
      rw [follow, enter_of_missing here nothing]
      rfl
    | true =>
      rw [follow, enter_of_isDirectory here, step_of_isShortName (names part List.mem_cons_self)]
      dsimp only [bind, Except.bind]
      refine ih (fun other member => names other (List.mem_cons_of_mem _ member)) ?_ ?_
      · intro above isAbove proper
        simpa using clear (part :: above) (List.cons_prefix_cons.mpr ⟨rfl, isAbove⟩) (by simpa using proper)
      · -- The start is a directory, so what is missing lies further on.
        intro passable
        refine blocked fun above isAbove proper => ?_
        rcases List.prefix_cons_iff.mp isAbove with rfl | ⟨rest, rfl, isRest⟩
        · simpa using here
        · simpa using passable rest isRest (by simpa using proper)

theorem follow_append (place : Place) (parts more : List String) : tree.follow place (parts ++ more) =
    (do let reached ← tree.follow place parts
        tree.follow reached more) := by
  induction parts generalizing place with
  | nil => rfl
  | cons part others ih =>
    rw [List.cons_append, follow, follow]
    cases tree.enter place with
    | error fault => rfl
    | ok _ =>
      dsimp only [bind, Except.bind]
      cases step place part with
      | error fault => rfl
      | ok next => exact ih next

/-- Following a path to its end is following it to the directory and stepping from there. -/
theorem follow_concat (place : Place) (above : List String) (name : String) :
    tree.follow place (above ++ [name]) =
      (do let parent ← tree.follow place above
          tree.enter parent
          step parent name) := by
  rw [follow_append]
  congr 1
  funext parent
  rw [follow]
  cases tree.enter parent with
  | error fault => rfl
  | ok _ =>
    dsimp only [bind, Except.bind]
    cases step parent name with
    | error fault => rfl
    | ok place => rfl

section Last

variable {path : CleanPath} {above : List String} {name : String}

/-- A directory is made where its path leads, unless something is there. -/
theorem makeDirectory_eq (shape : path.parts = above ++ [name]) (isName : Path.IsName name) :
    tree.makeDirectory path =
      (do CleanPath.check path.text
          let place ← tree.follow (start path.root) path.parts
          if (tree.content? place).isSome || tree.isDirectory place then .error .taken
          else return { tree with directories := tree.directories ++ [place] }) := by
  have last : path.parts.getLast? = some name := by
    rw [shape, List.getLast?_concat]
  rw [makeDirectory]
  split
  next absent => simp [last] at absent
  next isUp =>
    rw [last] at isUp
    exact absurd (Option.some.inj isUp) isName.2.2
  next same =>
    rw [last] at same
    cases same
    rw [shape, follow_concat, List.dropLast_concat]
    simp only [bind_assoc]

theorem writeFile_eq (shape : path.parts = above ++ [name]) (content : Wire.Bytes) :
    tree.writeFile path content =
      (do CleanPath.check path.text
          let place ← tree.follow (start path.root) path.parts
          if tree.isDirectory place then .error .isDirectory
          else return { tree with
            files := tree.files.filter (fun entry => entry.1 != place) ++ [(place, content)] }) := by
  rw [writeFile, shape, follow_concat, List.dropLast_concat, List.getLast?_concat, Option.getD_some]
  simp only [bind_assoc]

end Last

/-- The text of a path has the parts of the path, after components that do not count. -/
theorem exists_components_text {path : CleanPath} (clean : path.IsClean) : ∃ skipped : List String,
    (∀ component ∈ skipped, component = "" ∨ component = ".") ∧
      Path.components path.text = skipped ++ path.parts := by
  obtain ⟨root, parts⟩ := path
  obtain ⟨isRoot, areParts⟩ := clean
  by_cases empty : parts = []
  · subst empty
    refine ⟨Path.components (CleanPath.text ⟨root, []⟩), ?_, (List.append_nil _).symm⟩
    rcases isRoot with rfl | rfl | rfl <;> decide +kernel
  · have whole : CleanPath.text ⟨root, parts⟩ = root ++ String.intercalate "/" parts := by
      simp [CleanPath.text, empty]
    have joined := Path.components_intercalate empty fun part member => (areParts part member).slashFree
    rw [whole]
    -- The slashes of the root leave empty components in front.
    rcases isRoot with rfl | rfl | rfl
    · exact ⟨[], by simp, by simp [joined]⟩
    · exact ⟨[""], by simp, by simp [Path.components_slash_append, joined]⟩
    · refine ⟨["", ""], by simp, ?_⟩
      rw [show "//" = "/" ++ "/" from rfl, String.append_assoc, Path.components_slash_append,
        Path.components_slash_append, joined]
      rfl

theorem follow_skipped (isDirectory : tree.isDirectory place = true) {skipped : List String}
    (ignored : ∀ component ∈ skipped, component = "" ∨ component = ".") (parts : List String) :
    tree.follow place (skipped ++ parts) = tree.follow place parts := by
  induction skipped with
  | nil => rfl
  | cons component others ih =>
    rw [List.cons_append, follow, enter_of_isDirectory isDirectory,
      step_of_ignored (ignored component List.mem_cons_self)]
    exact ih fun other member => ignored other (List.mem_cons_of_mem _ member)

/-- The node of a path is what stands where the path leads. -/
theorem node_text {path : CleanPath} (clean : path.IsClean) (checked : CleanPath.check path.text = .ok ()) :
    tree.node path.text =
      match tree.follow (start path.root) path.parts with
      | .error _ => .missing
      | .ok place =>
        match tree.content? place with
        | some content => .file content
        | none => if tree.isDirectory place then .directory else .missing := by
  have roundTrip := CleanPath.ofText_text clean
  have sameRoot : CleanPath.rootOf path.text = path.root := congrArg CleanPath.root roundTrip
  -- The empty text is read as the path whose own text is a dot.
  have nonempty : path.text ≠ "" := by
    intro empty
    rw [empty] at roundTrip
    rw [← roundTrip] at empty
    revert empty
    decide +kernel
  obtain ⟨skipped, ignored, split⟩ := exists_components_text clean
  rw [node, checked, sameRoot, split]
  simp only [nonempty, if_false, follow_skipped (isDirectory_start tree path.root) ignored]
  rfl

theorem passable_concat_iff {above : List String} {name : String} : tree.Passable place (above ++ [name]) ↔
    ∀ start, start <+: above → tree.isDirectory (place ++ start) = true := by
  constructor
  · intro passable start isStart
    refine passable start (isStart.trans (List.prefix_append _ _)) ?_
    rintro rfl
    have longer := isStart.length_le
    rw [List.length_append, List.length_singleton] at longer
    omega
  · intro directories start isStart proper
    rcases List.prefix_concat_iff.mp isStart with whole | isAbove
    · exact absurd whole proper
    · exact directories start isAbove

/-- Whether the directories after a step are those before it and those on the way to the end of a path. -/
def Reaches (tree after : FileTree) (place : Place) (parts : List String) : Prop :=
  ∀ other, after.isDirectory other = true ↔
    tree.isDirectory other = true ∨ ∃ start, start <+: parts ∧ other = place ++ start

theorem reaches_of_passable {above : List String} {name : String}
    (passable : tree.Passable place (above ++ [name]))
    (added : ∀ other, after.isDirectory other = true ↔
      tree.isDirectory other = true ∨ other = place ++ (above ++ [name])) :
    tree.Reaches after place (above ++ [name]) := by
  intro other
  rw [added]
  constructor
  · rintro (isDirectory | rfl)
    · exact .inl isDirectory
    · exact .inr ⟨_, List.prefix_rfl, rfl⟩
  · rintro (isDirectory | ⟨start, isStart, rfl⟩)
    · exact .inl isDirectory
    · rcases List.prefix_concat_iff.mp isStart with rfl | isAbove
      · exact .inr rfl
      · exact .inl (passable_concat_iff.mp passable start isAbove)

section EnsureLast

variable {root : String} {above : List String} {name : String}

/-- Where a path can be followed to a name that is no file, its directory is made or already there. -/
theorem ensureLast_of_passable (acceptable : CleanPath.Acceptable ⟨root, above ++ [name]⟩)
    (passable : tree.Passable (start root) (above ++ [name]))
    (clear : tree.content? (start root ++ (above ++ [name])) = none) :
    ∃ after, tree.ensureLast ⟨root, above ++ [name]⟩ = .ok after ∧
      tree.Reaches after (start root) (above ++ [name]) := by
  have followed := follow_of_passable acceptable.names passable
  have isName : Path.IsName name := (acceptable.names name (by simp)).1
  have made : tree.makeDirectory ⟨root, above ++ [name]⟩ = _ := makeDirectory_eq rfl isName
  rw [acceptable.checked, followed] at made
  -- A directory that is there already cannot be made, but this is forgiven as long as it is no file.
  cases there : tree.isDirectory (start root ++ (above ++ [name])) with
  | true =>
    have node : tree.node (CleanPath.text ⟨root, above ++ [name]⟩) = .directory := by
      rw [node_text acceptable.clean acceptable.checked, followed]
      simp only [clear, there, if_true]
    refine ⟨tree, ?_, reaches_of_passable passable fun other => ?_⟩
    · rw [ensureLast, made]
      simp only [bind, Except.bind, there, Bool.or_true, if_true, node]
    · constructor
      · exact .inl
      · rintro (isDirectory | rfl)
        · exact isDirectory
        · exact there
  | false =>
    refine ⟨{ tree with directories := tree.directories ++ [start root ++ (above ++ [name])] }, ?_,
      reaches_of_passable passable fun other => ?_⟩
    · rw [ensureLast, made]
      simp only [bind, Except.bind, there, clear, Option.isSome_none, Bool.or_self, Bool.false_eq_true,
        if_false]
      rfl
    · simp only [isDirectory, Bool.or_eq_true, List.contains_iff_mem, List.mem_append, List.mem_singleton]
      tauto

theorem ensureLast_of_not_passable (acceptable : CleanPath.Acceptable ⟨root, above ++ [name]⟩)
    (blocked : ¬ tree.Passable (start root) (above ++ [name]))
    (clear : ∀ other, other <+: above ++ [name] → tree.content? (start root ++ other) = none) :
    tree.ensureLast ⟨root, above ++ [name]⟩ = .error .missing := by
  have followed :=
    follow_of_not_passable acceptable.names (fun other isOther _ => clear other isOther) blocked
  have isName : Path.IsName name := (acceptable.names name (by simp)).1
  have made : tree.makeDirectory ⟨root, above ++ [name]⟩ = .error .missing := by
    rw [makeDirectory_eq rfl isName, acceptable.checked, followed]
    rfl
  have node : tree.node (CleanPath.text ⟨root, above ++ [name]⟩) = .missing := by
    rw [node_text acceptable.clean acceptable.checked, followed]
  rw [ensureLast, made]
  simp [node]

theorem ensureLast_root (acceptable : CleanPath.Acceptable ⟨root, []⟩)
    (clear : tree.content? (start root) = none) : tree.ensureLast { root } = .ok tree := by
  have made : tree.makeDirectory { root } = .error .taken := by
    rw [makeDirectory, acceptable.checked]
    simp [bind, Except.bind, follow, enter_of_isDirectory (isDirectory_start tree root)]
  have node : tree.node (CleanPath.text ⟨root, []⟩) = .directory := by
    rw [node_text acceptable.clean acceptable.checked]
    simp [follow, clear, isDirectory_start]
  rw [ensureLast, made]
  simp [node]

end EnsureLast

/-- If nothing on the way is a file, all directories of a path can be made, and no others are. -/
theorem ensureReversed_of_clear {root : String} (reversed : List String)
    (acceptable : CleanPath.Acceptable ⟨root, reversed.reverse⟩)
    (clear : ∀ above, above <+: reversed.reverse → tree.content? (start root ++ above) = none) :
    ∃ after, tree.ensureReversed root reversed = (after, none) ∧
      tree.Reaches after (start root) reversed.reverse := by
  induction reversed with
  | nil =>
    have nothing : tree.content? (start root) = none := by
      simpa using clear [] List.nil_prefix
    refine ⟨tree, by rw [ensureReversed, ensureLast_root acceptable nothing], fun other => ?_⟩
    constructor
    · exact .inl
    · rintro (isDirectory | ⟨above, isAbove, rfl⟩)
      · exact isDirectory
      · rw [List.prefix_nil.mp isAbove, List.append_nil]
        exact isDirectory_start tree root
  | cons name above ih =>
    rw [ensureReversed]
    rw [List.reverse_cons] at acceptable clear ⊢
    by_cases passable : tree.Passable (start root) (above.reverse ++ [name])
    · obtain ⟨after, ensured, reaches⟩ :=
        ensureLast_of_passable acceptable passable (clear _ List.prefix_rfl)
      exact ⟨after, by simp [ensured], reaches⟩
    · have missing := ensureLast_of_not_passable acceptable passable clear
      obtain ⟨middle, made, reachesMiddle⟩ := ih acceptable.of_append fun start isStart =>
        clear start (isStart.trans (List.prefix_append _ _))
      -- Making the directories above touched no file, so the last one can be made now.
      have files : middle.files = tree.files := by
        simpa [made] using ensureReversed_files tree root above
      have clearNow : middle.content? (start root ++ (above.reverse ++ [name])) = none := by
        rw [content?, files]
        exact clear _ List.prefix_rfl
      have passableNow : middle.Passable (start root) (above.reverse ++ [name]) :=
        passable_concat_iff.mpr fun start isStart => (reachesMiddle _).mpr (.inr ⟨start, isStart, rfl⟩)
      obtain ⟨after, ensured, reaches⟩ := ensureLast_of_passable acceptable passableNow clearNow
      refine ⟨after, by simp [missing, made, ensured], fun other => ?_⟩
      rw [reaches, reachesMiddle]
      constructor
      · rintro ((isDirectory | ⟨start, isStart, rfl⟩) | further)
        · exact .inl isDirectory
        · exact .inr ⟨start, isStart.trans (List.prefix_append _ _), rfl⟩
        · exact .inr further
      · rintro (isDirectory | further)
        · exact .inl (.inl isDirectory)
        · exact .inr further

/-! ### Writes that succeed -/

/-- Whether nothing is in the way of a file at a path. -/
structure Admits (tree : FileTree) (path : CleanPath) : Prop where
  acceptable : path.Acceptable
  nonempty : path.parts ≠ []
  clear : ∀ place, place <+: path.place → place ≠ path.place → tree.content? place = none
  free : tree.isDirectory path.place = false

theorem isDirectory_replaced {place other : Place} {content : Wire.Bytes}
    (isDirectory : FileTree.isDirectory { tree with
      files := tree.files.filter (fun entry => entry.1 != place) ++ [(place, content)] } other = true) :
    tree.isDirectory other = true ∨ other <+: place ∧ other ≠ place := by
  simp only [FileTree.isDirectory, List.any_append, Bool.or_eq_true] at isDirectory ⊢
  rcases isDirectory with (given | made) | byEntry | byNew
  · exact .inl (.inl (.inl given))
  · exact .inl (.inl (.inr made))
  · obtain ⟨entry, kept, above⟩ := List.any_eq_true.mp byEntry
    exact .inl (.inr (List.any_eq_true.mpr ⟨entry, List.mem_of_mem_filter kept, above⟩))
  · exact .inr (by simpa using byNew)

/-- A directory on the way to a file is shorter than the way. -/
theorem isPrefix_and_ne_of_isPrefix {above start : List String} (isStart : start <+: above) (place : Place)
    (name : String) :
    place ++ start <+: place ++ (above ++ [name]) ∧ place ++ start ≠ place ++ (above ++ [name]) := by
  refine ⟨(List.prefix_append_right_inj _).mpr (isStart.trans (List.prefix_append _ _)), ?_⟩
  intro whole
  have longer := isStart.length_le
  rw [List.append_cancel_left whole, List.length_append, List.length_singleton] at longer
  omega

section Admitted

variable {root : String} {above : List String} {name : String}

/-- The directories on the way to an admitted path can be made. -/
theorem Admits.ensureDirectory (admits : tree.Admits ⟨root, above ++ [name]⟩) :
    ∃ middle, tree.ensureDirectory ⟨root, above⟩ = (middle, none) ∧
      tree.Reaches middle (start root) above := by
  have acceptable : CleanPath.Acceptable ⟨root, above.reverse.reverse⟩ := by
    rw [List.reverse_reverse]
    exact admits.acceptable.of_append
  have clear : ∀ other, other <+: above.reverse.reverse → tree.content? (start root ++ other) = none := by
    intro other isOther
    rw [List.reverse_reverse] at isOther
    have onTheWay := isPrefix_and_ne_of_isPrefix isOther (start root) name
    rw [← show CleanPath.place ⟨root, above ++ [name]⟩ = _ from admits.acceptable.place_eq] at onTheWay
    exact admits.clear _ onTheWay.1 onTheWay.2
  obtain ⟨middle, made, reaches⟩ := ensureReversed_of_clear above.reverse acceptable clear
  rw [List.reverse_reverse] at reaches
  exact ⟨middle, made, reaches⟩

/-- Once its directories are there, the file of an admitted path can be written. -/
theorem Admits.writeFile (admits : tree.Admits ⟨root, above ++ [name]⟩)
    (reaches : tree.Reaches after (start root) above) (content : Wire.Bytes) :
    after.writeFile ⟨root, above ++ [name]⟩ content = .ok {
      after with files :=
        after.files.filter (fun entry => entry.1 != start root ++ (above ++ [name])) ++
          [(start root ++ (above ++ [name]), content)] } := by
  have place : CleanPath.place ⟨root, above ++ [name]⟩ = start root ++ (above ++ [name]) :=
    admits.acceptable.place_eq
  have passable : after.Passable (start root) (above ++ [name]) :=
    passable_concat_iff.mpr fun other isOther => (reaches _).mpr (.inr ⟨other, isOther, rfl⟩)
  -- The directories that were added end above the file, so none of them is in its place.
  have free : after.isDirectory (start root ++ (above ++ [name])) = false := by
    rw [Bool.eq_false_iff]
    intro isDirectory
    rcases (reaches _).mp isDirectory with before | ⟨other, isOther, whole⟩
    · rw [← place, admits.free] at before
      cases before
    · exact (isPrefix_and_ne_of_isPrefix isOther (start root) name).2 whole.symm
  rw [writeFile_eq rfl, admits.acceptable.checked, follow_of_passable admits.acceptable.names passable]
  simp only [bind, Except.bind, free, Bool.false_eq_true, if_false]
  rfl

end Admitted

/-- A file with nothing in its way is written, and new directories lie on the way to it. -/
theorem write_of_admits {file : Write} (admits : tree.Admits (CleanPath.ofText file.path)) :
    ∃ after, tree.write file = (after, none) ∧ ∀ other, after.isDirectory other = true →
      tree.isDirectory other = true ∨ other <+: file.place ∧ other ≠ file.place := by
  have place : file.place =
      start (CleanPath.ofText file.path).root ++ (CleanPath.ofText file.path).parts := by
    rw [Write.place, locate_eq_place, admits.acceptable.place_eq]
  rw [write, place]
  generalize CleanPath.ofText file.path = path at admits
  obtain ⟨root, parts⟩ := path
  obtain ⟨above, name, rfl⟩ : ∃ above name, parts = above ++ [name] := by
    rcases List.eq_nil_or_concat parts with empty | ⟨above, name, split⟩
    · exact absurd empty admits.nonempty
    · exact ⟨above, name, by rw [split, List.concat_eq_append]⟩
  obtain ⟨middle, made, reaches⟩ := admits.ensureDirectory
  rw [CleanPath.parent, List.dropLast_concat]
  simp only [made, admits.writeFile reaches]
  refine ⟨_, rfl, fun other isDirectory => ?_⟩
  rcases isDirectory_replaced isDirectory with before | isAbove
  · rcases (reaches other).mp before with isOld | ⟨start, isStart, rfl⟩
    · exact .inl isOld
    · exact .inr (isPrefix_and_ne_of_isPrefix isStart _ name)
  · exact .inr isAbove

/-- After a write nothing is in the way of another file if nothing was before, unless one of the two places is
on the way to the other. -/
theorem Admits.after_write {file other : Write} (admits : tree.Admits (CleanPath.ofText other.path))
    (isAdmitted : tree.Admits (CleanPath.ofText file.path)) (ordinary : file.place ≠ nullDevice)
    (notAbove : file.place <+: other.place → file.place = other.place)
    (notBelow : other.place <+: file.place → other.place = file.place)
    (done : tree.write file = (after, none)) : after.Admits (CleanPath.ofText other.path) := by
  obtain ⟨again, doneAgain, directories⟩ := write_of_admits isAdmitted
  cases done.symm.trans doneAgain
  have contents : ∀ place, after.content? place =
      if file.place = place then some (Wire.encodeText file.text) else tree.content? place := by
    rcases write_cases tree file with ⟨_, _, failed, _⟩ | ⟨_, same, files⟩
    · cases done.symm.trans failed
    · cases done.symm.trans same
      exact content?_of_files_eq files ordinary
  obtain ⟨acceptable, nonempty, clear, free⟩ := admits
  rw [← locate_eq_place] at clear free
  refine ⟨acceptable, nonempty, ?_, ?_⟩
  · rw [← locate_eq_place]
    intro place isAbove proper
    -- The new file is not on the way, so this place has what it had.
    rw [contents, if_neg]
    · exact clear place isAbove proper
    · rintro rfl
      exact proper (notAbove isAbove)
  · rw [← locate_eq_place, Bool.eq_false_iff]
    intro isDirectory
    rcases directories _ isDirectory with before | ⟨isAbove, proper⟩
    · rw [free] at before
      cases before
    · exact proper (notBelow isAbove)

/-- If all files of a series have nothing in their way, and none of their places is on the way to another,
then all of them are written. -/
theorem fault_eq_none_of_admits {writes : List Write}
    (admits : ∀ file ∈ writes, tree.Admits (CleanPath.ofText file.path))
    (ordinary : ∀ file ∈ writes, file.place ≠ nullDevice)
    (apart : ∀ file ∈ writes, ∀ other ∈ writes, file.place <+: other.place → file.place = other.place) :
    (tree.writeAll writes).fault = none := by
  induction writes generalizing tree with
  | nil => rfl
  | cons file others ih =>
    have isFirst : file ∈ file :: others := List.mem_cons_self
    have isLater : ∀ other ∈ others, other ∈ file :: others := fun _ => List.mem_cons_of_mem file
    obtain ⟨after, done, _⟩ := write_of_admits (admits file isFirst)
    rw [writeAll, done]
    -- No place leads through another, so what was admitted stays so after the first write.
    apply ih
    · intro other member
      have inSeries := isLater other member
      exact (admits other inSeries).after_write (admits file isFirst) (ordinary file isFirst)
        (apart file isFirst other inSeries) (apart other inSeries file isFirst) done
    · exact fun other member => ordinary other (isLater other member)
    · exact fun other member third isThird =>
        apart other (isLater other member) third (isLater third isThird)

end FileTree

end Typewire.Console
