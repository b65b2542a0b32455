import Mathlib.Data.List.TakeWhile
import Typewire.Proofs.Places

/-!
# Where module specifiers lead

An output imports another one by the way from its own directory: up to the last directory that both have
around them, and down from there. Followed from the importing directory, such a specifier ends at the other
output without its extension.

The way down is empty when the importing file lies in or below a directory that has the name of the imported
module. The specifier then consists of dots, and a loader takes it for a directory.

## Main results

- `importPath?_eq_resolved`: which working directory the paths start from makes no difference to paths that
  stay inside it.
- `specifier_leads_to_output`: directory and specifier, joined and normalised, name the imported output.
- `specifier_ends_in_module_iff`: exactly when the specifier ends in the name of the module.
-/
namespace Typewire.Path

open Console (CleanPath)

/-- A path that names every component on its way: it is relative and has no empty component, `.` or `..`. -/
def LeadsDown (path : String) : Prop :=
  ∀ part ∈ components path, IsName part

instance (path : String) : Decidable (LeadsDown path) :=
  List.decidableBAll _ _

def lastComponent (path : String) : String :=
  (components path).getLastD ""

/-- The output of a schema file as it is imported, without an extension. -/
def modulePath (fileName : String) : String :=
  replaceExtension fileName ""

/-- The base name of the module that a schema file becomes. -/
def moduleName (fileName : String) : String :=
  lastComponent (modulePath fileName)

/-- The text of a path without detours. -/
def normalText (path : String) : String :=
  CleanPath.text { root := CleanPath.rootOf path, parts := normalize path }

/-- A file lies in a directory or somewhere below it. -/
def LiesWithin (fileName directory : String) : Prop :=
  components directory <+: (components fileName).dropLast

instance (fileName directory : String) : Decidable (LiesWithin fileName directory) :=
  inferInstanceAs (Decidable (_ <+: _))

/-! ### Directories -/

/-- The directory of a path is written with the slash that ends it. -/
theorem directory_cases (path : String) :
    ('/' ∉ path.toList ∧ directory path = "") ∨
      ∃ above last, '/' ∉ last.toList ∧ path = above ++ "/" ++ last ∧ directory path = above ++ "/" := by
  by_cases occurs : '/' ∈ path.toList
  · -- Read from the end, the text runs up to its last slash without another one.
    obtain ⟨before, after, split, slashFree⟩ := List.eq_append_cons_of_mem (List.mem_reverse.mpr occurs)
    have found : path.toList.reverse.dropWhile (· != '/') = '/' :: after := by
      have passed : ∀ c ∈ before, (c != '/') = true := by
        intro c member
        simpa using ne_of_mem_of_not_mem member slashFree
      rw [split, List.dropWhile_append_of_pos passed]
      simp
    refine .inr ⟨String.ofList after.reverse, String.ofList before.reverse, by simpa using slashFree, ?_, ?_⟩
    · apply String.toList_inj.mp
      simpa using congrArg List.reverse split
    · apply String.toList_inj.mp
      simp [directory, found]
  · have passed : ∀ c ∈ path.toList.reverse, (c != '/') = true := by
      intro c member
      simpa using ne_of_mem_of_not_mem (List.mem_reverse.mp member) occurs
    refine .inl ⟨occurs, ?_⟩
    rw [directory, List.dropWhile_eq_nil_iff.mpr passed]
    rfl

/-- What is put behind a directory takes the place of the last component. -/
theorem components_directory_append (path other : String) :
    components (directory path ++ other) = (components path).dropLast ++ components other := by
  rcases directory_cases path with ⟨slashFree, isEmpty⟩ | ⟨above, last, slashFree, rfl, isAbove⟩
  · have single : components path = [path] := by
      simp [components, Text.splitAtChar, List.splitOn_eq_singleton slashFree]
    rw [isEmpty, single, String.empty_append]
    rfl
  · have single : components last = [last] := by
      simp [components, Text.splitAtChar, List.splitOn_eq_singleton slashFree]
    have split : components (above ++ "/" ++ last) = components above ++ components last :=
      Text.splitAtChar_append rfl above last
    rw [isAbove, split, single, List.dropLast_concat]
    exact Text.splitAtChar_append rfl above other

theorem directory_append {suffix : String} (slashFree : '/' ∉ suffix.toList) (path : String) :
    directory (path ++ suffix) = directory path := by
  have passed : ∀ c ∈ suffix.toList.reverse, (c != '/') = true := by
    intro c member
    simpa using ne_of_mem_of_not_mem (List.mem_reverse.mp member) slashFree
  rw [directory, String.toList_append, List.reverse_append, List.dropWhile_append_of_pos passed, directory]

/-! ### Extensions -/

theorem stem?_eq_some {fileName stem : String} (found : stem? fileName = some stem) :
    ∃ extension, '/' ∉ extension.toList ∧ fileName = stem ++ extension := by
  obtain ⟨chars, isStem, rfl⟩ := Option.map_eq_some_iff.mp found
  have whole := List.takeWhile_append_dropWhile (p := isExtensionChar) (l := fileName.toList.reverse)
  have slashFree : '/' ∉ fileName.toList.reverse.takeWhile isExtensionChar := fun member => by
    simpa [isExtensionChar] using List.mem_takeWhile_imp member
  rw [stemOfReversed] at isStem
  split at isStem
  next first others stem isExtension isRest =>
    obtain rfl := Option.some.inj isStem
    rw [isExtension] at slashFree whole
    rw [isRest] at whole
    refine ⟨String.ofList ('.' :: (first :: others).reverse), by simpa [and_comm] using slashFree, ?_⟩
    apply String.toList_inj.mp
    simpa using (congrArg List.reverse whole).symm
  next => cases isStem

/-- A file name is the path of its module with an extension behind it, if it has one. -/
theorem exists_extension (fileName : String) :
    ∃ extension, '/' ∉ extension.toList ∧ fileName = modulePath fileName ++ extension := by
  rw [modulePath, replaceExtension]
  split
  next stem found =>
    obtain ⟨extension, slashFree, split⟩ := stem?_eq_some found
    exact ⟨extension, slashFree, by rwa [String.append_empty]⟩
  next => exact ⟨"", by simp, by simp⟩

theorem outputName_eq (fileName : String) : outputName fileName = modulePath fileName ++ outputExtension := by
  rw [outputName, modulePath, replaceExtension]
  cases stem? fileName with
  | none => rfl
  | some stem => simp

theorem directory_outputName (fileName : String) :
    directory (outputName fileName) = directory fileName := by
  obtain ⟨extension, slashFree, split⟩ := exists_extension fileName
  rw [outputName_eq, directory_append (by decide)]
  conv_rhs => rw [split, directory_append slashFree]

/-- The directories above a module are those of its file. -/
theorem LeadsDown.modulePath {fileName : String} (down : LeadsDown fileName)
    (isModule : IsName (moduleName fileName)) : LeadsDown (modulePath fileName) := by
  obtain ⟨extension, slashFree, split⟩ := exists_extension fileName
  obtain ⟨above, last, isPath, isFile⟩ := components_append slashFree (Path.modulePath fileName)
  rw [← split] at isFile
  rw [moduleName, lastComponent, isPath, List.getLastD_concat] at isModule
  intro part member
  rw [isPath] at member
  rcases List.mem_append.mp member with isAbove | isLast
  · apply down
    rw [isFile]
    exact List.mem_append_left _ isAbove
  · rwa [List.mem_singleton.mp isLast]

/-! ### Ways between directories -/

/-- What was dropped stands at the start of both. -/
theorem dropCommon_split (start target : List String) :
    ∃ common, start = common ++ (dropCommon start target).1 ∧
      target = common ++ (dropCommon start target).2 := by
  fun_induction dropCommon start target with
  | case1 starts same targets ih =>
    obtain ⟨common, isStart, isTarget⟩ := ih
    exact ⟨same :: common, congrArg (same :: ·) isStart, congrArg (same :: ·) isTarget⟩
  | case2 => exact ⟨[], rfl, rfl⟩
  | case3 => exact ⟨[], rfl, rfl⟩

/-- No way leads down exactly if the target is on the way to the start. -/
theorem dropCommon_snd_eq_nil_iff {start target : List String} :
    (dropCommon start target).2 = [] ↔ target <+: start := by
  fun_induction dropCommon start target with
  | case1 starts same targets ih => rw [ih, List.cons_prefix_cons, and_iff_right rfl]
  | case2 first starts second targets differ => simp [List.cons_prefix_cons, Ne.symm differ]
  | case3 start target noCons =>
    cases target with
    | nil => simp
    | cons second targets =>
      cases start with
      | nil => simp
      | cons first starts => exact (noCons first starts second targets rfl rfl).elim

/-- The way between two places goes up from the one and down to the other, from where they part. It does not
go down if the target is on the way to the start. -/
theorem relative_split (target start : List String) : ∃ common up down,
    start = common ++ up ∧ target = common ++ down ∧
      relative target start = List.replicate up.length ".." ++ down ∧ (down = [] ↔ target <+: start) := by
  obtain ⟨common, isStart, isTarget⟩ := dropCommon_split start target
  refine ⟨common, _, _, isStart, isTarget, ?_, dropCommon_snd_eq_nil_iff⟩
  rw [← List.map_const']
  rfl

/-- As many steps up as names were passed lead back. -/
theorem foldl_step_up {names : List String} (areNames : ∀ name ∈ names, IsName name) (absolute : Bool)
    (passed : List String) :
    (List.replicate names.length "..").foldl (step absolute) (names ++ passed) = passed := by
  induction names with
  | nil => rfl
  | cons name names ih =>
    have notUp : name ≠ ".." := (areNames name List.mem_cons_self).2.2
    rw [List.length_cons, List.replicate_succ, List.foldl_cons, List.cons_append, step_up_cons,
      if_neg notUp]
    exact ih fun other member => areNames other (List.mem_cons_of_mem _ member)

/-- The way from a directory to a target ends at the target. -/
theorem foldl_step_relative {start target : List String} (startNames : ∀ part ∈ start, IsName part)
    (targetNames : ∀ part ∈ target, IsName part) :
    (relative target start).foldl (step false) start.reverse = target.reverse := by
  obtain ⟨common, up, down, rfl, rfl, isWay, _⟩ := relative_split target start
  have upNames : ∀ part ∈ up.reverse, IsName part := fun part member =>
    startNames part (List.mem_append_right _ (List.mem_reverse.mp member))
  have downNames : ∀ part ∈ down, IsName part := fun part member =>
    targetNames part (List.mem_append_right _ member)
  have back := foldl_step_up upNames false common.reverse
  rw [List.length_reverse] at back
  rw [isWay, List.foldl_append, List.reverse_append, back, foldl_step_of_forall_isName downNames,
    List.reverse_append]

/-! ### Working directories -/

/-- The components of the file that a path names, given those of the working directory. -/
def resolve (working : List String) (path : String) : List String :=
  ((components path).foldl (step true) (if isAbsolute path then [] else working.reverse)).reverse

/-- The specifier between the files that two paths name from a working directory. -/
def resolvedSpecifier? (working : List String) (fromFile toFile : String) : Option String :=
  if modulePath toFile = "" then none
  else
    some (specifierOf
      (relative (resolve working (modulePath toFile)) (resolve working (directory fromFile))))

/-- A relative path that never climbs above its start. -/
def NeverClimbs (path : String) : Prop :=
  isAbsolute path = false ∧ ".." ∉ normalize path

instance (path : String) : Decidable (NeverClimbs path) :=
  inferInstanceAs (Decidable (_ ∧ _))

/-- A path that never climbs names a file below the working directory. -/
theorem resolve_of_neverClimbs (working : List String) {path : String} (inside : NeverClimbs path) :
    resolve working path = working ++ normalize path := by
  obtain ⟨isRelative, stays⟩ := inside
  rw [normalize, isRelative, List.mem_reverse] at stays
  rw [resolve, normalize, isRelative, if_neg Bool.false_ne_true, foldl_step_of_not_mem stays]
  simp

/-- An absolute path names the same file from everywhere. -/
theorem resolve_of_isAbsolute (working : List String) {path : String} (absolute : isAbsolute path = true) :
    resolve working path = normalize path := by
  rw [resolve, normalize, absolute, if_pos rfl]

/-- Below a common directory the way between two places does not depend on that directory. -/
theorem relative_append_left (common target start : List String) :
    relative (common ++ target) (common ++ start) = relative target start := by
  have dropped : dropCommon (common ++ start) (common ++ target) = dropCommon start target := by
    induction common with
    | nil => rfl
    | cons part common ih => rw [List.cons_append, List.cons_append, dropCommon, if_pos rfl, ih]
  rw [relative, relative, dropped]

variable {fromFile toFile : String}

/-- The specifier between two paths that stay inside the working directory, or between two absolute paths, is
the one between the files they name, whatever the working directory is. -/
theorem importPath?_eq_resolved (working : List String)
    (alike : (NeverClimbs (modulePath toFile) ∧ NeverClimbs (directory fromFile)) ∨
      (isAbsolute (modulePath toFile) = true ∧ isAbsolute (directory fromFile) = true)) :
    importPath? fromFile toFile = resolvedSpecifier? working fromFile toFile := by
  have sameWay : relative (resolve working (modulePath toFile)) (resolve working (directory fromFile)) =
      relative (normalize (modulePath toFile)) (normalize (directory fromFile)) := by
    rcases alike with ⟨toInside, fromInside⟩ | ⟨toAbsolute, fromAbsolute⟩
    · rw [resolve_of_neverClimbs working toInside, resolve_of_neverClimbs working fromInside,
        relative_append_left]
    · rw [resolve_of_isAbsolute working toAbsolute, resolve_of_isAbsolute working fromAbsolute]
  rw [resolvedSpecifier?, sameWay]
  rfl

/-- Above the working directory the names of the directories count. -/
example :
    ¬ NeverClimbs (directory "../cove/tide.proto") ∧
    importPath? "../cove/tide.proto" "surf.proto" = some "./../../surf" ∧
    resolvedSpecifier? ["sea", "bay"] "../cove/tide.proto" "surf.proto" = some "./../bay/surf" := by
  decide +kernel

/-! ### Specifiers -/

theorem normalize_directory (down : LeadsDown fromFile) :
    normalize (directory fromFile) = (components fromFile).dropLast := by
  have split := components_directory_append fromFile ""
  have names : ∀ part ∈ (components fromFile).dropLast, IsName part := fun part member =>
    down part (List.dropLast_subset _ member)
  have empty : components "" = [""] := by decide
  rw [String.append_empty, empty] at split
  rw [normalize, split, List.foldl_append, foldl_step_of_forall_isName names]
  simp [step]

/-- The components of the way to another module; a way that goes nowhere is a single dot. -/
def specifierParts (fromFile toFile : String) : List String :=
  let way := relative (components (modulePath toFile)) (components fromFile).dropLast
  if way = [] then ["."] else way

/-- No part of the way between two paths holds a slash. -/
theorem slashFree_of_mem_relative {part : String}
    (member : part ∈ relative (components (modulePath toFile)) (components fromFile).dropLast) :
    '/' ∉ part.toList := by
  obtain ⟨common, up, down, _, isTarget, isWay, _⟩ :=
    relative_split (components (modulePath toFile)) (components fromFile).dropLast
  rw [isWay] at member
  rcases List.mem_append.mp member with isUp | isDown
  · rw [List.eq_of_mem_replicate isUp]
    decide
  · have isComponent : part ∈ components (modulePath toFile) := by
      rw [isTarget]
      exact List.mem_append_right _ isDown
    exact Text.not_mem_of_mem_splitAtChar isComponent

theorem components_dot_append (path : String) : components ("./" ++ path) = "." :: components path := by
  have split : components ("." ++ "/" ++ path) = components "." ++ components path :=
    Text.splitAtChar_append rfl "." path
  have single : components "." = ["."] := by decide
  have dotSlash : "./" = "." ++ "/" := by decide
  rw [dotSlash, split, single]
  rfl

/-- A specifier starts with a dot and goes on with the way. -/
theorem components_specifierOf {way : List String} (slashFree : ∀ part ∈ way, '/' ∉ part.toList) :
    components (specifierOf way) = "." :: if way = [] then ["."] else way := by
  cases way with
  | nil => decide
  | cons part others =>
    rw [if_neg (List.cons_ne_nil _ _), specifierOf, components_dot_append,
      components_intercalate (List.cons_ne_nil _ _) slashFree]
    exact List.cons_ne_nil _ _

/-- There is a specifier, and it consists of a dot and the way to the module. -/
theorem exists_specifier (fromDown : LeadsDown fromFile) (toDown : LeadsDown (modulePath toFile)) :
    ∃ specifier, importPath? fromFile toFile = some specifier ∧
      components specifier = "." :: specifierParts fromFile toFile := by
  have notEmpty : replaceExtension toFile "" ≠ "" := by
    intro isEmpty
    have member : "" ∈ components (modulePath toFile) := by
      rw [modulePath, isEmpty]
      decide
    exact (toDown "" member).1 rfl
  have isTarget : normalize (replaceExtension toFile "") = components (modulePath toFile) :=
    normalize_of_forall_isName toDown
  rw [importPath?, if_neg notEmpty, isTarget, normalize_directory fromDown]
  exact ⟨_, rfl, components_specifierOf fun part => slashFree_of_mem_relative⟩

/-- Followed from the importing directory, the way ends at the module. -/
theorem normalize_specifier (fromDown : LeadsDown fromFile) (toDown : LeadsDown (modulePath toFile))
    {specifier : String} (parts : components specifier = "." :: specifierParts fromFile toFile) :
    normalize (directory fromFile ++ specifier) = components (modulePath toFile) ∧
      isAbsolute (directory fromFile ++ specifier) = false := by
  have names : ∀ part ∈ (components fromFile).dropLast, IsName part := fun part member =>
    fromDown part (List.dropLast_subset _ member)
  have split := components_directory_append fromFile specifier
  rw [parts] at split
  have relativePath : isAbsolute (directory fromFile ++ specifier) = false := by
    by_contra absolute
    obtain ⟨others, start⟩ := components_of_isAbsolute (by simpa using absolute)
    rw [split] at start
    -- The first component is a name, or the dot in front of the way.
    cases above : (components fromFile).dropLast with
    | nil => simp [above] at start
    | cons first rest =>
      rw [above] at names start
      exact (names first List.mem_cons_self).1 (List.cons.inj start).1
  refine ⟨?_, relativePath⟩
  -- Neither the dot in front nor one that stands for the whole way counts.
  have followed : (specifierParts fromFile toFile).foldl (step false) (components fromFile).dropLast.reverse =
      (components (modulePath toFile)).reverse := by
    rw [← foldl_step_relative names toDown, specifierParts]
    split
    next stays => rw [stays]; simp [step]
    next => rfl
  rw [normalize, relativePath, split, List.foldl_append, foldl_step_of_forall_isName names, List.append_nil,
    List.foldl_cons, step_of_ignored (.inr rfl), followed, List.reverse_reverse]

/-- Directory and specifier, joined and without detours, are the path of the module. -/
theorem normalText_specifier (fromDown : LeadsDown fromFile) (toDown : LeadsDown (modulePath toFile))
    {specifier : String} (parts : components specifier = "." :: specifierParts fromFile toFile) :
    normalText (directory fromFile ++ specifier) = modulePath toFile := by
  obtain ⟨ends, relativePath⟩ := normalize_specifier fromDown toDown parts
  have nonempty : components (modulePath toFile) ≠ [] := by
    simp [components, Text.splitAtChar]
  have whole : "/".intercalate (components (modulePath toFile)) = modulePath toFile :=
    Text.intercalate_splitAtChar rfl (modulePath toFile)
  rw [normalText, CleanPath.rootOf_eq_empty_iff.mpr relativePath, ends]
  simpa [CleanPath.text, nonempty] using whole

/-- The output of a file lies beside the file, and from there the specifier of another output leads to it. -/
theorem specifier_leads_to_output (fromDown : LeadsDown fromFile) (toDown : LeadsDown toFile)
    (isModule : IsName (moduleName toFile)) :
    directory (outputName fromFile) = directory fromFile ∧
    ∃ specifier, importPath? fromFile toFile = some specifier ∧
      normalText (directory fromFile ++ specifier) ++ outputExtension = outputName toFile := by
  obtain ⟨specifier, isSpecifier, parts⟩ := exists_specifier fromDown (toDown.modulePath isModule)
  refine ⟨directory_outputName fromFile, specifier, isSpecifier, ?_⟩
  rw [normalText_specifier fromDown (toDown.modulePath isModule) parts, outputName_eq]

/-- Two directories that part below a common one, and a name with several dots. -/
theorem specifier_leads_to_output_across_the_bay :
    LeadsDown "sea/north/tide.proto" ∧ LeadsDown "sea/bay.v1/surf.v1.proto" ∧
    IsName (moduleName "sea/bay.v1/surf.v1.proto") ∧
    importPath? "sea/north/tide.proto" "sea/bay.v1/surf.v1.proto" = some "./../bay.v1/surf.v1" ∧
    directory (outputName "sea/north/tide.proto") = directory "sea/north/tide.proto" ∧
    ∃ specifier, importPath? "sea/north/tide.proto" "sea/bay.v1/surf.v1.proto" = some specifier ∧
      normalText (directory "sea/north/tide.proto" ++ specifier) ++ outputExtension =
        outputName "sea/bay.v1/surf.v1.proto" := by
  have fromDown : LeadsDown "sea/north/tide.proto" := by decide +kernel
  have toDown : LeadsDown "sea/bay.v1/surf.v1.proto" := by decide +kernel
  have isModule : IsName (moduleName "sea/bay.v1/surf.v1.proto") := by decide +kernel
  exact ⟨fromDown, toDown, isModule, by decide +kernel, specifier_leads_to_output fromDown toDown isModule⟩

/-! ### The end of a specifier -/

theorem lastComponent_specifier {specifier : String}
    (parts : components specifier = "." :: specifierParts fromFile toFile) :
    lastComponent specifier = (specifierParts fromFile toFile).getLastD "" := by
  have nonempty : specifierParts fromFile toFile ≠ [] := by
    rw [specifierParts]
    split
    next => simp
    next leaves => exact leaves
  rw [lastComponent, parts, List.getLastD_cons]
  simp [List.getLastD_eq_getLast?, List.getLast?_eq_some_getLast nonempty]

/-- The way to a module goes down to its name, unless the file lies within a directory of that name. -/
theorem getLastD_of_outside (outside : ¬ LiesWithin fromFile (modulePath toFile)) :
    (specifierParts fromFile toFile).getLastD "" = moduleName toFile := by
  obtain ⟨common, up, down, _, isTarget, isWay, blocked⟩ :=
    relative_split (components (modulePath toFile)) (components fromFile).dropLast
  -- The way goes down, so its last component is that of the module.
  rcases List.eq_nil_or_concat down with isEmpty | ⟨rest, last, isDown⟩
  · exact absurd (blocked.mp isEmpty) outside
  · rw [List.concat_eq_append] at isDown
    subst isDown
    rw [moduleName, lastComponent, isTarget, specifierParts, isWay, if_neg (by simp), ← List.append_assoc,
      ← List.append_assoc, List.getLastD_concat, List.getLastD_concat]

/-- From within a directory of its own name the way to a module goes up only, or nowhere. -/
theorem getLastD_of_liesWithin (within : LiesWithin fromFile (modulePath toFile)) :
    (specifierParts fromFile toFile).getLastD "" =
      if components (modulePath toFile) = (components fromFile).dropLast then "." else ".." := by
  obtain ⟨common, up, down, isStart, isTarget, isWay, blocked⟩ :=
    relative_split (components (modulePath toFile)) (components fromFile).dropLast
  obtain rfl := blocked.mpr within
  rw [List.append_nil] at isTarget isWay
  rw [specifierParts, isWay, isStart, isTarget]
  cases up with
  | nil => simp
  | cons first rest => simp [List.replicate_succ']

/-- A specifier ends in the name of the module unless the importing file lies in a directory of that name or
below it; then it ends in a dot or in two dots. -/
theorem specifier_ends_in_module_iff (fromDown : LeadsDown fromFile) (toDown : LeadsDown toFile)
    (isModule : IsName (moduleName toFile)) :
    ∃ specifier, importPath? fromFile toFile = some specifier ∧
      (lastComponent specifier = moduleName toFile ↔ ¬ LiesWithin fromFile (modulePath toFile)) ∧
      (LiesWithin fromFile (modulePath toFile) → lastComponent specifier =
        if components (modulePath toFile) = (components fromFile).dropLast then "." else "..") := by
  obtain ⟨specifier, isSpecifier, parts⟩ := exists_specifier fromDown (toDown.modulePath isModule)
  have isLast := lastComponent_specifier parts
  refine ⟨specifier, isSpecifier, ⟨fun same within => ?_, fun outside => ?_⟩, fun within => ?_⟩
  · rw [isLast, getLastD_of_liesWithin within] at same
    -- Neither of the two is a name.
    split at same
    · exact isModule.2.1 same.symm
    · exact isModule.2.2 same.symm
  · rw [isLast, getLastD_of_outside outside]
  · rw [isLast, getLastD_of_liesWithin within]

/-- From a directory beside it the module is imported by its name, from its own directory it is not. -/
theorem specifier_ends_in_module_iff_at_sea :
    LeadsDown "sea/deep/tide.proto" ∧ LeadsDown "sea.proto" ∧ IsName (moduleName "sea.proto") ∧
    LiesWithin "sea/deep/tide.proto" (modulePath "sea.proto") ∧
    (∃ specifier, importPath? "sea/deep/tide.proto" "sea.proto" = some specifier ∧
      (lastComponent specifier = moduleName "sea.proto" ↔
        ¬ LiesWithin "sea/deep/tide.proto" (modulePath "sea.proto")) ∧
      (LiesWithin "sea/deep/tide.proto" (modulePath "sea.proto") → lastComponent specifier =
        if components (modulePath "sea.proto") = (components "sea/deep/tide.proto").dropLast then "."
        else "..")) ∧
    ¬ LiesWithin "bay/tide.proto" (modulePath "sea.proto") ∧
    ∃ specifier, importPath? "bay/tide.proto" "sea.proto" = some specifier ∧
      (lastComponent specifier = moduleName "sea.proto" ↔
        ¬ LiesWithin "bay/tide.proto" (modulePath "sea.proto")) ∧
      (LiesWithin "bay/tide.proto" (modulePath "sea.proto") → lastComponent specifier =
        if components (modulePath "sea.proto") = (components "bay/tide.proto").dropLast then "."
        else "..") := by
  have deepDown : LeadsDown "sea/deep/tide.proto" := by decide +kernel
  have bayDown : LeadsDown "bay/tide.proto" := by decide +kernel
  have toDown : LeadsDown "sea.proto" := by decide +kernel
  have isModule : IsName (moduleName "sea.proto") := by decide +kernel
  exact ⟨deepDown, toDown, isModule, by decide +kernel, specifier_ends_in_module_iff deepDown toDown isModule,
    by decide +kernel, specifier_ends_in_module_iff bayDown toDown isModule⟩

/-- Below a directory of its own name a module is imported as a directory. -/
theorem specifier_denotes_directory_at_sea :
    LeadsDown "sea/tide.proto" ∧ LeadsDown "sea/deep/tide.proto" ∧ LeadsDown "sea.proto" ∧
    IsName (moduleName "sea.proto") ∧
    moduleName "sea.proto" = "sea" ∧
    importPath? "sea/tide.proto" "sea.proto" = some "./." ∧ lastComponent "./." = "." ∧
    importPath? "sea/deep/tide.proto" "sea.proto" = some "./.." ∧ lastComponent "./.." = ".." := by
  decide +kernel

end Typewire.Path
