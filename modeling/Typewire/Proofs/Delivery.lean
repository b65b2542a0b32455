import Typewire.Console.Run
import Typewire.Proofs.Independence
import Typewire.Proofs.Writes

/-!
# What a run leaves in the file system

Generated files are written one after the other, each at the place that its path leads to, over whatever is
there. A file that cannot be written ends the run, and those before it stay.

Two schema files may have the same output, and the output of a file may lie outside the directory that was
asked for. Neither happens for distinct names of the form that schema compilers give.

## Main result

`gen_delivers`: which contents a run leaves at which places, when all outputs are found, and when nothing
outside the directory changes.
-/
namespace Typewire.Console

open Schema (File)

/-! ### Places of output files -/

def outputPlace (directory fileName : String) : Place :=
  FileTree.locate (CleanPath.within directory (Path.outputName fileName)).text

/-- A place in a directory or further down. -/
def IsBelow (directory place : Place) : Prop :=
  ∃ names, names ≠ [] ∧ place = directory ++ names ∧ ".." ∉ names ∧ "/" ∉ names

/-- A name whose output stays in the directory that it is put in: it is relative, and goes no further up than
down. -/
def StaysInside (fileName : String) : Prop :=
  Path.isAbsolute (Path.outputName fileName) = false ∧ ".." ∉ Path.normalize (Path.outputName fileName)

theorem exists_partsOf_outputName (fileName : String) : ∃ above last,
    CleanPath.partsOf (Path.outputName fileName) = above ++ [last ++ Path.outputExtension] := by
  obtain ⟨above, last, split⟩ := Path.exists_components_outputName fileName
  have isName := Path.isName_append_extension last
  refine ⟨above.filter fun part => part ≠ "" && part ≠ ".", last, ?_⟩
  rw [CleanPath.partsOf, split, List.filter_append]
  simp [isName.1, isName.2.1]

theorem exists_parts_within (directory fileName : String) : ∃ above last,
    (CleanPath.within directory (Path.outputName fileName)).parts =
      above ++ [last ++ Path.outputExtension] := by
  obtain ⟨above, last, split⟩ := exists_partsOf_outputName fileName
  rw [CleanPath.within]
  split
  next =>
    refine ⟨above, last, ?_⟩
    rw [CleanPath.ofText, split]
  next => exact ⟨CleanPath.partsOf directory ++ above, last, by simp [split]⟩

/-- No output goes to the null device, since outputs have an extension. -/
theorem outputPlace_ne_nullDevice (directory fileName : String) :
    outputPlace directory fileName ≠ nullDevice := by
  obtain ⟨above, last, split⟩ := exists_parts_within directory fileName
  intro device
  rw [outputPlace, FileTree.locate_text (CleanPath.within_isClean _ _), CleanPath.place, split] at device
  simp only [List.foldl_append, List.foldl_cons, List.foldl_nil,
    Path.step_of_isName (Path.isName_append_extension last), Place.ofWalk_cons] at device
  -- The device has a name without the extension.
  have lastName := congrArg List.getLast? device
  rw [List.getLast?_concat] at lastName
  have lastChar := congrArg (fun name => name.bind fun text : String => text.toList.getLast?) lastName
  simp [nullDevice, Path.outputExtension] at lastChar

/-- An output that stays inside lies where its name says, seen from the directory. -/
theorem StaysInside.outputPlace_eq {fileName : String} (stays : StaysInside fileName) (directory : String) :
    outputPlace directory fileName =
      FileTree.locate directory ++ Path.normalize (Path.outputName fileName) :=
  FileTree.locate_within stays.1 stays.2

theorem StaysInside.isBelow {fileName : String} (stays : StaysInside fileName) (directory : String) :
    IsBelow (FileTree.locate directory) (outputPlace directory fileName) := by
  refine ⟨_, ?_, stays.outputPlace_eq directory, stays.2, ?_⟩
  · obtain ⟨above, last, split⟩ := Path.exists_components_outputName fileName
    rw [Path.normalize, split, List.foldl_append, List.foldl_cons,
      Path.step_of_isName (Path.isName_append_extension last)]
    simp
  · have slashFree : ∀ part ∈ Path.components (Path.outputName fileName), part ≠ "/" := by
      rintro part member rfl
      exact Text.not_mem_of_mem_splitAtChar member (by decide)
    rw [Path.normalize, List.mem_reverse]
    exact (Path.Walked.foldl slashFree (.start _)).slashFree

/-- The names that a schema compiler gives stay inside. -/
theorem staysInside_of_isCanonical {fileName : String} (canonical : Path.IsCanonical fileName) :
    StaysInside fileName := by
  have names := canonical.isName_outputName
  refine ⟨Path.isAbsolute_of_forall_isName names, ?_⟩
  rw [Path.normalize_of_forall_isName names]
  exact fun member => (names ".." member).2.2 rfl

/-- Two canonical names do not share an output. -/
theorem eq_of_outputPlace_eq {directory fileName other : String} (canonical : Path.IsCanonical fileName)
    (otherCanonical : Path.IsCanonical other)
    (same : outputPlace directory fileName = outputPlace directory other) : fileName = other := by
  rw [(staysInside_of_isCanonical canonical).outputPlace_eq,
    (staysInside_of_isCanonical otherCanonical).outputPlace_eq] at same
  exact canonical.outputName_injective otherCanonical (List.append_cancel_left same)

/-! ### Outcomes -/

namespace Outcome

theorem carryOut_fst (tree : FileTree) (outcome : Outcome) :
    (outcome.carryOut tree).1 = (tree.writeAll outcome.writes).tree := by
  rw [carryOut]
  split <;> rfl

/-- A run that was to succeed does so exactly if no write fails. -/
theorem carryOut_exitCode {outcome : Outcome} (planned : outcome.exitCode = 0) (tree : FileTree) :
    (outcome.carryOut tree).2.exitCode = 0 ↔ (tree.writeAll outcome.writes).fault = none := by
  rw [carryOut]
  split
  next isNone => simp [isNone, planned]
  next isSome => simp [isSome]

/-- A run that failed before anything was to be written. -/
def IsRefused (outcome : Outcome) : Prop :=
  outcome.exitCode ≠ 0 ∧ outcome.writes = []

theorem isRefused_ofError (error : Error) : (ofError error).IsRefused := by
  rw [ofError]
  split
  next => exact ⟨Nat.one_ne_zero, rfl⟩
  next => exact ⟨Nat.one_ne_zero, rfl⟩

/-- A refused run fails and leaves all files as they are. -/
theorem IsRefused.carryOut {outcome : Outcome} (refused : outcome.IsRefused) (tree : FileTree) :
    (outcome.carryOut tree).2.exitCode ≠ 0 ∧ (outcome.carryOut tree).1 = tree := by
  constructor
  · rw [Outcome.carryOut, refused.2]
    exact refused.1
  · rw [carryOut_fst, refused.2]
    rfl

end Outcome

def outputDirectory (scanned : Scanned) : String :=
  (scanned.value? .output).getD "."

/-- The schema files that a run of the command reads, and what it generates for each of them. -/
structure Generated (surroundings : Surroundings) (scanned : Scanned) (files : List File)
    (outputs : List GeneratedFile) : Prop where
  noRest : scanned.rest = []
  decoded : ∃ input content, scanned.value? .input = some input ∧ '\x00' ∉ input.toList ∧
    surroundings.node input = .file content ∧ Schema.decodeSet content = .ok files
  generated : ∃ version warnings,
    Version.parse ((scanned.value? .compilerVersion).getD "0.0.0") = .ok version ∧
    generate { files, parameter := (scanned.value? .parameter).getD "style=grpc-js",
               compilerVersion := version } = .ok (outputs, warnings)

section Runs

variable {surroundings : Surroundings} {scanned : Scanned} {files : List File} {outputs : List GeneratedFile}

/-- A run is refused, or it has generated outputs for the files of a set. -/
theorem generateOutcome_cases (directory parameter : String) (version : Version) (content : Wire.Bytes) :
    (generateOutcome directory parameter version content).IsRefused ∨
    ∃ files outputs warnings, Schema.decodeSet content = .ok files ∧
      generate { files, parameter, compilerVersion := version } = .ok (outputs, warnings) := by
  rw [generateOutcome]
  split
  next => exact .inl (Outcome.isRefused_ofError _)
  next outputs made =>
    obtain ⟨files, decoded, rest⟩ := except_bind_eq_ok made
    obtain ⟨⟨_, warnings⟩, generated, last⟩ := except_bind_eq_ok rest
    exact .inr ⟨files, _, warnings, decoded, generated⟩

/-- A run that generates nothing fails before anything is to be written. -/
theorem isRefused_of_not_generated (nothing : ∀ files outputs, ¬ Generated surroundings scanned files outputs)
    (path usage : String) : (reporting path usage (runGen surroundings scanned)).IsRefused := by
  have refused : ∀ fault, (reporting path usage (.error fault)).IsRefused :=
    fun _ => ⟨by simp [reporting, Outcome.failed], rfl⟩
  -- The checks in order, each of them before anything is written; past the last one the run has generated.
  rw [runGen, withInput]
  split
  next => exact refused _
  next input isInput =>
    split
    next => exact ⟨Nat.one_ne_zero, rfl⟩
    next nullFree =>
      split
      next => exact refused _
      next => exact refused _
      next content isContent =>
        by_cases noRest : scanned.rest = []
        · have passed : checkRest scanned = .ok () := by
            simp [checkRest, noRest]
          rw [passed]
          dsimp only [bind, Except.bind]
          split
          next => exact refused _
          next => exact Outcome.isRefused_ofError _
          next version isVersion =>
            rcases generateOutcome_cases (outputDirectory scanned)
              ((scanned.value? .parameter).getD "style=grpc-js") version content with
              failed | ⟨files, outputs, warnings, decoded, generated⟩
            · exact failed
            · refine absurd ⟨noRest, ?_, ?_⟩ (nothing files outputs)
              · exact ⟨input, content, isInput, by simpa using nullFree, isContent, decoded⟩
              · exact ⟨version, warnings, isVersion, generated⟩
        · have failed : checkRest scanned = .error (.unexpected scanned.rest) := by
            simp [checkRest, noRest]
          rw [failed]
          exact refused _

/-- A run that generates files is to write all of them. -/
theorem Generated.planned (generated : Generated surroundings scanned files outputs) (path usage : String) :
    reporting path usage (runGen surroundings scanned) =
      { writes := outputs.map (writeOf (outputDirectory scanned)) } := by
  obtain ⟨noRest, ⟨input, content, isInput, nullFree, isContent, decoded⟩, version, warnings, isVersion,
    made⟩ := generated
  have outcome : generateOutcome (outputDirectory scanned) ((scanned.value? .parameter).getD "style=grpc-js")
      version content = { writes := outputs.map (writeOf (outputDirectory scanned)) } := by
    simp only [generateOutcome, decoded, bind, Except.bind, made]
    rfl
  have passed : checkRest scanned = .ok () := by
    simp [checkRest, noRest]
  have plain : input.toList.contains '\x00' = false := by
    simpa using nullFree
  rw [runGen, withInput, isInput]
  simp only [plain, Bool.false_eq_true, if_false, isContent, passed, bind, Except.bind, isVersion]
  exact outcome

/-- Each output has the name that belongs to its schema file. -/
theorem Generated.named (generated : Generated surroundings scanned files outputs) :
    List.Forall₂ (fun file output => output.name = Path.outputName file.name) files outputs := by
  obtain ⟨_, _, version, warnings, _, made⟩ := generated
  obtain ⟨generator, _, ran⟩ := except_bind_eq_ok made
  refine (Generator.generateFiles_forall₂ ran).imp ?_
  intro file output isOutput
  obtain ⟨compilation, rfl⟩ := Generator.exists_compilation isOutput
  rfl

end Runs

/-! ### Delivery -/

/-- How a run leaves the files: the first outputs were written in order, each over what was at its place, and
the run is successful exactly if these were all. -/
structure Delivery (directory : String) (before : FileTree) (outputs written : List (File × GeneratedFile))
    (after : FileTree) (exitCode : Nat) : Prop where
  inOrder : written <+: outputs
  finished : exitCode = 0 ↔ written = outputs
  content : ∀ place, after.content? place =
    (FileTree.lastAt? (fun pair => outputPlace directory pair.1.name)
      (fun pair => Wire.encodeText pair.2.content) written place).or (before.content? place)

section Planned

variable {directory : String} {outputs : List (File × GeneratedFile)} {outcome : Outcome}

theorem place_writeOf {pair : File × GeneratedFile} (named : pair.2.name = Path.outputName pair.1.name) :
    (writeOf directory pair.2).place = outputPlace directory pair.1.name := by
  rw [outputPlace, ← named]
  rfl

theorem ordinary_of_mem_writes (directory : String)
    (named : ∀ pair ∈ outputs, pair.2.name = Path.outputName pair.1.name) :
    ∀ file ∈ outputs.map fun pair => writeOf directory pair.2, file.place ≠ nullDevice := by
  intro file member
  obtain ⟨pair, inOutputs, rfl⟩ := List.mem_map.mp member
  rw [place_writeOf (named pair inOutputs)]
  exact outputPlace_ne_nullDevice directory pair.1.name

/-- Carrying out planned writes delivers some outputs from the first on. -/
theorem exists_delivery (named : ∀ pair ∈ outputs, pair.2.name = Path.outputName pair.1.name)
    (planned : outcome = { writes := outputs.map fun pair => writeOf directory pair.2 }) (before : FileTree) :
    ∃ written, Delivery directory before outputs written (outcome.carryOut before).1
      (outcome.carryOut before).2.exitCode := by
  subst planned
  have whole := before.fault_eq_none_iff (outputs.map fun pair => writeOf directory pair.2)
  have contents := before.content?_writeAll (ordinary_of_mem_writes directory named)
  obtain ⟨rest, split⟩ := before.complete_isPrefix (outputs.map fun pair => writeOf directory pair.2)
  obtain ⟨written, missing, shape, complete, _⟩ := List.map_eq_append_iff.mp split.symm
  have inOrder : written <+: outputs := ⟨missing, shape.symm⟩
  refine ⟨written, inOrder, ?_, ?_⟩
  · rw [Outcome.carryOut_exitCode rfl, whole, ← complete]
    -- A beginning of the outputs is all of them if it is as long.
    constructor
    · intro same
      exact inOrder.eq_of_length (by simpa using congrArg List.length same)
    · rintro rfl
      rfl
  · intro place
    rw [Outcome.carryOut_fst, contents, ← complete]
    congr 1
    exact FileTree.lastAt?_map fun pair member => ⟨place_writeOf (named pair (inOrder.subset member)), rfl⟩

/-- Whether nothing is in the way of the outputs of schema files, neither before nor among themselves. -/
structure Unobstructed (directory : String) (before : FileTree) (files : List File) : Prop where
  admitted : ∀ file ∈ files, before.Admits (CleanPath.within directory (Path.outputName file.name))
  apart : ∀ file ∈ files, ∀ other ∈ files,
    outputPlace directory file.name <+: outputPlace directory other.name →
    outputPlace directory file.name = outputPlace directory other.name

/-- Where nothing is in the way, the run succeeds. -/
theorem exitCode_of_unobstructed (named : ∀ pair ∈ outputs, pair.2.name = Path.outputName pair.1.name)
    (planned : outcome = { writes := outputs.map fun pair => writeOf directory pair.2 }) {before : FileTree}
    (unobstructed : Unobstructed directory before (outputs.map Prod.fst)) :
    (outcome.carryOut before).2.exitCode = 0 := by
  subst planned
  apply (Outcome.carryOut_exitCode rfl before).mpr
  refine FileTree.fault_eq_none_of_admits ?_ (ordinary_of_mem_writes directory named) ?_
  · intro file member
    obtain ⟨pair, inOutputs, rfl⟩ := List.mem_map.mp member
    have admitted := unobstructed.admitted pair.1 (List.mem_map_of_mem inOutputs)
    rw [← named pair inOutputs] at admitted
    rwa [← CleanPath.ofText_text (CleanPath.within_isClean directory pair.2.name)] at admitted
  · intro file member other otherMember
    obtain ⟨pair, inOutputs, rfl⟩ := List.mem_map.mp member
    obtain ⟨otherPair, otherInOutputs, rfl⟩ := List.mem_map.mp otherMember
    rw [place_writeOf (named pair inOutputs), place_writeOf (named otherPair otherInOutputs)]
    exact unobstructed.apart _ (List.mem_map_of_mem inOutputs) _ (List.mem_map_of_mem otherInOutputs)

end Planned

/-- Every output has its text at its place. -/
def FoundIn (directory : String) (outputs : List (File × GeneratedFile)) (after : FileTree) : Prop :=
  ∀ pair ∈ outputs,
    after.content? (outputPlace directory pair.1.name) = some (Wire.encodeText pair.2.content)

instance (directory : String) (outputs : List (File × GeneratedFile)) (after : FileTree) :
    Decidable (FoundIn directory outputs after) :=
  inferInstanceAs (Decidable (∀ pair ∈ outputs, _))

/-- Whatever changed lies below a directory. -/
def ChangesBelow (directory : Place) (before after : FileTree) : Prop :=
  ∀ place, after.content? place ≠ before.content? place → IsBelow directory place

namespace Delivery

variable {directory : String} {before after : FileTree} {outputs written : List (File × GeneratedFile)}
  {exitCode : Nat}

theorem encodeText_injective {text other : String} (same : Wire.encodeText text = Wire.encodeText other) :
    text = other :=
  String.toByteArray_inj.mp (ByteArray.ext (Array.toList_inj.mp same))

/-- After a successful run all outputs are found exactly if outputs at one place have the same text. -/
theorem foundIn_iff (delivery : Delivery directory before outputs written after exitCode)
    (success : exitCode = 0) : FoundIn directory outputs after ↔
      ∀ pair ∈ outputs, ∀ other ∈ outputs,
        outputPlace directory pair.1.name = outputPlace directory other.1.name →
        pair.2.content = other.2.content := by
  constructor
  · intro found pair member other otherMember same
    have here := found pair member
    rw [same, found other otherMember] at here
    exact (encodeText_injective (Option.some.inj here)).symm
  · intro agree pair member
    obtain ⟨bytes, isLast⟩ := FileTree.exists_lastAt?
      (fun pair : File × GeneratedFile => outputPlace directory pair.1.name)
      (fun pair => Wire.encodeText pair.2.content) member
    -- The last output at this place may be another one, but its text is the same.
    obtain ⟨other, otherMember, samePlace, rfl⟩ := FileTree.exists_of_lastAt? isLast
    rw [delivery.content, delivery.finished.mp success, isLast,
      agree pair member other otherMember samePlace.symm]
    rfl

/-- A delivery of outputs that stay inside changes nothing outside the directory. -/
theorem changesBelow (delivery : Delivery directory before outputs written after exitCode)
    (stay : ∀ pair ∈ outputs, StaysInside pair.1.name) :
    ChangesBelow (FileTree.locate directory) before after := by
  intro place changed
  rw [delivery.content] at changed
  cases left : FileTree.lastAt? (fun pair : File × GeneratedFile => outputPlace directory pair.1.name)
      (fun pair => Wire.encodeText pair.2.content) written place with
  | none =>
    rw [left, Option.none_or] at changed
    exact absurd rfl changed
  | some bytes =>
    -- Only outputs change anything.
    obtain ⟨pair, member, rfl, _⟩ := FileTree.exists_of_lastAt? left
    exact (stay pair (delivery.inOrder.subset member)).isBelow directory

end Delivery

/-- A run of the command that generates nothing fails and changes nothing. Otherwise it writes its outputs in
order up to the first that cannot be written; if nothing is in the way, that is all of them. A successful run
leaves all texts in place exactly if those at one place are the same, and no run changes anything outside the
directory if the names stay inside. For distinct canonical names both hold. -/
theorem gen_delivers (surroundings : Surroundings) (scanned : Scanned) (path usage : String)
    (before after : FileTree) (outcome : Outcome)
    (ran : (reporting path usage (runGen surroundings scanned)).carryOut before = (after, outcome)) :
    (outcome.exitCode ≠ 0 ∧ after = before ∧
      ∀ files outputs, ¬ Generated surroundings scanned files outputs) ∨
    ∃ files outputs written, Generated surroundings scanned files outputs ∧
      List.Forall₂ (fun file output => output.name = Path.outputName file.name) files outputs ∧
      Delivery (outputDirectory scanned) before (files.zip outputs) written after outcome.exitCode ∧
      (Unobstructed (outputDirectory scanned) before files → outcome.exitCode = 0) ∧
      (outcome.exitCode = 0 →
        (FoundIn (outputDirectory scanned) (files.zip outputs) after ↔
          ∀ pair ∈ files.zip outputs, ∀ other ∈ files.zip outputs,
            outputPlace (outputDirectory scanned) pair.1.name =
              outputPlace (outputDirectory scanned) other.1.name →
            pair.2.content = other.2.content)) ∧
      ((∀ file ∈ files, StaysInside file.name) →
        ChangesBelow (FileTree.locate (outputDirectory scanned)) before after) ∧
      ((files.map File.name).Nodup → (∀ file ∈ files, Path.IsCanonical file.name) →
        ChangesBelow (FileTree.locate (outputDirectory scanned)) before after ∧
        (outcome.exitCode = 0 → FoundIn (outputDirectory scanned) (files.zip outputs) after)) := by
  obtain ⟨rfl, rfl⟩ := Prod.mk.inj ran
  by_cases something : ∃ files outputs, Generated surroundings scanned files outputs
  · obtain ⟨files, outputs, generated⟩ := something
    have planned := generated.planned path usage
    obtain ⟨sameLength, named⟩ := List.forall₂_iff_zip.mp generated.named
    have second : (files.zip outputs).map Prod.snd = outputs :=
      List.map_snd_zip (Nat.le_of_eq sameLength.symm)
    rw [← second, List.map_map] at planned
    have first : (files.zip outputs).map Prod.fst = files := List.map_fst_zip (Nat.le_of_eq sameLength)
    obtain ⟨written, delivery⟩ := exists_delivery (fun pair member => named member) planned before
    refine .inr ⟨files, outputs, written, generated, generated.named, delivery, ?_, delivery.foundIn_iff,
      ?_, ?_⟩
    · intro unobstructed
      rw [← first] at unobstructed
      exact exitCode_of_unobstructed (fun pair member => named member) planned unobstructed
    · intro stay
      exact delivery.changesBelow fun pair member => stay _ (List.of_mem_zip member).1
    · intro distinct canonical
      constructor
      · exact delivery.changesBelow fun pair member =>
          staysInside_of_isCanonical (canonical _ (List.of_mem_zip member).1)
      · intro success
        apply (delivery.foundIn_iff success).mpr
        intro pair member other otherMember samePlace
        -- Canonical names with one place are one name, and no two outputs belong to one name.
        have sameName := eq_of_outputPlace_eq (canonical _ (List.of_mem_zip member).1)
          (canonical _ (List.of_mem_zip otherMember).1) samePlace
        rw [← first, List.map_map] at distinct
        rw [List.inj_on_of_nodup_map distinct member otherMember sameName]
  · have nothing : ∀ files outputs, ¬ Generated surroundings scanned files outputs :=
      fun files outputs generated => something ⟨files, outputs, generated⟩
    obtain ⟨failed, unchanged⟩ := (isRefused_of_not_generated nothing path usage).carryOut before
    exact .inl ⟨failed, unchanged, nothing⟩

/-! ### Runs that do not deliver -/

/-- A descriptor set of empty schema files with given names. -/
def setOf (names : List String) : Wire.Bytes :=
  names.flatMap fun name =>
    Wire.writeBytesField 1 (Wire.writeTextField 1 name ++ Wire.writeTextField 12 "proto3")

def setSurroundings (names : List String) : Surroundings :=
  { node := fun _ => .file (setOf names) }

def setOptions : Scanned :=
  { given := [(.input, "in.pb"), (.output, "out"), (.parameter, "style=none")] }

def setRun (names : List String) : FileTree × Outcome :=
  (reporting "pbts gen" "" (runGen (setSurroundings names) setOptions)).carryOut {}

def setOutputs (names : List String) : List (File × GeneratedFile) :=
  let result : Except Error (List (File × GeneratedFile)) := do
    let files ← Schema.decodeSet (setOf names)
    let (outputs, _) ← generate { files, parameter := "style=none" }
    return files.zip outputs
  result.toOption.getD []

/-- Two canonical names, one of them in a directory named like the other. -/
def tideNames : List String :=
  ["tide.proto", "tide/ebb.proto"]

theorem isCanonical_tides : ∀ name ∈ tideNames, Path.IsCanonical name := by
  intro name member
  rcases List.mem_cons.mp member with rfl | isSecond
  · exact ⟨⟨"tide", rfl⟩, by decide⟩
  · rw [List.mem_singleton.mp isSecond]
    exact ⟨⟨"tide/ebb", rfl⟩, by decide⟩

theorem admits_tides :
    ∀ name ∈ tideNames, FileTree.Admits {} (CleanPath.within "out" (Path.outputName name)) := by
  intro name member
  have evaluated : ∀ name ∈ tideNames, let path := CleanPath.within "out" (Path.outputName name)
      (∀ part ∈ path.parts, CleanPath.IsShortName part) ∧
      CleanPath.check path.text = .ok () ∧ path.parts ≠ [] ∧ "/" ∉ path.place ∧
      FileTree.isDirectory {} path.place = false := by
    decide +kernel
  obtain ⟨names, checked, nonempty, relative, free⟩ := evaluated name member
  refine ⟨⟨CleanPath.within_isClean _ _, names, checked⟩, nonempty, ?_, free⟩
  intro place above _
  have ordinary : place ≠ nullDevice := by
    rintro rfl
    exact relative (above.subset (by decide))
  simp [FileTree.content?, ordinary]

theorem unobstructed_tides {files : List File} (names : files.map File.name = tideNames) :
    Unobstructed "out" {} files := by
  have isTide : ∀ file ∈ files, file.name ∈ tideNames := by
    intro file member
    rw [← names]
    exact List.mem_map_of_mem member
  have apart : ∀ name ∈ tideNames, ∀ other ∈ tideNames,
      outputPlace "out" name <+: outputPlace "out" other →
      outputPlace "out" name = outputPlace "out" other := by
    decide +kernel
  exact ⟨fun file member => admits_tides _ (isTide file member),
    fun file member other isOther => apart _ (isTide file member) _ (isTide other isOther)⟩

/-- Nothing is in the way of two canonical names in an empty file system, so both are delivered. -/
theorem gen_delivers_tides :
    ∃ files outputs, Generated (setSurroundings tideNames) setOptions files outputs ∧
      files.map File.name = tideNames ∧ Unobstructed "out" {} files ∧ (setRun tideNames).2.exitCode = 0 ∧
      FoundIn "out" (files.zip outputs) (setRun tideNames).1 ∧
      ChangesBelow ["out"] {} (setRun tideNames).1 := by
  have named : (Schema.decodeSet (setOf tideNames)).map (List.map File.name) = .ok tideNames := by
    decide +kernel
  rcases gen_delivers (setSurroundings tideNames) setOptions "pbts gen" "" {} _ _ rfl
    with ⟨failed, _⟩ | ⟨files, outputs, _, generated, _, _, succeeds, _, _, delivered⟩
  · exact absurd (by decide +kernel) failed
  · obtain ⟨_, content, _, _, isContent, decoded⟩ := generated.decoded
    cases isContent
    rw [decoded] at named
    have names : files.map File.name = tideNames := Except.ok.inj named
    have canonical : ∀ file ∈ files, Path.IsCanonical file.name := by
      intro file member
      apply isCanonical_tides
      rw [← names]
      exact List.mem_map_of_mem member
    have distinct : (files.map File.name).Nodup := by
      rw [names]
      decide
    have isDirectory : FileTree.locate (outputDirectory setOptions) = ["out"] := by decide +kernel
    have unobstructed := unobstructed_tides names
    obtain ⟨below, found⟩ := delivered distinct canonical
    rw [isDirectory] at below
    exact ⟨files, outputs, generated, names, unobstructed, succeeds unobstructed,
      found (succeeds unobstructed), below⟩

/-- Without such names outputs may be lost or stray, and a run that fails may have written some of them. -/
theorem gen_loses_and_strays :
    ((setRun ["tide.proto", "tide.txt"]).2.exitCode = 0 ∧
      ¬ FoundIn "out" (setOutputs ["tide.proto", "tide.txt"]) (setRun ["tide.proto", "tide.txt"]).1) ∧
    ((setRun ["../tide.proto"]).2.exitCode = 0 ∧ ¬ ChangesBelow ["out"] {} (setRun ["../tide.proto"]).1) ∧
    ((setRun ["tide.proto", "tide.ts/ebb.proto"]).2.exitCode = 1 ∧
      (setRun ["tide.proto", "tide.ts/ebb.proto"]).1.content? ["out", "tide.ts"] ≠ none) := by
  refine ⟨by decide +kernel, ⟨by decide +kernel, ?_⟩, by decide +kernel⟩
  intro below
  obtain ⟨names, _, shape, _⟩ := below ["tide.ts"] (by decide +kernel)
  revert shape
  simp

end Typewire.Console
