import Typewire.Proofs.Concatenation
import Typewire.Response

/-!
# Reading a response back

The reader here follows the rules of the wire format alone: numbers and lengths of any size, fields until the
bytes are used up, the last of several single values. What is written for a number or for bytes is read as
one field, and the fields of a response are those of its parts one after the other. So a response is read as
the files that were put into it. The reader of requests bounds the size of a number; where no file is too
large for it, both readers see the same fields.

Main result: `response_reads_back`.
-/
namespace Typewire.Wire

/-! ### A reader without limits -/

def readNumber (bytes : Bytes) : Option (Nat × Bytes) :=
  readVarint bytes.length bytes

/-- Reads the value of a field of a wire type. Groups are no values. -/
def readValue (wireType : Nat) (bytes : Bytes) : Option (Payload × Bytes) :=
  match wireType with
  | 0 => (readNumber bytes).map fun (word, rest) => (.varint word, rest)
  | 1 => (takeBytes 8 bytes).map fun (bits, rest) => (.fixed64 bits, rest)
  | 2 => (readNumber bytes).bind fun (length, rest) =>
      (takeBytes length rest).map fun (body, rest) => (.delimited body, rest)
  | 5 => (takeBytes 4 bytes).map fun (bits, rest) => (.fixed32 bits, rest)
  | _ => none

/-- Reads what follows a tag. Field numbers start at one. -/
def readTagged (tag : Nat) (bytes : Bytes) : Option (Field × Bytes) :=
  if tag < 8 then none
  else (readValue (tag % 8) bytes).map fun (payload, rest) => (⟨tag / 8, payload⟩, rest)

def readField (bytes : Bytes) : Option (Field × Bytes) :=
  (readNumber bytes).bind fun (tag, rest) => readTagged tag rest

/-- All fields of a message without groups. -/
def allFields (bytes : Bytes) : Option (List Field) :=
  readAll readField bytes

/-- A number is read in the same way when more bytes are allowed. -/
theorem readVarint_add {limit : Nat} {bytes : Bytes} {result : Nat × Bytes}
    (read : readVarint limit bytes = some result) (extra : Nat) :
    readVarint (limit + extra) bytes = some result := by
  fun_induction readVarint limit bytes generalizing result with
  | case1 => cases read
  | case2 => cases read
  | case3 limit byte rest small =>
    rw [Nat.succ_add, readVarint, if_pos small]
    exact read
  | case4 limit byte rest large ih =>
    obtain ⟨higher, remaining, last⟩ := Option.map_eq_some_iff.mp read
    rw [Nat.succ_add, readVarint, if_neg large, ih remaining, Option.map_some, last]

theorem readNumber_isLocal : IsLocal readNumber := by
  intro bytes value rest returned more
  rw [readNumber, List.length_append]
  exact readVarint_add (readVarint_isLocal bytes.length bytes value rest returned more) more.length

theorem readValue_isLocal (wireType : Nat) : IsLocal (readValue wireType) := by
  unfold readValue
  split
  · exact readNumber_isLocal.map Payload.varint
  · exact (takeBytes_isLocal 8).map Payload.fixed64
  · exact readNumber_isLocal.bind fun length => (takeBytes_isLocal length).map Payload.delimited
  · exact (takeBytes_isLocal 4).map Payload.fixed32
  · intro bytes value rest returned
    cases returned

theorem readField_isLocal : IsLocal readField := by
  refine readNumber_isLocal.bind fun tag => ?_
  unfold readTagged
  split
  · intro bytes value rest returned
    cases returned
  · exact (readValue_isLocal (tag % 8)).map fun payload => Field.mk (tag / 8) payload

/-! ### Numbers -/

theorem readVarint_writeVarint {limit : Nat} (value : Nat)
    (fits : (writeVarint value).length ≤ limit) (rest : Bytes) :
    readVarint limit (writeVarint value ++ rest) = some (value, rest) := by
  fun_induction writeVarint value generalizing limit with
  | case1 value small =>
    obtain _ | limit := limit
    · simp at fits
    · have byte : value.toUInt8.toNat = value := Nat.mod_eq_of_lt (by omega)
      simp [readVarint, byte, small]
  | case2 value large ih =>
    obtain _ | limit := limit
    · simp at fits
    · -- The high bit of the byte is set, and the rest is the number without its low seven bits.
      have byte : (128 + value % 128).toUInt8.toNat = 128 + value % 128 := Nat.mod_eq_of_lt (by omega)
      have continued : ¬ 128 + value % 128 < 128 := by omega
      have higher := ih (Nat.le_of_succ_le_succ fits)
      simp only [List.cons_append, readVarint, byte, if_neg continued, higher, Option.map_some]
      have whole : 128 + value % 128 - 128 + 128 * (value / 128) = value := by omega
      rw [whole]

theorem readNumber_writeVarint (value : Nat) (rest : Bytes) :
    readNumber (writeVarint value ++ rest) = some (value, rest) :=
  readVarint_writeVarint value (by simp) rest

theorem length_writeVarint_of_lt {value : Nat} (small : value < 128) : (writeVarint value).length = 1 := by
  rw [writeVarint, if_pos small]
  rfl

theorem length_writeVarint_le_succ {value limit : Nat}
    (high : (writeVarint (value / 128)).length ≤ limit) : (writeVarint value).length ≤ limit + 1 := by
  rw [writeVarint]
  split
  · simp
  · simpa using high

/-- The first number that takes more than five bytes. -/
def lengthLimit : Nat := 0x800000000

/-- A length below the limit takes five bytes at most. -/
theorem length_writeVarint_le_five {value : Nat} (short : value < lengthLimit) :
    (writeVarint value).length ≤ 5 := by
  unfold lengthLimit at short
  have last : value / 128 / 128 / 128 / 128 < 128 := by omega
  exact length_writeVarint_le_succ <| length_writeVarint_le_succ <| length_writeVarint_le_succ <|
    length_writeVarint_le_succ (Nat.le_of_eq (length_writeVarint_of_lt last))

/-! ### Fields -/

theorem takeBytes_length (bytes : Bytes) : takeBytes bytes.length bytes = some (bytes, []) := by
  simp [takeBytes]

theorem readField_writeWordField {number : Nat} (positive : 0 < number) (value : Nat) :
    readField (writeWordField number value) = some (⟨number, .varint value⟩, []) := by
  have word : readNumber (writeVarint value) = some (value, []) := by
    simpa using readNumber_writeVarint value []
  have largeTag : ¬ 8 * number < 8 := by omega
  have tag : 8 * number % 8 = 0 ∧ 8 * number / 8 = number := by omega
  simp only [readField, writeWordField, readNumber_writeVarint, Option.bind_some, readTagged,
    if_neg largeTag, tag, readValue, word, Option.map_some]

theorem readField_writeBytesField {number : Nat} (positive : 0 < number) (body : Bytes) :
    readField (writeBytesField number body) = some (⟨number, .delimited body⟩, []) := by
  have largeTag : ¬ 8 * number + 2 < 8 := by omega
  have tag : (8 * number + 2) % 8 = 2 ∧ (8 * number + 2) / 8 = number := by omega
  simp only [readField, writeBytesField, List.append_assoc, readNumber_writeVarint, Option.bind_some,
    readTagged, if_neg largeTag, tag, readValue, takeBytes_length, Option.map_some]

theorem readTag_writeVarint {tag : Nat} (small : tag < halfWordLimit) (rest : Bytes) :
    readTag (writeVarint tag ++ rest) = some ((tag / 8, tag % 8), rest) := by
  have fits : (writeVarint tag).length ≤ 5 := by
    apply length_writeVarint_le_five
    unfold halfWordLimit at small
    unfold lengthLimit
    omega
  simp only [readTag, readVarint_writeVarint tag fits, Option.bind_eq_bind, Option.bind_some, if_pos small]

theorem readToken_writeWordField {number value : Nat} (smallNumber : 8 * number < halfWordLimit)
    (smallValue : value < halfWordLimit) :
    readToken (writeWordField number value) = some (.field ⟨number, .varint value⟩, []) := by
  have fits : (writeVarint value).length ≤ 10 := by
    refine Nat.le_trans (length_writeVarint_le_five ?_) (by decide)
    unfold halfWordLimit at smallValue
    unfold lengthLimit
    omega
  have word : readWord (writeVarint value) = some (value, []) := by
    have read := readVarint_writeVarint value fits []
    rw [List.append_nil] at read
    have whole : value % wordLimit = value := Nat.mod_eq_of_lt (Nat.lt_trans smallValue (by decide))
    simp only [readWord, read, Option.map_some, whole]
  have tag : 8 * number % 8 = 0 ∧ 8 * number / 8 = number := by omega
  simp only [readToken_eq, writeWordField, readTag_writeVarint smallNumber, Option.bind_some, tag,
    readPayload, word, Option.map_some]

/-- A field of bytes that is not too long is read back by the strict reader as well. -/
theorem readToken_writeBytesField {number : Nat} {body : Bytes}
    (smallNumber : 8 * number + 2 < halfWordLimit) (short : body.length < lengthLimit) :
    readToken (writeBytesField number body) = some (.field ⟨number, .delimited body⟩, []) := by
  have delimited : readDelimited (writeVarint body.length ++ body) = some (body, []) := by
    simp only [readDelimited, readVarint_writeVarint _ (length_writeVarint_le_five short),
      Option.bind_eq_bind, Option.bind_some, takeBytes_length]
  have tag : (8 * number + 2) % 8 = 2 ∧ (8 * number + 2) / 8 = number := by omega
  simp only [readToken_eq, writeBytesField, List.append_assoc, readTag_writeVarint smallNumber,
    Option.bind_some, tag, readPayload, delimited, Option.map_some]

/-! ### Several fields -/

section ReadAll

variable {α β : Type} {reader : Bytes → Option (α × Bytes)}

theorem readAll_of_read (refuses : reader [] = none) {bytes : Bytes} {value : α}
    (read : reader bytes = some (value, [])) : readAll reader bytes = some [value] := by
  cases bytes with
  | nil =>
    rw [refuses] at read
    cases read
  | cons byte bytes =>
    rw [readAll, List.length_cons, readAllWithin]
    simp only [read, Option.bind_eq_bind, Option.bind_some, readAllWithin, pure]

/-- What is written item by item is read back item by item. -/
theorem readAll_flatMap (isLocal : IsLocal reader) {write : β → Bytes} {value : β → α} {xs : List β}
    (reads : ∀ x ∈ xs, readAll reader (write x) = some [value x]) :
    readAll reader (xs.flatMap write) = some (xs.map value) := by
  induction xs with
  | nil => rfl
  | cons x xs ih =>
    rw [List.forall_mem_cons] at reads
    rw [List.flatMap_cons, List.map_cons]
    exact readAll_append isLocal reads.1 (ih reads.2)

end ReadAll

theorem outsideGroups_map_field {depth : Nat} {fields : List Field}
    (numbered : ∀ field ∈ fields, field.number ≠ 0) :
    outsideGroups depth [] (fields.map Token.field) = some fields := by
  induction fields with
  | nil => rfl
  | cons field fields ih =>
    rw [List.forall_mem_cons] at numbered
    rw [List.map_cons, outsideGroups, if_neg numbered.1, ih numbered.2, Option.map_some]

/-- Tokens that are all fields are the fields of the message. -/
theorem fields_of_tokens {bytes : Bytes} {result : List Field}
    (read : readAll readToken bytes = some (result.map Token.field))
    (numbered : ∀ field ∈ result, field.number ≠ 0) : fields bytes = some result := by
  rw [fields, fieldsWithin, tokens_eq_readAll, read, Option.bind_some, outsideGroups_map_field numbered]

theorem decodeText_encodeText (text : String) : Record.decodeText (encodeText text) = some text := by
  have valid : text.toUTF8.IsValidUTF8 := text.isValidUTF8
  rw [Record.decodeText, encodeText, Array.toArray_toList, String.fromUTF8?, dif_pos valid]
  rfl

end Typewire.Wire

namespace Typewire.Response

open Wire (Bytes Record)

/-! ### The reader of responses -/

/-- A file as it is read from a response; its parts may be missing. -/
structure ReadFile where
  name : Option String
  content : Option String
  deriving Repr, DecidableEq

/-- What is read from a response. -/
structure Contents where
  supportedFeatures : Option Nat
  files : List ReadFile
  deriving Repr, DecidableEq

/-- The text under a number, if there is one; it must be well formed. -/
def readText (record : Record) (number : Nat) : Option (Option String) :=
  (record.bytes? number).mapM Record.decodeText

def decodeFile (bytes : Bytes) : Option ReadFile := do
  let record ← Wire.allFields bytes
  let name ← readText record 1
  let content ← readText record 15
  return { name, content }

/-- Reads a response by the numbers of its fields. -/
def decode (bytes : Bytes) : Option Contents := do
  let record ← Wire.allFields bytes
  let files ← (Record.chunks record 15).mapM decodeFile
  return { supportedFeatures := (Record.words record 2).getLast?, files }

/-! ### The fields of a response -/

def fileRecord (file : GeneratedFile) : Record :=
  [⟨1, .delimited (Wire.encodeText file.name)⟩, ⟨15, .delimited (Wire.encodeText file.content)⟩]

def record (files : List GeneratedFile) : Record :=
  ⟨2, .varint optionalFieldsFeature⟩ :: files.map fun file => ⟨15, .delimited (encodeFile file)⟩

theorem allFields_encodeFile (file : GeneratedFile) :
    Wire.allFields (encodeFile file) = some (fileRecord file) :=
  Wire.readAll_append Wire.readField_isLocal
    (Wire.readAll_of_read rfl (Wire.readField_writeBytesField (by decide) _))
    (Wire.readAll_of_read rfl (Wire.readField_writeBytesField (by decide) _))

theorem allFields_encode (files : List GeneratedFile) :
    Wire.allFields (encode files) = some (record files) :=
  Wire.readAll_append Wire.readField_isLocal
    (Wire.readAll_of_read rfl (Wire.readField_writeWordField (by decide) _))
    (Wire.readAll_flatMap Wire.readField_isLocal fun _ _ =>
      Wire.readAll_of_read rfl (Wire.readField_writeBytesField (by decide) _))

theorem fields_encodeFile {file : GeneratedFile} (short : (encodeFile file).length < Wire.lengthLimit) :
    Wire.fields (encodeFile file) = some (fileRecord file) := by
  simp only [encodeFile, Wire.writeTextField, Wire.writeBytesField, List.length_append] at short
  refine Wire.fields_of_tokens ?_ (by simp [fileRecord])
  exact Wire.readAll_append Wire.readToken_isLocal
    (Wire.readAll_of_read rfl (Wire.readToken_writeBytesField (by decide) (by omega)))
    (Wire.readAll_of_read rfl (Wire.readToken_writeBytesField (by decide) (by omega)))

theorem fields_encode {files : List GeneratedFile}
    (short : ∀ file ∈ files, (encodeFile file).length < Wire.lengthLimit) :
    Wire.fields (encode files) = some (record files) := by
  refine Wire.fields_of_tokens ?_ (by simp [record])
  rw [record, List.map_cons, List.map_map]
  exact Wire.readAll_append Wire.readToken_isLocal
    (Wire.readAll_of_read rfl (Wire.readToken_writeWordField (by decide) (by decide)))
    (Wire.readAll_flatMap Wire.readToken_isLocal fun file member =>
      Wire.readAll_of_read rfl (Wire.readToken_writeBytesField (by decide) (short file member)))

/-! ### Reading what was written -/

/-- A file of a response is read back with its name and its content. -/
theorem decodeFile_encodeFile (file : GeneratedFile) :
    decodeFile (encodeFile file) = some { name := some file.name, content := some file.content } := by
  have name : readText (fileRecord file) 1 = some (some file.name) := by
    simp [readText, Record.bytes?, Record.chunks, fileRecord, Wire.decodeText_encodeText]
  have content : readText (fileRecord file) 15 = some (some file.content) := by
    simp [readText, Record.bytes?, Record.chunks, fileRecord, Wire.decodeText_encodeText]
  simp only [decodeFile, allFields_encodeFile, Option.bind_eq_bind, Option.bind_some, name, content, pure]

theorem words_record (files : List GeneratedFile) :
    (record files).words 2 = [optionalFieldsFeature] := by
  simp [Record.words, record]

theorem chunks_record (files : List GeneratedFile) :
    (record files).chunks 15 = files.map encodeFile := by
  simp [Record.chunks, record]

/-- A response is read as the supported features and the files that were put into it, in their order, each
with its name and its content. Where no file is too large for the reader of requests, it sees the same
fields, in the response and in every file. -/
theorem response_reads_back (files : List GeneratedFile) :
    decode (encode files) = some {
      supportedFeatures := some 1
      files := files.map fun file => { name := some file.name, content := some file.content } } ∧
    ((∀ file ∈ files, (encodeFile file).length < Wire.lengthLimit) →
      Wire.fields (encode files) = Wire.allFields (encode files) ∧
      ∀ file ∈ files, Wire.fields (encodeFile file) = Wire.allFields (encodeFile file)) := by
  constructor
  · have decoded : (files.map encodeFile).mapM decodeFile = some (files.map fun file =>
        { name := some file.name, content := some file.content }) := by
      induction files with
      | nil => rfl
      | cons file files ih => simp [decodeFile_encodeFile, ih]
    simp only [decode, allFields_encode, Option.bind_eq_bind, Option.bind_some, chunks_record, decoded,
      words_record, pure]
    rfl
  · intro short
    refine ⟨(fields_encode short).trans (allFields_encode files).symm, fun file member => ?_⟩
    exact (fields_encodeFile (short file member)).trans (allFields_encodeFile file).symm

/-- Files with an empty name, an empty content and the same name twice. -/
def shoreFiles : List GeneratedFile :=
  [⟨"", "// 潮\n"⟩, ⟨"shore.ts", ""⟩, ⟨"shore.ts", "export enum Shore \x7b\x7d\n"⟩]

theorem response_reads_back_at_the_shore :
    (∀ file ∈ shoreFiles, (encodeFile file).length < Wire.lengthLimit) ∧
    decode (encode shoreFiles) = some {
      supportedFeatures := some 1
      files := [⟨some "", some "// 潮\n"⟩, ⟨some "shore.ts", some ""⟩,
        ⟨some "shore.ts", some "export enum Shore \x7b\x7d\n"⟩] } ∧
    Wire.fields (encode shoreFiles) = Wire.allFields (encode shoreFiles) := by
  have short : ∀ file ∈ shoreFiles, (encodeFile file).length < Wire.lengthLimit := by
    decide +kernel
  have readBack := response_reads_back shoreFiles
  exact ⟨short, readBack.1, (readBack.2 short).1⟩

end Typewire.Response
