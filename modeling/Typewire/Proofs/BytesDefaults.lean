import Typewire.Proofs.Brackets
import Typewire.Proofs.Building
import Typewire.Proofs.LoadedPlaces
import Typewire.Proofs.ResponseReading

/-!
# Defaults of byte fields

A descriptor stores the default of a byte field as a text of printable ASCII. Bytes that cannot stand in it as
they are become escapes: a backslash with a letter, with the character itself, or with three octal digits. The
expression for the default lists the characters of this text, escapes included, while defaults of
text fields are stored without escapes and need none undone.

## Main result

`bytes_default_honoured_iff`: the expression lists the bytes that the default stands for exactly if none of
them had to be escaped.

## Proof strategy

Every escape is longer than the byte it stands for. So with an escape among the bytes there are more elements
than bytes, and a list with more elements has more commas.
-/
namespace Typewire

namespace Descriptor

/-- The character that stands for a byte behind a backslash. -/
def byteEscape? : UInt8 → Option Char
  | 0x09 => some 't'
  | 0x0a => some 'n'
  | 0x0d => some 'r'
  | 0x22 => some '"'
  | 0x27 => some '\x27'
  | 0x5c => some '\\'
  | _ => none

def octalDigit (value : Nat) : Char :=
  Char.ofNat (0x30 + value)

def escapeByte (byte : UInt8) : List Char :=
  match byteEscape? byte with
  | some c => ['\\', c]
  | none =>
    if 0x20 ≤ byte.toNat ∧ byte.toNat < 0x7f then [Char.ofNat byte.toNat]
    else ['\\', octalDigit (byte.toNat / 64), octalDigit (byte.toNat / 8 % 8), octalDigit (byte.toNat % 8)]

/-- The text that a descriptor stores as the default of a byte field. -/
def escapeBytes (bytes : Wire.Bytes) : String :=
  String.ofList (bytes.flatMap escapeByte)

/-- A byte that stands in the text of a default as it is: printable, no quote and no backslash. -/
def IsUnescaped (byte : UInt8) : Prop :=
  0x20 ≤ byte.toNat ∧ byte.toNat < 0x7f ∧ byte ≠ 0x22 ∧ byte ≠ 0x27 ∧ byte ≠ 0x5c

instance (byte : UInt8) : Decidable (IsUnescaped byte) :=
  inferInstanceAs (Decidable (_ ∧ _))

/-! ### Escapes of bytes -/

theorem not_unescaped_of_byteEscape? {byte : UInt8} {c : Char} (escapes : byteEscape? byte = some c) :
    ¬ IsUnescaped byte := by
  rw [byteEscape?.eq_def] at escapes
  split at escapes
  case h_7 => cases escapes
  all_goals decide

theorem escapeByte_of_unescaped {byte : UInt8} (unescaped : IsUnescaped byte) :
    escapeByte byte = [Char.ofNat byte.toNat] := by
  rw [escapeByte]
  split
  next c escapes => exact absurd unescaped (not_unescaped_of_byteEscape? escapes)
  next => exact if_pos ⟨unescaped.1, unescaped.2.1⟩

/-- An escape takes more than one character. -/
theorem one_lt_length_escapeByte {byte : UInt8} (escaped : ¬ IsUnescaped byte) :
    1 < (escapeByte byte).length := by
  rw [escapeByte]
  split
  next => exact Nat.lt_succ_self 1
  next noEscape =>
    split
    next visible =>
      -- A printable byte without an escape of its own is no quote and no backslash.
      refine absurd ⟨visible.1, visible.2, ?_, ?_, ?_⟩ escaped <;>
      · rintro rfl
        cases noEscape
    next => exact (by decide : 1 < 4)

theorem toNat_ofNat {code : Nat} (small : code < 0xd800) : (Char.ofNat code).toNat = code := by
  have valid : code.isValidChar := .inl small
  rw [Char.ofNat, dif_pos valid]
  rfl

theorem escapeByte_narrow (byte : UInt8) : ∀ c ∈ escapeByte byte, c.toNat < 256 := by
  have octal : ∀ value < 8, (octalDigit value).toNat < 256 := by decide
  have range : byte.toNat < 256 := byte.toNat_lt
  rw [escapeByte]
  split
  next c escapes =>
    have narrow : c.toNat < 256 := by
      rw [byteEscape?.eq_def] at escapes
      split at escapes
      all_goals cases escapes
      all_goals decide
    simpa using narrow
  next =>
    split
    next visible => simp [toNat_ofNat (Nat.lt_trans range (by decide)), range]
    next =>
      simp [octal _ (show byte.toNat / 64 < 8 by omega), octal _ (Nat.mod_lt _ (by decide : 8 > 0))]

/-- Escapes make a text longer than its bytes. -/
theorem length_lt_of_escaped {bytes : Wire.Bytes} {byte : UInt8} (member : byte ∈ bytes)
    (escaped : ¬ IsUnescaped byte) : bytes.length < (bytes.flatMap escapeByte).length := by
  -- No byte gets lost, so one byte that becomes longer makes the whole longer.
  have atLeast : ∀ bytes : Wire.Bytes, bytes.length ≤ (bytes.flatMap escapeByte).length := by
    intro bytes
    induction bytes with
    | nil => exact Nat.le_refl 0
    | cons first bytes ih =>
      have nonempty : 1 ≤ (escapeByte first).length := by
        by_cases unescaped : IsUnescaped first
        · rw [escapeByte_of_unescaped unescaped]
          exact Nat.le_refl 1
        · exact Nat.le_of_lt (one_lt_length_escapeByte unescaped)
      rw [List.flatMap_cons, List.length_append, List.length_cons]
      omega
  obtain ⟨before, after, rfl⟩ := List.append_of_mem member
  have longer := one_lt_length_escapeByte escaped
  have ofBefore := atLeast before
  have ofAfter := atLeast after
  rw [List.flatMap_append, List.flatMap_cons, List.length_append, List.length_append, List.length_append,
    List.length_cons]
  omega

end Descriptor

namespace Code

open Descriptor (IsUnescaped escapeByte escapeBytes)

/-! ### Lists of bytes -/

def listing (codes : List Nat) : String :=
  "new Uint8Array(" ++ Text.intArray (codes.map Int.ofNat) ++ ")"

/-- Between words without commas there is one comma less than there are words. -/
theorem count_comma_intercalate {words : List (List Char)} (commaFree : ∀ word ∈ words, ',' ∉ word) :
    ([',', ' '].intercalate words).count ',' = words.length - 1 := by
  induction words with
  | nil => rfl
  | cons word words ih =>
    rw [List.forall_mem_cons] at commaFree
    have none : word.count ',' = 0 := List.count_eq_zero.mpr commaFree.1
    cases words with
    | nil => simpa using none
    | cons next words =>
      rw [List.intercalate_cons_cons, List.count_append, List.count_append, none, ih commaFree.2]
      simp only [List.length_cons]
      have separator : [',', ' '].count ',' = 1 := by decide
      omega

/-- The elements of a list are told apart by commas. -/
theorem count_comma_listing (codes : List Nat) : (listing codes).toList.count ',' = codes.length - 1 := by
  have commaFree : ∀ word ∈ ((codes.map Int.ofNat).map toString).map String.toList, ',' ∉ word := by
    intro word isWord comma
    obtain ⟨element, isElement, rfl⟩ := List.mem_map.mp isWord
    obtain ⟨number, _, rfl⟩ := List.mem_map.mp isElement
    cases Text.isWord_of_mem_number comma
  have around : ∀ text ∈ ["new Uint8Array(", "[", "]", ")"], text.toList.count ',' = 0 := by decide
  have inside := count_comma_intercalate commaFree
  have spelled : listing codes = "new Uint8Array(" ++
      ("[" ++ ", ".intercalate ((codes.map Int.ofNat).map toString) ++ "]") ++ ")" := rfl
  simp only [List.forall_mem_cons] at around
  simp only [spelled, String.toList_append, List.count_append, String.toList_intercalate, around]
  simpa using inside

theorem textBytes_escapeBytes (bytes : Wire.Bytes) :
    textBytes (escapeBytes bytes) = ((escapeBytes bytes).toList.map Char.toNat).map Int.ofNat := by
  rw [textBytes, List.map_map]
  refine List.map_congr_left fun c member => ?_
  rw [escapeBytes, String.toList_ofList] at member
  obtain ⟨byte, _, inEscape⟩ := List.mem_flatMap.mp member
  exact if_pos (Descriptor.escapeByte_narrow byte c inEscape)

/-- The default lists the characters of the escaped text. -/
theorem declaredValue_escapeBytes (bytes : Wire.Bytes) :
    declaredValue .bytes (escapeBytes bytes) = listing ((escapeBytes bytes).toList.map Char.toNat) := by
  have value : ∀ text, declaredValue .bytes text = "new Uint8Array(" ++ Text.intArray (textBytes text) ++ ")" :=
    fun _ => rfl
  rw [value, textBytes_escapeBytes]
  rfl

theorem escapedCodes_of_unescaped {bytes : Wire.Bytes} (unescaped : ∀ byte ∈ bytes, IsUnescaped byte) :
    (escapeBytes bytes).toList.map Char.toNat = bytes.map UInt8.toNat := by
  rw [escapeBytes, String.toList_ofList]
  induction bytes with
  | nil => rfl
  | cons byte bytes ih =>
    rw [List.forall_mem_cons] at unescaped
    have small : byte.toNat < 0xd800 := Nat.lt_trans byte.toNat_lt (by decide)
    rw [List.flatMap_cons, Descriptor.escapeByte_of_unescaped unescaped.1, List.singleton_append,
      List.map_cons, List.map_cons, Descriptor.toNat_ofNat small, ih unescaped.2]

/-- The escaped text is listed like the bytes themselves exactly if nothing was escaped. Otherwise it is
longer, and the listing has more commas. -/
theorem listing_escapeBytes_iff (bytes : Wire.Bytes) :
    listing ((escapeBytes bytes).toList.map Char.toNat) = listing (bytes.map UInt8.toNat) ↔
      ∀ byte ∈ bytes, IsUnescaped byte := by
  constructor
  · intro same byte member
    -- With an escape there are more characters than bytes, and so more commas.
    by_contra escaped
    have longer := Descriptor.length_lt_of_escaped member escaped
    have nonempty := List.length_pos_of_mem member
    have commas := congrArg (fun text => text.toList.count ',') same
    simp only [count_comma_listing, List.length_map, escapeBytes, String.toList_ofList] at commas
    omega
  · intro unescaped
    rw [escapedCodes_of_unescaped unescaped]

/-! ### Fields with a default -/

theorem buildField_run_of_scalar {field : Schema.Field} {typeRef : String} (single : field.parts? = none)
    (scalar : field.kind.scalarType? = some typeRef) (context : Context) (scope : String) (uses : RootUses) :
    (buildField context scope field).run uses =
      (.ok (singleMember field (typeRef, scalarInitial field.kind field.defaultValue)), uses) := by
  -- Scalar types have fixed names, so nothing is looked up.
  rw [buildField_of_single single, elementType_of_scalar scalar]
  rfl

theorem isRepeated_described {source : Descriptor.Field} (single : source.label ≠ .repeated)
    (dialect : Schema.Dialect) (outer : Descriptor.Features) :
    (Schema.Field.described dialect outer source).isRepeated = false := by
  rw [Schema.Field.isRepeated, Schema.Field.described, Schema.Field.cardinalityOf, if_neg single]
  split <;> rfl

theorem defaultValue_described {source : Descriptor.Field} {text : String}
    (declared : source.defaultValue = some (Wire.encodeText text)) (dialect : Schema.Dialect)
    (outer : Descriptor.Features) :
    (Schema.Field.described dialect outer source).defaultValue = some text := by
  have decoded : Schema.textOf (Wire.encodeText text) = text := by
    rw [Schema.textOf, Wire.decodeText_encodeText, Option.getD_some]
  have same : (Schema.Field.described dialect outer source).defaultValue =
      source.defaultValue.map Schema.textOf := rfl
  rw [same, declared, Option.map_some, decoded]

/-- The default of a single byte field, as it was loaded, lists the characters of the text that the descriptor
stores. These are the bytes that the default stands for exactly if none of them had to be escaped. -/
theorem bytes_default_honoured_iff {source : Descriptor.Field} {bytes : Wire.Bytes}
    (isBytes : source.kind = .bytes) (single : source.label ≠ .repeated)
    (declared : source.defaultValue = some (Wire.encodeText (escapeBytes bytes)))
    {dialect : Schema.Dialect} {outer : Descriptor.Features} {field : Schema.Field}
    (loaded : Schema.Field.load dialect outer source = .ok field) (context : Context) (scope : String)
    (uses : RootUses) :
    ∃ member, (buildField context scope field).run uses = (.ok member, uses) ∧
      member.initial = listing ((escapeBytes bytes).toList.map Char.toNat) ∧
      (member.initial = listing (bytes.map UInt8.toNat) ↔ ∀ byte ∈ bytes, IsUnescaped byte) := by
  -- What the descriptor says of the field: bytes, a single value, and the escaped text as its default.
  have isDescribed := Schema.Field.load_eq_ok loaded
  have kind : field.kind = .bytes := by rw [isDescribed, Schema.Field.described, isBytes]
  have noParts : field.parts? = none := by rw [isDescribed]; rfl
  have notRepeated : field.isRepeated = false := isDescribed ▸ isRepeated_described single dialect outer
  have stored : field.defaultValue = some (escapeBytes bytes) := by
    rw [isDescribed, defaultValue_described declared]
  have scalar : field.kind.scalarType? = some "Uint8Array" := by rw [kind]; rfl
  refine ⟨_, buildField_run_of_scalar noParts scalar context scope uses, ?_⟩
  have initial : (singleMember field ("Uint8Array", scalarInitial field.kind field.defaultValue)).initial =
      listing ((escapeBytes bytes).toList.map Char.toNat) := by
    rw [singleMember, notRepeated, kind, stored, ← declaredValue_escapeBytes]
    rfl
  rw [initial]
  exact ⟨rfl, listing_escapeBytes_iff bytes⟩

/-- A byte field whose default stands for given bytes. -/
def saltField (bytes : Wire.Bytes) : Descriptor.Field :=
  { name := Wire.encodeText "salt"
    number := 1
    kind := .bytes
    defaultValue := some (Wire.encodeText (escapeBytes bytes)) }

/-- The context of a file that declares nothing. -/
def saltContext : Context :=
  { file := { name := "salt.proto" }, symbols := {}, imports := default, wraps := fun _ => false }

theorem bytes_default_honoured_iff_for_salt :
    ∃ field, Schema.Field.load .proto2 {} (saltField [0x73, 0x61, 0x5c]) = .ok field ∧
      ∃ member, (buildField saltContext "" field).run [] = (.ok member, []) ∧
        member.initial = listing ((escapeBytes [0x73, 0x61, 0x5c]).toList.map Char.toNat) ∧
        (member.initial = listing ([0x73, 0x61, 0x5c].map UInt8.toNat) ↔
          ∀ byte ∈ ([0x73, 0x61, 0x5c] : Wire.Bytes), IsUnescaped byte) := by
  obtain ⟨field, loaded⟩ := exists_ok_of_isOk (by decide +kernel :
    (Schema.Field.load .proto2 {} (saltField [0x73, 0x61, 0x5c])).isOk = true)
  exact ⟨field, loaded, bytes_default_honoured_iff rfl (by decide) rfl loaded saltContext "" []⟩

/-- A default of a single zero byte is stored as a backslash with three digits, and these four characters are
what the expression lists. -/
theorem zero_byte_default_garbled :
    escapeBytes [0] = "\\000" ∧
    ((Schema.Field.load .proto2 {} (saltField [0])).toOption.bind fun field =>
      ((buildField saltContext "" field).run []).1.toOption.map (·.initial)) =
        some "new Uint8Array([92, 48, 48, 48])" ∧
    listing ([0].map UInt8.toNat) = "new Uint8Array([0])" := by
  decide +kernel

end Code

end Typewire
