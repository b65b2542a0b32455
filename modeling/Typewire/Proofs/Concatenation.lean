import Typewire.Proofs.Effects
import Typewire.Schema.Load

/-!
# Encoded messages one after the other

A reader of a token takes the bytes of the token and does not look behind them, and groups that were opened
in a message are closed in it. So the fields of two encoded messages one after the other are the fields of
the first, then those of the second, and whatever is required of each field holds of all of them. A
descriptor set has its files under one number; two sets one after the other are the set of all files.

Main result: `descriptor_sets_concatenate`.
-/
namespace Typewire.Wire

/-! ### Readers that do not look ahead -/

/-- What follows the bytes that a reader takes does not change what it reads. -/
def IsLocal {α : Type} (reader : Bytes → Option (α × Bytes)) : Prop :=
  ∀ bytes value rest, reader bytes = some (value, rest) →
    ∀ more, reader (bytes ++ more) = some (value, rest ++ more)

namespace IsLocal

variable {α β : Type}

theorem map {reader : Bytes → Option (α × Bytes)} (isLocal : IsLocal reader) (f : α → β) :
    IsLocal fun bytes => (reader bytes).map fun (value, rest) => (f value, rest) := by
  intro bytes value rest returned more
  obtain ⟨⟨first, after⟩, firstRead, last⟩ := Option.map_eq_some_iff.mp returned
  cases last
  simp only [isLocal bytes first rest firstRead more, Option.map_some]

/-- Two local readers one after the other are local. -/
theorem bind {reader : Bytes → Option (α × Bytes)} {next : α → Bytes → Option (β × Bytes)}
    (isLocal : IsLocal reader) (nextLocal : ∀ value, IsLocal (next value)) :
    IsLocal fun bytes => (reader bytes).bind fun (value, rest) => next value rest := by
  intro bytes value rest returned more
  obtain ⟨⟨first, after⟩, firstRead, later⟩ := Option.bind_eq_some_iff.mp returned
  simp only [isLocal bytes first after firstRead more, Option.bind_some]
  exact nextLocal first after value rest later more

end IsLocal

/-- A number ends with its first byte below 128, whatever follows. -/
theorem readVarint_isLocal (limit : Nat) : IsLocal (readVarint limit) := by
  intro bytes
  fun_induction readVarint limit bytes with
  | case1 => simp
  | case2 => simp
  | case3 limit byte rest small =>
    intro value after returned more
    cases returned
    simp [readVarint, small]
  | case4 limit byte rest large ih =>
    intro value after returned more
    obtain ⟨⟨high, remaining⟩, higher, last⟩ := Option.map_eq_some_iff.mp returned
    cases last
    rw [List.cons_append, readVarint, if_neg large, ih high after higher more, Option.map_some]

theorem takeBytes_isLocal (count : Nat) : IsLocal (takeBytes count) := by
  intro bytes value rest returned more
  rw [takeBytes] at returned
  split at returned
  next enough =>
    cases returned
    have stillEnough : count ≤ (bytes ++ more).length := by
      rw [List.length_append]
      omega
    rw [takeBytes, if_pos stillEnough, List.take_append_of_le_length enough,
      List.drop_append_of_le_length enough]
  next => cases returned

theorem readWord_isLocal : IsLocal readWord :=
  (readVarint_isLocal 10).map fun value => value % wordLimit

theorem readTag_isLocal : IsLocal readTag := by
  intro bytes value rest returned more
  obtain ⟨⟨tag, after⟩, tagRead, later⟩ := Option.bind_eq_some_iff.mp returned
  have longer : readTag (bytes ++ more) =
      if tag < halfWordLimit then some ((tag / 8, tag % 8), after ++ more) else none := by
    simp only [readTag, readVarint_isLocal 5 bytes tag after tagRead more, Option.bind_eq_bind,
      Option.bind_some]
  dsimp only at later
  split at later
  next small =>
    cases later
    rw [longer, if_pos small]
  next => cases later

theorem readDelimited_isLocal : IsLocal readDelimited :=
  (readVarint_isLocal 5).bind takeBytes_isLocal

def readPayload (tag : Nat × Nat) (bytes : Bytes) : Option (Token × Bytes) :=
  match tag.2 with
  | 0 => (readWord bytes).map fun (word, rest) => (.field ⟨tag.1, .varint word⟩, rest)
  | 1 => (takeBytes 8 bytes).map fun (bits, rest) => (.field ⟨tag.1, .fixed64 bits⟩, rest)
  | 2 => (readDelimited bytes).map fun (body, rest) => (.field ⟨tag.1, .delimited body⟩, rest)
  | 3 => some (.groupStart tag.1, bytes)
  | 4 => some (.groupEnd tag.1, bytes)
  | 5 => (takeBytes 4 bytes).map fun (bits, rest) => (.field ⟨tag.1, .fixed32 bits⟩, rest)
  | _ => none

theorem readToken_eq :
    readToken = fun bytes => (readTag bytes).bind fun (tag, rest) => readPayload tag rest := rfl

theorem readPayload_isLocal (tag : Nat × Nat) : IsLocal (readPayload tag) := by
  obtain ⟨number, wireType⟩ := tag
  unfold readPayload
  -- Each wire type has a reader of its own.
  split
  · exact readWord_isLocal.map fun word => Token.field ⟨number, .varint word⟩
  · exact (takeBytes_isLocal 8).map fun bits => Token.field ⟨number, .fixed64 bits⟩
  · exact readDelimited_isLocal.map fun body => Token.field ⟨number, .delimited body⟩
  · intro bytes value rest returned more
    cases returned
    rfl
  · intro bytes value rest returned more
    cases returned
    rfl
  · exact (takeBytes_isLocal 4).map fun bits => Token.field ⟨number, .fixed32 bits⟩
  · intro bytes value rest returned more
    cases returned

/-- A token is read in the same way whatever follows it. -/
theorem readToken_isLocal : IsLocal readToken := by
  rw [readToken_eq]
  exact readTag_isLocal.bind readPayload_isLocal

/-! ### Reading until the bytes are used up -/

section ReadAll

variable {α : Type} {reader : Bytes → Option (α × Bytes)}

/-- Reads values one after the other, at most `fuel` of them, until no bytes are left. -/
def readAllWithin (reader : Bytes → Option (α × Bytes)) : Nat → Bytes → Option (List α)
  | _, [] => some []
  | 0, _ :: _ => none
  | fuel + 1, bytes@(_ :: _) => do
    let (value, rest) ← reader bytes
    let values ← readAllWithin reader fuel rest
    return value :: values

/-- Reads values one after the other until no bytes are left, for a reader that takes a byte at least. -/
def readAll (reader : Bytes → Option (α × Bytes)) (bytes : Bytes) : Option (List α) :=
  readAllWithin reader bytes.length bytes

/-- More fuel does not change what was read. -/
theorem readAllWithin_add {fuel : Nat} {bytes : Bytes} {result : List α}
    (read : readAllWithin reader fuel bytes = some result) (extra : Nat) :
    readAllWithin reader (fuel + extra) bytes = some result := by
  induction fuel generalizing bytes result with
  | zero =>
    cases bytes with
    | nil => cases extra <;> exact read
    | cons byte bytes => cases read
  | succ fuel ih =>
    cases bytes with
    | nil =>
      rw [Nat.add_right_comm]
      exact read
    | cons byte bytes =>
      obtain ⟨⟨value, rest⟩, first, later⟩ := Option.bind_eq_some_iff.mp read
      obtain ⟨others, remaining, last⟩ := Option.bind_eq_some_iff.mp later
      rw [Nat.add_right_comm, readAllWithin]
      simp only [first, Option.bind_eq_bind, Option.bind_some, ih remaining]
      exact last

/-- Two streams that can be read can be read one after the other, with the fuel of both. -/
theorem readAllWithin_append (isLocal : IsLocal reader) {fuel extra : Nat} {first second : Bytes}
    {xs ys : List α} (readFirst : readAllWithin reader fuel first = some xs)
    (readSecond : readAllWithin reader extra second = some ys) :
    readAllWithin reader (fuel + extra) (first ++ second) = some (xs ++ ys) := by
  -- Once the first stream is used up, what is left of its fuel is too much and does no harm.
  induction fuel generalizing first xs with
  | zero =>
    cases first with
    | nil =>
      cases readFirst
      simpa using readSecond
    | cons byte bytes => cases readFirst
  | succ fuel ih =>
    cases first with
    | nil =>
      cases readFirst
      rw [List.nil_append, List.nil_append, Nat.add_comm]
      exact readAllWithin_add readSecond _
    | cons byte bytes =>
      obtain ⟨⟨value, rest⟩, read, later⟩ := Option.bind_eq_some_iff.mp readFirst
      obtain ⟨others, remaining, last⟩ := Option.bind_eq_some_iff.mp later
      cases last
      have readLonger := isLocal _ value rest read second
      rw [List.cons_append] at readLonger
      rw [List.cons_append, Nat.add_right_comm, readAllWithin]
      simp only [readLonger, Option.bind_eq_bind, Option.bind_some, ih remaining]
      rfl

/-- The values in two byte strings one after the other are those of the first, then those of the second. -/
theorem readAll_append (isLocal : IsLocal reader) {first second : Bytes} {xs ys : List α}
    (readFirst : readAll reader first = some xs) (readSecond : readAll reader second = some ys) :
    readAll reader (first ++ second) = some (xs ++ ys) := by
  rw [readAll, List.length_append]
  exact readAllWithin_append isLocal readFirst readSecond

end ReadAll

/-! ### Tokens and fields -/

/-- The tokens of a stream are what a reader of single tokens finds over and over. -/
theorem tokensWithin_eq_readAllWithin (fuel : Nat) (bytes : Bytes) :
    tokensWithin fuel bytes = readAllWithin readToken fuel bytes := by
  fun_induction tokensWithin fuel bytes with
  | case1 => rw [readAllWithin]
  | case2 => rw [readAllWithin]
  | case3 fuel byte bytes ih => simp only [readAllWithin, ih]

theorem tokens_eq_readAll (bytes : Bytes) : tokens bytes = readAll readToken bytes :=
  tokensWithin_eq_readAllWithin bytes.length bytes

/-- After tokens that leave no group open the next tokens stand outside all groups. -/
theorem outsideGroups_append {depth : Nat} {pending : List Nat} {first second : List Token}
    {xs ys : List Field} (readFirst : outsideGroups depth pending first = some xs)
    (readSecond : outsideGroups depth [] second = some ys) :
    outsideGroups depth pending (first ++ second) = some (xs ++ ys) := by
  -- The first part ends outside all groups, or it would not be read: so the second one starts there.
  fun_induction outsideGroups depth pending first generalizing xs with
  | case1 =>
    cases readFirst
    exact readSecond
  | case2 => cases readFirst
  | case3 field rest zero => cases readFirst
  | case4 field rest positive ih =>
    obtain ⟨others, remaining, last⟩ := Option.map_eq_some_iff.mp readFirst
    cases last
    simp [outsideGroups, positive, ih remaining]
  | case5 number pending field rest ih => exact ih readFirst
  | case6 number rest refused => cases readFirst
  | case7 number rest admitted ih =>
    rw [List.cons_append, outsideGroups, if_neg admitted]
    exact ih readFirst
  | case8 outer pending number rest shallow ih =>
    rw [List.cons_append, outsideGroups, if_pos shallow]
    exact ih readFirst
  | case9 => cases readFirst
  | case10 => cases readFirst
  | case11 number pending rest ih =>
    rw [List.cons_append, outsideGroups, if_pos rfl]
    exact ih readFirst
  | case12 => cases readFirst

/-- Two messages one after the other have the fields of the first, then those of the second. -/
theorem fieldsWithin_append {depth : Nat} {first second : Bytes} {xs ys : List Field}
    (readFirst : fieldsWithin depth first = some xs) (readSecond : fieldsWithin depth second = some ys) :
    fieldsWithin depth (first ++ second) = some (xs ++ ys) := by
  obtain ⟨firstTokens, firstRead, firstFields⟩ := Option.bind_eq_some_iff.mp readFirst
  obtain ⟨secondTokens, secondRead, secondFields⟩ := Option.bind_eq_some_iff.mp readSecond
  rw [tokens_eq_readAll] at firstRead secondRead
  rw [fieldsWithin, tokens_eq_readAll, readAll_append readToken_isLocal firstRead secondRead,
    Option.bind_some]
  exact outsideGroups_append firstFields secondFields

end Typewire.Wire

namespace Typewire.Descriptor

open Wire (Bytes Record)

/-! ### Well-formed messages -/

/-- Two well-formed messages of one type are well formed one after the other. -/
theorem MessageType.isWellFormedWithin_append {depth : Nat} {type : MessageType} {first second : Bytes}
    (firstFits : type.isWellFormedWithin depth first = true)
    (secondFits : type.isWellFormedWithin depth second = true) :
    type.isWellFormedWithin depth (first ++ second) = true := by
  cases depth <;>
  · rw [isWellFormedWithin] at firstFits secondFits ⊢
    split at firstFits
    next xs readFirst =>
      split at secondFits
      next ys readSecond =>
        -- Every field is judged on its own.
        simp only [Wire.fieldsWithin_append readFirst readSecond, List.all_append, firstFits, secondFits,
          Bool.and_self]
      next => cases secondFits
    next => cases firstFits

/-! ### Records one after the other -/

theorem mapM_append_eq_some {α β : Type} {f : α → Option β} {first second : List α} {xs ys : List β}
    (ofFirst : first.mapM f = some xs) (ofSecond : second.mapM f = some ys) :
    (first ++ second).mapM f = some (xs ++ ys) := by
  rw [List.mapM_append, ofFirst, ofSecond]
  rfl

/-- Two descriptor sets one after the other hold the files of both. -/
theorem readSet_append {first second : Record} {xs ys : List File}
    (readFirst : readSet first = some xs) (readSecond : readSet second = some ys) :
    readSet (first ++ second) = some (xs ++ ys) := by
  obtain ⟨firstRecords, firstMessages, firstFiles⟩ := Option.bind_eq_some_iff.mp readFirst
  obtain ⟨secondRecords, secondMessages, secondFiles⟩ := Option.bind_eq_some_iff.mp readSecond
  have messages : Record.messages (first ++ second) 1 = some (firstRecords ++ secondRecords) := by
    rw [Record.messages, Record.chunks, List.filterMap_append]
    exact mapM_append_eq_some firstMessages secondMessages
  rw [readSet, messages]
  exact mapM_append_eq_some firstFiles secondFiles

/-- Decoding succeeds exactly for well-formed bytes whose fields can be read. -/
theorem decode_eq_ok {α : Type} {type : MessageType} {read : Record → Option α} {malformed : Error}
    {bytes : Bytes} {result : α} : decode type read malformed bytes = .ok result ↔
      type.isWellFormed bytes = true ∧ ∃ record, Wire.fields bytes = some record ∧
        read record = some result := by
  rw [decode, ← Option.bind_eq_some_iff]
  by_cases fits : type.isWellFormed bytes = true
  · rw [if_pos fits]
    cases (Wire.fields bytes).bind read <;> simp [fits]
  · simp [fits]

end Typewire.Descriptor

namespace Typewire.Schema

/-- The files of two descriptor sets one after the other are those of the first, then those of the
second. -/
theorem descriptor_sets_concatenate {first second : Wire.Bytes} {xs ys : List File}
    (firstDecoded : decodeSet first = .ok xs) (secondDecoded : decodeSet second = .ok ys) :
    decodeSet (first ++ second) = .ok (xs ++ ys) := by
  obtain ⟨firstFiles, firstSet, firstLoaded⟩ := except_bind_eq_ok firstDecoded
  obtain ⟨secondFiles, secondSet, secondLoaded⟩ := except_bind_eq_ok secondDecoded
  obtain ⟨firstFits, firstRecord, firstRead, firstIs⟩ := Descriptor.decode_eq_ok.mp firstSet
  obtain ⟨secondFits, secondRecord, secondRead, secondIs⟩ := Descriptor.decode_eq_ok.mp secondSet
  -- Both sets together are read field by field, and their files loaded one by one.
  have decoded : Descriptor.decode .fileSet Descriptor.readSet .undecodableSet (first ++ second) =
      .ok (firstFiles ++ secondFiles) := Descriptor.decode_eq_ok.mpr
    ⟨Descriptor.MessageType.isWellFormedWithin_append firstFits secondFits, _,
      Wire.fieldsWithin_append firstRead secondRead, Descriptor.readSet_append firstIs secondIs⟩
  have loaded : (firstFiles ++ secondFiles).mapM File.load = .ok (xs ++ ys) := by
    rw [except_mapM_eq_ok_iff] at firstLoaded secondLoaded ⊢
    exact List.rel_append firstLoaded secondLoaded
  rw [decodeSet, decoded]
  exact loaded

/-- A descriptor set that ends with an unknown group, with another one under a long tag inside it. -/
def ebbSet : Wire.Bytes :=
  [0x0a, 0x0b, 0x0a, 0x09, 0x65, 0x62, 0x62, 0x2e, 0x70, 0x72, 0x6f, 0x74, 0x6f, 0x2b, 0xa3, 0x01,
   0xa4, 0x01, 0x2c]

/-- A descriptor set that starts with an unknown field under a long tag. -/
def floodSet : Wire.Bytes :=
  [0x85, 0x01, 0x01, 0x02, 0x03, 0x04, 0x0a, 0x0d, 0x0a, 0x0b, 0x66, 0x6c, 0x6f, 0x6f, 0x64, 0x2e,
   0x70, 0x72, 0x6f, 0x74, 0x6f]

theorem descriptor_sets_concatenate_at_the_turn :
    decodeSet ebbSet = .ok [{ name := "ebb.proto" }] ∧
    decodeSet floodSet = .ok [{ name := "flood.proto" }] ∧
    decodeSet (ebbSet ++ floodSet) = .ok [{ name := "ebb.proto" }, { name := "flood.proto" }] := by
  have ebb : decodeSet ebbSet = .ok [{ name := "ebb.proto" }] := rfl
  have flood : decodeSet floodSet = .ok [{ name := "flood.proto" }] := rfl
  exact ⟨ebb, flood, descriptor_sets_concatenate ebb flood⟩

end Typewire.Schema
