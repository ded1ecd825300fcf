import Doudizhu.Lib.Proto3

/-! # Reading what was written

A proto3 message is read back as the fields that were written, whoever wrote them: numbers
that are not packed, and zeros, are read too.

* `readVarint_varint` — a number of 64 bits, and what follows it;
* `readField_written` — a field, and what follows it;
* `readFields_written` — a message.
-/

namespace Proto3

/-! ## Varints -/

theorem readVarintLoop_varint {value left : Nat} (fits : value < 128 ^ (left + 1)) (rest : List UInt8) :
    readVarintLoop (left + 1) (varint value ++ rest) = some (value, rest) := by
  induction left generalizing value with
  | zero =>
    have small : value < 128 := by simpa using fits
    have byte : (UInt8.ofNat value).toNat = value := by
      rw [UInt8.toNat_ofNat']
      omega
    rw [varint_small small, List.singleton_append, readVarintLoop, byte, if_pos small]
  | succ left inductionHypothesis =>
    rcases Nat.lt_or_ge value 128 with small | large
    · have byte : (UInt8.ofNat value).toNat = value := by
        rw [UInt8.toNat_ofNat']
        omega
      rw [varint_small small, List.singleton_append, readVarintLoop, byte, if_pos small]
    · have byte : (UInt8.ofNat (value % 128 + 128)).toNat = value % 128 + 128 := by
        rw [UInt8.toNat_ofNat']
        omega
      have high : value / 128 < 128 ^ (left + 1) := Nat.div_lt_of_lt_mul (by rwa [← Nat.pow_succ'])
      have more : ¬ value % 128 + 128 < 128 := by omega
      have whole : value % 128 + 128 - 128 + 128 * (value / 128) = value := by omega
      rw [varint_large large, List.cons_append, readVarintLoop, byte, if_neg more,
        inductionHypothesis high, Option.bind_eq_bind, Option.bind_some]
      dsimp only
      rw [whole]

theorem readVarint_varint {value : Nat} (fits : value < 2 ^ 64) (rest : List UInt8) :
    readVarint (varint value ++ rest) = some (value, rest) := by
  have most : (2 : Nat) ^ 64 ≤ 128 ^ 10 := by decide
  rw [readVarint, readVarintLoop_varint (fits.trans_le most), Option.bind_eq_bind, Option.bind_some]
  dsimp only
  rw [Nat.mod_eq_of_lt fits]

theorem readBytes_append (bytes rest : List UInt8) :
    readBytes bytes.length (bytes ++ rest) = some (bytes, rest) := by
  rw [readBytes, if_pos (by simp), List.splitAt_eq, List.take_left, List.drop_left]

/-! ## Fields -/

section Fields

variable {β : Type} {raw : β → List UInt8}

/-- What is read of a field that was written. -/
def Content.value (raw : β → List UInt8) : Content β → FieldValue
  | .number value => .number value
  | content => .bytes (content.payload raw)

/-- The number of a field is at most 2²⁹ - 1, and what it holds has its size in 64 bits. -/
def Readable (raw : β → List UInt8) : Nat × Content β → Prop
  | (number, content) => 0 < number ∧ number < 2 ^ 29 ∧
    match content with
    | .number value => value < 2 ^ 64
    | content => (content.payload raw).length < 2 ^ 64

theorem readField_written {number : Nat} {content : Content β} (readable : Readable raw (number, content))
    (rest : List UInt8) :
    readField (tag number content.wireType ++ content.write raw ++ rest) =
      some (number, content.value raw, rest) := by
  obtain ⟨positive, few, fits⟩ := readable
  have wire : content.wireType < 8 := by cases content <;> simp [Content.wireType]
  have key : 8 * number + content.wireType < 2 ^ 64 := by omega
  have split : (8 * number + content.wireType) / 8 = number := by omega
  have type : (8 * number + content.wireType) % 8 = content.wireType := by omega
  rw [readField, tag, List.append_assoc, readVarint_varint key, Option.bind_eq_bind, Option.bind_some]
  simp only [split, type, if_neg (Nat.ne_of_gt positive)]
  cases content with
  | number value =>
    simp only [Content.wireType, Content.write, readVarint_varint fits, Option.bind_some, Content.value]
  | packed values =>
    have length : (values.flatMap varint).length < 2 ^ 64 := fits
    simp only [Content.wireType, Content.write, Content.payload, List.append_assoc, readVarint_varint length,
      readBytes_append, Option.bind_eq_bind, Option.bind_some, Content.value]
  | bytes value =>
    have length : (raw value).length < 2 ^ 64 := fits
    simp only [Content.wireType, Content.write, Content.payload, List.append_assoc, readVarint_varint length,
      readBytes_append, Option.bind_eq_bind, Option.bind_some, Content.value]

theorem readFieldsLoop_written {fuel : Nat} {fields : List (Nat × Content β)}
    (enough : (writeFields raw fields).length ≤ fuel) (readable : ∀ field ∈ fields, Readable raw field) :
    readFieldsLoop fuel (writeFields raw fields) =
      some (fields.map fun (number, content) => (number, content.value raw)) := by
  induction fields generalizing fuel with
  | nil => cases fuel <;> rfl
  | cons field fields inductionHypothesis =>
    obtain ⟨number, content⟩ := field
    obtain ⟨first, bytes, tagged⟩ := List.exists_cons_of_ne_nil (varint_ne_nil (8 * number + content.wireType))
    have written : writeFields raw ((number, content) :: fields) =
        first :: (bytes ++ (content.write raw ++ writeFields raw fields)) := by
      rw [writeFields_cons, tag, tagged]
      simp
    have read := readField_written (readable _ List.mem_cons_self) (writeFields raw fields)
    rw [← writeFields_cons, written] at read
    rw [written, List.length_cons] at enough
    cases fuel with
    | zero => omega
    | succ fuel =>
      have rest : (writeFields raw fields).length ≤ fuel := by
        simp only [List.length_append] at enough
        omega
      have others := inductionHypothesis rest fun field member => readable field (List.mem_cons_of_mem _ member)
      simp only [written, readFieldsLoop, read, others, Option.bind_eq_bind, Option.bind_some, List.map_cons]

theorem readFields_written {fields : List (Nat × Content β)}
    (readable : ∀ field ∈ fields, Readable raw field) :
    readFields (writeFields raw fields) =
      some (fields.map fun (number, content) => (number, content.value raw)) :=
  readFieldsLoop_written le_rfl readable

end Fields

end Proto3
