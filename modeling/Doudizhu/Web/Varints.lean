import Doudizhu.Gateway.WireFormat
import Doudizhu.Web.Browser

/-! # Varints in the browser

`readVarint` on the bytes that proto3 writes for a number.  They are read to their end,
whatever the number is, but only 32 bits of it are kept: `wireNumber`.  Of a negative number
they are not the lowest 32.
-/

namespace Doudizhu.Web

open Gateway Script Proto3

/-! ## Places in the bytes -/

/-- The bytes from an index on. -/
def Ahead (bytes : Bytes) (index : Int) (rest : Bytes) : Prop :=
  ∃ front, bytes = front ++ rest ∧ index = front.length

namespace Ahead

variable {bytes first rest : Bytes} {byte : UInt8} {index : Int}

theorem skip (ahead : Ahead bytes index (first ++ rest)) :
    Ahead bytes (index + first.length) rest := by
  obtain ⟨front, rfl, rfl⟩ := ahead
  refine ⟨front ++ first, ?_, ?_⟩
  · rw [List.append_assoc]
  · rw [List.length_append, Nat.cast_add]

theorem next (ahead : Ahead bytes index (byte :: rest)) : Ahead bytes (index + 1) rest := by
  have single : Ahead bytes index ([byte] ++ rest) := ahead
  exact single.skip

theorem length_eq (ahead : Ahead bytes index rest) : (bytes.length : Int) = index + rest.length := by
  obtain ⟨front, rfl, rfl⟩ := ahead
  rw [List.length_append, Nat.cast_add]

theorem nonneg (ahead : Ahead bytes index rest) : 0 ≤ index := by
  obtain ⟨front, _, rfl⟩ := ahead
  exact Int.natCast_nonneg _

theorem byteAt_eq (ahead : Ahead bytes index (byte :: rest)) : byteAt bytes index = byte.toNat := by
  obtain ⟨front, rfl, rfl⟩ := ahead
  rw [byteAt, if_pos (Int.natCast_nonneg _), Int.toNat_natCast]
  simp

end Ahead

/-! ## Varints -/

/-- The loop of `readVarint` on the bytes of a varint. -/
def groupBits : Bytes → Nat → BitVec 32 → BitVec 32
  | [], _, value => value
  | byte :: bytes, shift, value =>
    groupBits bytes (shift + 7) (value ||| (BitVec.ofNat 32 (byte.toNat % 128) <<< (shift % 32)))

/-- What is read of a number. -/
def wireNumber (value : Nat) : Int := (groupBits (varint value) 0 0).toInt

variable {bytes rest : Bytes} {index : Int} {fuel : Nat}

theorem small_byte {value : Nat} (small : value < 128) : (UInt8.ofNat value).toNat = value := by
  rw [UInt8.toNat_ofNat']
  omega

theorem large_byte (value : Nat) : (UInt8.ofNat (value % 128 + 128)).toNat = value % 128 + 128 := by
  rw [UInt8.toNat_ofNat']
  omega

theorem readVarintFrom_varint {value remaining shift : Nat} {before : BitVec 32}
    (ahead : Ahead bytes index (varint value ++ rest)) (enough : (varint value).length ≤ remaining) :
    readVarintFrom bytes remaining index shift before =
      .returned ((groupBits (varint value) shift before).toInt, index + (varint value).length) := by
  induction value using Nat.strongRecOn generalizing remaining index shift before with
  | ind value inductionHypothesis =>
    cases remaining with
    | zero => exact absurd (List.eq_nil_of_length_eq_zero (Nat.le_zero.mp enough)) (varint_ne_nil value)
    | succ remaining =>
      rcases Nat.lt_or_ge value 128 with small | large
      · -- the last byte
        rw [varint_small small] at ahead ⊢
        have byte : byteAt bytes index = value := (ahead.byteAt_eq).trans (small_byte small)
        simp only [readVarintFrom, byte, if_pos small, groupBits, small_byte small, List.length_singleton,
          Nat.cast_one]
      · rw [varint_large large] at ahead enough ⊢
        have byte : byteAt bytes index = value % 128 + 128 := (ahead.byteAt_eq).trans (large_byte value)
        have more : ¬ value % 128 + 128 < 128 := by omega
        have smaller : value / 128 < value := by omega
        have others (grown : BitVec 32) :=
          @inductionHypothesis (value / 128) smaller (index + 1) remaining (shift + 7) grown ahead.next
            (Nat.le_of_succ_le_succ enough)
        simp only [readVarintFrom, byte, if_neg more, others, groupBits, large_byte, List.length_cons,
          Nat.cast_add, Nat.cast_one]
        rw [add_assoc, add_comm 1]

theorem readVarint_varint {value : Nat} (ahead : Ahead bytes index (varint value ++ rest)) :
    readVarint bytes index = .returned (wireNumber value, index + (varint value).length) := by
  apply readVarintFrom_varint ahead
  have length := ahead.length_eq
  rw [List.length_append] at length
  omega

/-! ## Numbers of 32 bits -/

/-- Seven more bits, above those that are there. -/
theorem or_group {low high shift : Nat} (below : low < 2 ^ shift) (fits : 2 ^ shift * high < 2 ^ 32) :
    BitVec.ofNat 32 low ||| (BitVec.ofNat 32 high <<< (shift % 32)) =
      BitVec.ofNat 32 (low + 2 ^ shift * high) := by
  rcases Nat.eq_zero_or_pos high with rfl | positive
  · simp
  · have power : 2 ^ shift < 2 ^ 32 := lt_of_le_of_lt (Nat.le_mul_of_pos_right _ positive) fits
    have count : shift < 32 := (Nat.pow_lt_pow_iff_right (by decide)).mp power
    have high32 : high < 2 ^ 32 := lt_of_le_of_lt (Nat.le_mul_of_pos_left _ (Nat.two_pow_pos shift)) fits
    -- below the next multiple of the power, which divides 2 ^ 32
    have total : low + 2 ^ shift * high < 2 ^ 32 := by
      have bound : 2 ^ 32 = 2 ^ shift * 2 ^ (32 - shift) := by rw [← Nat.pow_add]; congr 1; omega
      rw [bound] at fits ⊢
      have next : 2 ^ shift * (high + 1) ≤ 2 ^ shift * 2 ^ (32 - shift) :=
        Nat.mul_le_mul_left _ (Nat.lt_of_mul_lt_mul_left fits)
      rw [Nat.mul_succ] at next
      omega
    apply BitVec.eq_of_toNat_eq
    rw [BitVec.toNat_or, BitVec.toNat_shiftLeft, BitVec.toNat_ofNat, BitVec.toNat_ofNat,
      BitVec.toNat_ofNat, Nat.mod_eq_of_lt count, Nat.mod_eq_of_lt high32,
      Nat.mod_eq_of_lt (below.trans power), Nat.or_comm,
      PacketCodec.shift_or below (by rwa [Nat.mul_comm]), Nat.add_comm, Nat.mod_eq_of_lt total]

theorem groupBits_varint {value low shift : Nat} (below : low < 2 ^ shift)
    (fits : 2 ^ shift * value < 2 ^ 32) :
    groupBits (varint value) shift (BitVec.ofNat 32 low) = BitVec.ofNat 32 (low + 2 ^ shift * value) := by
  induction value using Nat.strongRecOn generalizing low shift with
  | ind value inductionHypothesis =>
    rcases Nat.lt_or_ge value 128 with small | large
    · rw [varint_small small]
      simp only [groupBits, small_byte small, Nat.mod_eq_of_lt small]
      exact or_group below fits
    · rw [varint_large large]
      have smaller : value / 128 < value := by omega
      -- the lowest seven bits go in here, the others seven places higher
      have split : 2 ^ shift * value = 2 ^ shift * (value % 128) + 2 ^ (shift + 7) * (value / 128) := by
        rw [Nat.pow_add, Nat.mul_assoc, ← Nat.mul_add]
        congr 1
        omega
      have byte : (value % 128 + 128) % 128 = value % 128 := by omega
      simp only [groupBits, large_byte, byte]
      rw [or_group below (by omega), inductionHypothesis _ smaller, split, Nat.add_assoc]
      · have group : 2 ^ shift * (value % 128) ≤ 2 ^ shift * 127 := Nat.mul_le_mul_left _ (by omega)
        rw [Nat.pow_add]
        omega
      · omega

theorem wireNumber_small {value : Nat} (small : value < 2 ^ 31) : wireNumber value = value := by
  have bits : groupBits (varint value) 0 0 = BitVec.ofNat 32 (0 + 2 ^ 0 * value) :=
    groupBits_varint (by decide) (by omega)
  rw [wireNumber, bits, Nat.pow_zero, Nat.one_mul, Nat.zero_add, BitVec.toInt_eq_toNat_of_lt,
    BitVec.toNat_ofNat]
  · omega
  · rw [BitVec.toNat_ofNat]; omega

/-- Larger numbers are read as signed ones. -/
theorem wireNumber_eq {value : Nat} : wireNumber value = value ↔ value < 2 ^ 31 := by
  constructor
  · intro same
    have most : wireNumber value < 2 ^ 31 := BitVec.toInt_lt
    rw [same] at most
    omega
  · exact wireNumber_small

/-! ## Negative numbers -/

theorem groupBits_large {value shift : Nat} (before : BitVec 32) (large : 128 ≤ value) :
    groupBits (varint value) shift before =
      groupBits (varint (value / 128)) (shift + 7)
        (before ||| (BitVec.ofNat 32 (value % 128) <<< (shift % 32))) := by
  have byte : (value % 128 + 128) % 128 = value % 128 := by omega
  rw [varint_large large, groupBits, large_byte, byte]

/-- All bits but the lowest three are set, so what is shifted above them is lost. -/
theorem or_high (low high : BitVec 32) {shift : Nat} (above : 3 ≤ shift) :
    (low ||| high <<< shift) ||| 0xFFFFFFF8#32 = low ||| 0xFFFFFFF8#32 := by
  apply BitVec.eq_of_getLsbD_eq
  intro place inside
  rw [BitVec.getLsbD_or, BitVec.getLsbD_or, BitVec.getLsbD_or, BitVec.getLsbD_shiftLeft]
  rcases Nat.lt_or_ge place 3 with below | set
  · simp [show place < shift by omega]
  · have ones : ∀ place, place < 32 → 3 ≤ place → (0xFFFFFFF8#32).getLsbD place = true := by decide
    rw [ones place inside set, Bool.or_true, Bool.or_true]

/-- The last five bytes of a negative number: their shifts begin again at 3. -/
theorem groupBits_sign (before : BitVec 32) :
    groupBits (varint (2 ^ 29 - 1)) 35 before = before ||| 0xFFFFFFF8#32 := by
  have bytes : varint (2 ^ 29 - 1) = [255, 255, 255, 255, 1] := by
    rfl
  rw [bytes]
  simp only [groupBits, BitVec.or_assoc]
  rfl

/-- Of a negative number only the lowest three bits are read. -/
theorem wireNumber_negative {value : Nat} (high : 2 ^ 64 - 2 ^ 31 ≤ value) (fits : value < 2 ^ 64) :
    wireNumber value = (value % 8 : Nat) - 8 := by
  have sign : value / 128 / 128 / 128 / 128 / 128 = 2 ^ 29 - 1 := by omega
  rw [wireNumber, groupBits_large _ (by omega), groupBits_large _ (by omega),
    groupBits_large _ (by omega), groupBits_large _ (by omega), groupBits_large _ (by omega), sign,
    groupBits_sign, or_high _ _ (by decide), or_high _ _ (by decide), or_high _ _ (by decide),
    or_high _ _ (by decide)]
  have lowest : ∀ group, group < 128 →
      (((0 : BitVec 32) ||| (BitVec.ofNat 32 group <<< (0 % 32))) ||| 0xFFFFFFF8#32).toInt = (group % 8 : Nat) - 8 := by
    decide
  rw [lowest (value % 128) (by omega)]
  omega

end Doudizhu.Web
