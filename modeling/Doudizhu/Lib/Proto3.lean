import Mathlib.Data.List.Basic
import Mathlib.Tactic.Ring

/-! # The proto3 wire format

Messages are sequences of fields, each a tag and a value.  What is written is in canonical
form: a scalar with its default value is left out, and a repeated number is packed.  What is
read may be in any form that the format allows, with unknown fields skipped.
-/

namespace Proto3

/-! ## Varints -/

/-- Seven bits a byte, the lowest first.  Every byte but the last has the top bit. -/
def varintLoop : Nat → Nat → List UInt8
  | 0, value => [UInt8.ofNat value]
  | fuel + 1, value =>
    if value < 128 then [UInt8.ofNat value]
    else UInt8.ofNat (value % 128 + 128) :: varintLoop fuel (value / 128)

def varint (value : Nat) : List UInt8 := varintLoop value value

/-- More fuel changes nothing. -/
theorem varintLoop_fuel {value fuel : Nat} (enough : value ≤ fuel) :
    varintLoop fuel value = varint value := by
  unfold varint
  induction value using Nat.strongRecOn generalizing fuel with
  | ind value inductionHypothesis =>
    cases value with
    | zero => cases fuel <;> rfl
    | succ value =>
      cases fuel with
      | zero => exact absurd enough (Nat.not_succ_le_zero value)
      | succ fuel =>
        simp only [varintLoop]
        split
        · rfl
        · have smaller : (value + 1) / 128 < value + 1 := by omega
          have less : (value + 1) / 128 ≤ fuel := by omega
          have least : (value + 1) / 128 ≤ value := by omega
          rw [inductionHypothesis _ smaller less, inductionHypothesis _ smaller least]

theorem varint_small {value : Nat} (small : value < 128) : varint value = [UInt8.ofNat value] := by
  unfold varint
  cases value with
  | zero => rfl
  | succ value => rw [varintLoop, if_pos small]

theorem varint_large {value : Nat} (large : 128 ≤ value) :
    varint value = UInt8.ofNat (value % 128 + 128) :: varint (value / 128) := by
  unfold varint
  cases value with
  | zero => omega
  | succ value =>
    rw [varintLoop, if_neg (by omega), varintLoop_fuel (by omega), varint]

theorem varint_ne_nil (value : Nat) : varint value ≠ [] := by
  rcases Nat.lt_or_ge value 128 with small | large
  · simp [varint_small small]
  · simp [varint_large large]

/-! ## Writing fields -/

/-- The number of a field, with the wire type of its value. -/
def tag (number wireType : Nat) : List UInt8 := varint (8 * number + wireType)

/-- A field of type `uint32`, `uint64`, or an enumeration. -/
def uintField (number value : Nat) : List UInt8 :=
  if value = 0 then [] else tag number 0 ++ varint value

def boolField (number : Nat) (value : Bool) : List UInt8 := uintField number value.toNat

/-- A field of type `int32` or `int64`: two's complement in 64 bits. -/
def intField (number : Nat) (value : Int) : List UInt8 := uintField number (value % 2 ^ 64).toNat

/-- A field that is always written, such as an element of a repeated message. -/
def lengthField (number : Nat) (value : List UInt8) : List UInt8 :=
  tag number 2 ++ varint value.length ++ value

def stringField (number : Nat) (value : String) : List UInt8 :=
  if value = "" then [] else lengthField number value.toUTF8.data.toList

/-- A repeated field of type `uint32`. -/
def packedField (number : Nat) (values : List Nat) : List UInt8 :=
  if values = [] then [] else lengthField number (values.flatMap varint)

/-! ## Lengths -/

/-- A byte for each seven bits. -/
theorem varint_length_le {value count : Nat} (small : value < 128 ^ (count + 1)) :
    (varint value).length ≤ count + 1 := by
  induction count generalizing value with
  | zero => rw [varint_small (by omega), List.length_singleton]
  | succ count inductionHypothesis =>
    rcases Nat.lt_or_ge value 128 with least | large
    · rw [varint_small least, List.length_singleton]
      omega
    · have rest : value / 128 < 128 ^ (count + 1) := Nat.div_lt_of_lt_mul (by rwa [← Nat.pow_succ'])
      rw [varint_large large, List.length_cons]
      exact Nat.succ_le_succ (inductionHypothesis rest)

theorem tag_length {number wireType : Nat} (few : number < 16) (wire : wireType < 8) :
    (tag number wireType).length = 1 := by
  rw [tag, varint_small (by omega), List.length_singleton]

theorem uintField_length_le {number value count : Nat} (few : number < 16)
    (small : value < 128 ^ (count + 1)) : (uintField number value).length ≤ count + 2 := by
  have size := varint_length_le small
  unfold uintField
  split
  · simp
  · rw [List.length_append, tag_length few (by simp)]
    omega

theorem packedField_length_le {number : Nat} {values : List Nat} (few : number < 16)
    (small : ∀ value ∈ values, value < 128) (short : values.length < 128) :
    (packedField number values).length ≤ values.length + 2 := by
  have one : ∀ value ∈ values, (varint value).length = 1 := by
    intro value member
    rw [varint_small (small value member), List.length_singleton]
  have payload : (values.flatMap varint).length = values.length := by
    rw [List.length_flatMap, List.map_congr_left one]
    simp
  unfold packedField lengthField
  split
  · simp
  · simp only [List.length_append, tag_length few (by simp : 2 < 8), payload, varint_small short,
      List.length_singleton]
    omega

/-! ## Messages as fields -/

/-- What a field that is written holds.  A function of their own writes texts and messages. -/
inductive Content (β : Type) where
  | number (value : Nat)
  | packed (values : List Nat)
  | bytes (value : β)
deriving DecidableEq

namespace Content

variable {β : Type}

def wireType : Content β → Nat
  | .number _ => 0
  | .packed _ | .bytes _ => 2

/-- The bytes that the length in front of them counts. -/
def payload (raw : β → List UInt8) : Content β → List UInt8
  | .number _ => []
  | .packed values => values.flatMap varint
  | .bytes value => raw value

/-- What follows the tag. -/
def write (raw : β → List UInt8) : Content β → List UInt8
  | .number value => varint value
  | content => varint (content.payload raw).length ++ content.payload raw

end Content

section Fields

variable {β : Type}

def writeFields (raw : β → List UInt8) (fields : List (Nat × Content β)) : List UInt8 :=
  fields.flatMap fun (number, content) => tag number content.wireType ++ content.write raw

def uintFields (number value : Nat) : List (Nat × Content β) :=
  if value = 0 then [] else [(number, .number value)]

def packedFields (number : Nat) (values : List Nat) : List (Nat × Content β) :=
  if values = [] then [] else [(number, .packed values)]

def stringFields (number : Nat) (value : String) : List (Nat × Content (List UInt8)) :=
  if value = "" then [] else [(number, .bytes value.toUTF8.data.toList)]

theorem mem_uintFields {number value : Nat} {field : Nat × Content β} :
    field ∈ uintFields number value ↔ value ≠ 0 ∧ field = (number, .number value) := by
  unfold uintFields
  split <;> simp [*]

theorem mem_packedFields {number : Nat} {values : List Nat} {field : Nat × Content β} :
    field ∈ packedFields number values ↔ values ≠ [] ∧ field = (number, .packed values) := by
  unfold packedFields
  split <;> simp [*]

theorem mem_stringFields {number : Nat} {value : String} {field : Nat × Content (List UInt8)} :
    field ∈ stringFields number value ↔
      value ≠ "" ∧ field = (number, .bytes value.toUTF8.data.toList) := by
  unfold stringFields
  split <;> simp [*]

theorem foldl_uintFields {κ : Type} (one : κ → Nat × Content β → κ) (kept : κ) (number value : Nat) :
    (uintFields number value).foldl one kept =
      if value = 0 then kept else one kept (number, .number value) := by
  unfold uintFields
  split <;> rfl

variable (raw : β → List UInt8)

@[simp] theorem writeFields_nil : writeFields raw [] = [] := rfl

@[simp] theorem writeFields_cons (number : Nat) (content : Content β) (fields : List (Nat × Content β)) :
    writeFields raw ((number, content) :: fields) =
      tag number content.wireType ++ content.write raw ++ writeFields raw fields := by
  simp [writeFields]

@[simp] theorem writeFields_append (fields others : List (Nat × Content β)) :
    writeFields raw (fields ++ others) = writeFields raw fields ++ writeFields raw others :=
  List.flatMap_append

@[simp] theorem writeFields_uint (number value : Nat) :
    writeFields raw (uintFields number value) = uintField number value := by
  unfold uintFields uintField
  split <;> simp [Content.wireType, Content.write]

@[simp] theorem writeFields_packed (number : Nat) (values : List Nat) :
    writeFields raw (packedFields number values) = packedField number values := by
  unfold packedFields packedField lengthField
  split <;> simp [Content.wireType, Content.write, Content.payload]

@[simp] theorem writeFields_string (number : Nat) (value : String) :
    writeFields id (stringFields number value) = stringField number value := by
  unfold stringFields stringField lengthField
  split <;> simp [Content.wireType, Content.write, Content.payload]

end Fields

/-! ## Reading fields -/

/-- The value of a varint of at most so many bytes, and what follows it. -/
def readVarintLoop : Nat → List UInt8 → Option (Nat × List UInt8)
  | 0, _ => none
  | _, [] => none
  | left + 1, byte :: rest =>
    if byte.toNat < 128 then some (byte.toNat, rest)
    else do
      let (high, rest) ← readVarintLoop left rest
      some (byte.toNat - 128 + 128 * high, rest)

def readVarint (bytes : List UInt8) : Option (Nat × List UInt8) := do
  let (value, rest) ← readVarintLoop 10 bytes
  some (value % 2 ^ 64, rest)

inductive FieldValue where
  | number (value : Nat)
  | bytes (value : List UInt8)
  /-- Eight or four bytes. -/
  | fixed
deriving DecidableEq

/-- The first so many bytes, if there are as many. -/
def readBytes (length : Nat) (bytes : List UInt8) : Option (List UInt8 × List UInt8) :=
  if length ≤ bytes.length then some (bytes.splitAt length) else none

/-- The first field: its number, its value, and what follows.  Groups are not read. -/
def readField (bytes : List UInt8) : Option (Nat × FieldValue × List UInt8) := do
  let (key, rest) ← readVarint bytes
  let number := key / 8
  if number = 0 then none
  else match key % 8 with
    | 0 => do
      let (value, rest) ← readVarint rest
      some (number, .number value, rest)
    | 1 => do
      let (_, rest) ← readBytes 8 rest
      some (number, .fixed, rest)
    | 2 => do
      let (length, rest) ← readVarint rest
      let (value, rest) ← readBytes length rest
      some (number, .bytes value, rest)
    | 5 => do
      let (_, rest) ← readBytes 4 rest
      some (number, .fixed, rest)
    | _ => none

/-- At most so many fields; every one takes a byte at least. -/
def readFieldsLoop : Nat → List UInt8 → Option (List (Nat × FieldValue))
  | _, [] => some []
  | 0, _ :: _ => none
  | fuel + 1, bytes => do
    let (number, value, rest) ← readField bytes
    let fields ← readFieldsLoop fuel rest
    some ((number, value) :: fields)

def readFields (bytes : List UInt8) : Option (List (Nat × FieldValue)) :=
  readFieldsLoop bytes.length bytes

/-- At most so many numbers of a packed field. -/
def readNumbersLoop : Nat → List UInt8 → Option (List Nat)
  | _, [] => some []
  | 0, _ :: _ => none
  | fuel + 1, bytes => do
    let (value, rest) ← readVarint bytes
    let values ← readNumbersLoop fuel rest
    some (value :: values)

/-! ## The values of a message -/

/-- The value of a number that is not repeated: the last one, or 0. -/
def numberOf (number : Nat) (fields : List (Nat × FieldValue)) : Nat :=
  fields.foldl (fun current (other, value) =>
    match value with
    | .number value => if other = number then value else current
    | _ => current) 0

/-- The value of a text: the last one, or the empty one.  It has to be UTF-8. -/
def stringOf (number : Nat) (fields : List (Nat × FieldValue)) : Option String :=
  fields.foldlM (fun current (other, value) =>
    match value with
    | .bytes value => if other = number then String.fromUTF8? ⟨value.toArray⟩ else some current
    | _ => some current) ""

/-- All values of a repeated `uint32`, packed or not. -/
def numbersOf (number : Nat) (fields : List (Nat × FieldValue)) : Option (List Nat) := do
  let values ← fields.mapM fun (other, value) =>
    if other = number then
      match value with
      | .number value => some [value]
      | .bytes value => readNumbersLoop value.length value
      | .fixed => some []
    else some []
  some (values.flatten.map (· % 2 ^ 32))

end Proto3
