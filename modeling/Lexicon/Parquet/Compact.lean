import Lexicon.LittleEndian

/-!
# Compact records

What a table file says about itself is written as records whose fields have
numbers and types. A field tells how much higher its number is than that of the
field before. Integers are written seven bits to a byte, those near zero short
whatever their sign.
-/

namespace Lexicon.Parquet

/-- **A value as it is written in a record**, and its type. -/
structure Encoded where
  /-- The number of the type. -/
  type : Nat
  /-- The bytes of the value. -/
  bytes : List Byte
  deriving DecidableEq

namespace Encoded

/-- A number by sevens of bits, the lowest first. All bytes but the last have
their highest bit set. -/
def varint (n : Nat) : List Byte :=
  if n < 0x80 then [UInt8.ofNat n]
  else UInt8.ofNat (n % 0x80 + 0x80) :: varint (n / 0x80)
termination_by n
decreasing_by omega

/-- The number of an integer when they are counted from zero, taking negative
and positive ones in turn. -/
def zigzag : Int → Nat
  | .ofNat n => 2 * n
  | .negSucc n => 2 * n + 1

/-- An integer of 16 bits. -/
def int16 (i : Int) : Encoded := ⟨4, varint (zigzag i)⟩

/-- An integer of 32 bits. -/
def int32 (i : Int) : Encoded := ⟨5, varint (zigzag i)⟩

/-- An integer of 64 bits. -/
def int64 (i : Int) : Encoded := ⟨6, varint (zigzag i)⟩

/-- Bytes with their number in front. -/
def binary (data : List Byte) : Encoded := ⟨8, varint data.length ++ data⟩

/-- A truth value that is an item of a list. -/
def flag (b : Bool) : Encoded := ⟨1, [if b then 1 else 2]⟩

/-- A list of values of one type. -/
def list (type : Nat) (items : List Encoded) : Encoded :=
  let size := items.length
  let header :=
    if size < 15 then [UInt8.ofNat (size * 0x10 + type)]
    else UInt8.ofNat (0xF0 + type) :: varint size
  ⟨9, header ++ items.flatMap (·.bytes)⟩

/-- The fields of a record behind the field with the number `before`. -/
def fieldBytes (before : Nat) : List (Nat × Encoded) → List Byte
  | [] => [0]
  | (number, value) :: rest =>
    let step := number - before
    let header :=
      if 0 < step && step ≤ 15 then [UInt8.ofNat (step * 0x10 + value.type)]
      else UInt8.ofNat value.type :: varint (zigzag number)
    header ++ value.bytes ++ fieldBytes number rest

/-- **A record with its fields**, by rising numbers. -/
def record (fields : List (Nat × Encoded)) : Encoded :=
  ⟨12, fieldBytes 0 fields⟩

/-- The type of records. -/
def recordType : Nat := 12

/-- **Integers are told apart by their numbers.** -/
theorem zigzag_injective {i j : Int} (h : zigzag i = zigzag j) : i = j := by
  cases i <;> cases j <;> simp only [zigzag] at h <;> grind

end Encoded

end Lexicon.Parquet
