import SyntheticTable.Number.Single
import SyntheticTable.SemanticType

/-!
# Values of the fixed-width kinds

Each fixed-width kind has a type of values.  Ticks of the temporal kinds and
the unscaled digits of the decimal kinds are signed integers; floating-point
numbers are kept by their bits.

A value is stored as a record: its bits, least significant byte first, in as
many bytes as the kind is wide.
-/

namespace SyntheticTable

/-- The bytes of a number, least significant first, cut to a width. -/
def littleEndian : (width : Nat) → (number : Nat) → List UInt8
  | 0, _ => []
  | width + 1, number =>
      .ofNat (number % 256) :: littleEndian width (number / 256)

@[simp]
theorem length_littleEndian (width number : Nat) :
    (littleEndian width number).length = width := by
  induction width generalizing number with
  | zero => rfl
  | succ width inductionHypothesis =>
      simp [littleEndian, inductionHypothesis]

/-- Bytes tell apart the numbers that fit into them. -/
theorem littleEndian_injective
    {width left right : Nat}
    (leftFits : left < Nat.pow 256 width)
    (rightFits : right < Nat.pow 256 width)
    (equal : littleEndian width left = littleEndian width right) :
    left = right := by
  induction width generalizing left right with
  | zero => simp_all
  | succ width inductionHypothesis =>
      simp only [littleEndian, List.cons.injEq] at equal
      obtain ⟨firstEqual, restEqual⟩ := equal
      have first : left % 256 = right % 256 := by
        have := congrArg UInt8.toNat firstEqual
        simpa using this
      have rest : left / 256 = right / 256 :=
        inductionHypothesis
          (Nat.div_lt_of_lt_mul (Nat.mul_comm _ 256 ▸ leftFits))
          (Nat.div_lt_of_lt_mul (Nat.mul_comm _ 256 ▸ rightFits))
          restEqual
      omega

namespace FixedType

/-- The values of a kind. -/
abbrev Value : FixedType → Type
  | bool => Bool
  | int8 => Int8
  | int16 => Int16
  | int32 | decimal32 => Int32
  | int64 | decimal64 | timestamp _ | duration _ => Int64
  | uint8 => UInt8
  | uint16 => UInt16
  | uint32 => UInt32
  | uint64 => UInt64
  | float32 => Single
  | float64 => Double

instance (type : FixedType) : DecidableEq type.Value := by
  cases type <;> exact inferInstance

/-- The value that stands in the rows that have none: false or zero. -/
def defaultValue : (type : FixedType) → type.Value
  | bool => false
  | int8 => 0
  | int16 => 0
  | int32 | decimal32 => 0
  | int64 | decimal64 | timestamp _ | duration _ => 0
  | uint8 => 0
  | uint16 => 0
  | uint32 => 0
  | uint64 => 0
  | float32 => ⟨0⟩
  | float64 => ⟨0⟩

/-- The bits of a value as a number. -/
def bits : (type : FixedType) → type.Value → Nat
  | bool, value => value.toNat
  | int8, value => value.toUInt8.toNat
  | int16, value => value.toUInt16.toNat
  | int32, value | decimal32, value => value.toUInt32.toNat
  | int64, value | decimal64, value => value.toUInt64.toNat
  | timestamp _, value | duration _, value => value.toUInt64.toNat
  | uint8, value => value.toNat
  | uint16, value => value.toNat
  | uint32, value => value.toNat
  | uint64, value => value.toNat
  | float32, value => value.bits.toNat
  | float64, value => value.bits.toNat

/-- The bytes under which a value is stored. -/
def record (type : FixedType) (value : type.Value) : List UInt8 :=
  littleEndian type.width (type.bits value)

@[simp]
theorem length_record (type : FixedType) (value : type.Value) :
    (type.record value).length = type.width :=
  length_littleEndian _ _

end FixedType

end SyntheticTable
