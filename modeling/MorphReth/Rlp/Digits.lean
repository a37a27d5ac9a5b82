import Mathlib.Data.Nat.Digits.Lemmas
import Mathlib.Tactic.NormNum

set_option autoImplicit false

namespace MorphReth.Rlp

abbrev Bytes := List UInt8

-- Big-endian bytes of a number without leading zeros; zero has no bytes.
def toDigits (value : Nat) : Bytes :=
  ((Nat.digits 256 value).map UInt8.ofNat).reverse

def ofDigits (digits : Bytes) : Nat :=
  Nat.ofDigits 256 (digits.reverse.map UInt8.toNat)

-- Big-endian bytes of a number left padded to a fixed width.
def toFixed (width value : Nat) : Bytes :=
  ((Nat.digitsAppend 256 width value).map UInt8.ofNat).reverse

theorem map_byte_nat (digits : List Nat) (bounded : ∀ digit ∈ digits, digit < 256) : (digits.map UInt8.ofNat).map UInt8.toNat = digits := by
  rw [List.map_map]
  conv_rhs => rw [← List.map_id digits]
  apply List.map_congr_left
  intro digit member
  exact UInt8.toNat_ofNat_of_lt (bounded digit member)

variable (digits : Bytes)

theorem map_nat_byte : (digits.map UInt8.toNat).map UInt8.ofNat = digits := by
  rw [List.map_map]
  conv_rhs => rw [← List.map_id digits]
  apply List.map_congr_left
  intro digit _
  exact UInt8.ofNat_toNat

theorem nat_bytes_bounded (digit : Nat) (member : digit ∈ digits.map UInt8.toNat) : digit < 256 := by
  obtain ⟨byte, _, same⟩ := List.mem_map.mp member
  rw [← same]
  exact byte.toNat_lt

@[simp] theorem of_digits_to_digits (value : Nat) : ofDigits (toDigits value) = value := by
  have bounded : ∀ digit ∈ Nat.digits 256 value, digit < 256 :=
    fun digit member => Nat.digits_lt_base (by norm_num) member
  rw [ofDigits, toDigits, List.reverse_reverse, map_byte_nat _ bounded, Nat.ofDigits_digits]

@[simp] theorem to_digits_zero : toDigits 0 = [] := by
  simp [toDigits]

theorem to_digits_eq_nil (value : Nat) : toDigits value = [] ↔ value = 0 := by
  constructor
  · intro empty
    have read := of_digits_to_digits value
    rw [empty] at read
    exact read.symm
  · intro zero
    rw [zero, to_digits_zero]

theorem to_digits_head (value : Nat) (byte : UInt8) (tail : Bytes) (digits : toDigits value = byte :: tail) : byte ≠ 0 := by
  have nonzero : value ≠ 0 := by
    intro zero
    rw [zero, to_digits_zero] at digits
    cases digits
  have shape : Nat.digits 256 value = ((byte :: tail).map UInt8.toNat).reverse := by
    have bounded : ∀ digit ∈ Nat.digits 256 value, digit < 256 :=
      fun digit member => Nat.digits_lt_base (by norm_num) member
    have mapped := congrArg (fun bytes => (bytes.map UInt8.toNat).reverse) digits
    simpa only [toDigits, List.map_reverse, List.reverse_reverse, map_byte_nat _ bounded] using mapped
  have last := Nat.getLast_digit_ne_zero 256 nonzero
  have reached : (Nat.digits 256 value).getLast? = some byte.toNat := by
    rw [shape, List.getLast?_reverse]
    rfl
  intro zero
  apply last
  rw [List.getLast?_eq_some_getLast (Nat.digits_ne_nil_iff_ne_zero.mpr nonzero)] at reached
  rw [Option.some.inj reached, zero]
  rfl

theorem to_digits_of_digits (canonical : digits.head? ≠ some 0) : toDigits (ofDigits digits) = digits := by
  rw [toDigits, ofDigits, Nat.digits_ofDigits 256 (by norm_num)]
  · rw [map_nat_byte, List.reverse_reverse]
  · intro digit member
    exact nat_bytes_bounded digits.reverse digit member
  · intro nonempty zero
    cases digits with
    | nil => exact nonempty rfl
    | cons byte tail =>
        apply canonical
        have last : (((byte :: tail).reverse).map UInt8.toNat).getLast nonempty = byte.toNat := by
          simp
        rw [last] at zero
        have : byte = 0 := UInt8.toNat_inj.mp zero
        rw [this]
        rfl

theorem to_digits_length_le (value width : Nat) : (toDigits value).length ≤ width ↔ value < 256 ^ width := by
  rw [toDigits, List.length_reverse, List.length_map]
  exact Nat.digits_length_le_iff (by norm_num) value

theorem to_fixed_length (width value : Nat) (bound : value < 256 ^ width) : (toFixed width value).length = width := by
  rw [toFixed, List.length_reverse, List.length_map]
  exact Nat.length_digitsAppend (by norm_num) width bound

@[simp] theorem of_digits_to_fixed (width value : Nat) : ofDigits (toFixed width value) = value := by
  have bounded : ∀ digit ∈ Nat.digitsAppend 256 width value, digit < 256 :=
    fun digit member => Nat.lt_of_mem_digitsAppend (by norm_num) width digit member
  rw [ofDigits, toFixed, List.reverse_reverse, map_byte_nat _ bounded, Nat.digitsAppend, Nat.ofDigits_append_replicate_zero,
    Nat.ofDigits_digits]

theorem to_fixed_of_digits : toFixed digits.length (ofDigits digits) = digits := by
  have valid : ((digits.reverse).map UInt8.toNat).length = digits.length ∧
      ∀ digit ∈ (digits.reverse).map UInt8.toNat, digit < 256 := by
    constructor
    · simp
    · exact nat_bytes_bounded digits.reverse
  have inverse := (Nat.setInvOn_digitsAppend_ofDigits (by norm_num : 1 < 256) digits.length).1 valid
  rw [toFixed, ofDigits, inverse, map_nat_byte, List.reverse_reverse]

theorem of_digits_lt : ofDigits digits < 256 ^ digits.length := by
  have bound := Nat.ofDigits_lt_base_pow_length (by norm_num : 1 < 256) (nat_bytes_bounded digits.reverse)
  simpa [ofDigits] using bound

end MorphReth.Rlp
