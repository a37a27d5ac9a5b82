import MorphReth.Rlp.Lists
import Mathlib.Algebra.Order.BigOperators.Group.List

set_option autoImplicit false

namespace MorphReth.Rlp

theorem to_digits_length_mono (smaller larger : Nat) (less : smaller ≤ larger) : (toDigits smaller).length ≤ (toDigits larger).length := by
  rw [to_digits_length_le]
  exact Nat.lt_of_le_of_lt less ((to_digits_length_le larger _).mp (Nat.le_refl _))

theorem header_length (list : Bool) (length : Nat) (fits : length < lengthLimit) :
    (Header.encode ⟨list, length⟩).length = if length < 56 then 1 else 1 + (toDigits length).length := by
  rw [Header.encode, List.length_cons, encodeLength]
  by_cases short : length < 56
  · rw [if_pos short, if_pos short]
    rfl
  · rw [if_neg short, if_pos fits, if_neg short, Nat.add_comm]

theorem header_length_mono (list : Bool) (smaller larger : Nat) (less : smaller ≤ larger) (fits : larger < lengthLimit) :
    (Header.encode ⟨list, smaller⟩).length ≤ (Header.encode ⟨list, larger⟩).length := by
  have digits := to_digits_length_mono smaller larger less
  rw [header_length list smaller (Nat.lt_of_le_of_lt less fits), header_length list larger fits]
  split
  · split
    · exact Nat.le_refl _
    · exact Nat.le_add_right _ _
  · rw [if_neg (by omega)]
    omega

-- A list grows with its payload.
theorem list_length_mono (smaller larger : Nat) (less : smaller ≤ larger) (fits : larger < lengthLimit) :
    (Header.encode ⟨true, smaller⟩).length + smaller ≤ (Header.encode ⟨true, larger⟩).length + larger :=
  Nat.add_le_add (header_length_mono true smaller larger less fits) less

section Codecs

variable {α β : Type}

-- Records behind a type byte, compared by their payloads.
theorem typed_payload (codec : Codec α) (canonical : codec.Canonical) (first : UInt8) (value : α) :
    codec.length value < (first :: codec.record.encode value).length := by
  rw [List.length_cons, ← canonical.record.length_encode]
  exact Nat.lt_succ_of_le (Nat.le_add_left _ _)

theorem typed_length_mono (left : Codec α) (right : Codec β) (leftCanonical : left.Canonical) (rightCanonical : right.Canonical)
    (first second : UInt8) (smaller : α) (larger : β) (less : left.length smaller ≤ right.length larger)
    (fits : (second :: right.record.encode larger).length < lengthLimit) :
    (first :: left.record.encode smaller).length ≤ (second :: right.record.encode larger).length := by
  have within := Nat.lt_trans (typed_payload right rightCanonical second larger) fits
  rw [List.length_cons, List.length_cons, ← leftCanonical.record.length_encode, ← rightCanonical.record.length_encode]
  exact Nat.succ_le_succ (list_length_mono _ _ less within)

theorem items_length_map (codec : Codec α) (change : α → α) (values : List α)
    (longer : ∀ value ∈ values, codec.length value ≤ codec.length (change value))
    (fits : codec.items.length (values.map change) < lengthLimit) : codec.items.length values ≤ codec.items.length (values.map change) := by
  have sums : (values.map codec.length).sum ≤ ((values.map change).map codec.length).sum := by
    rw [List.map_map]
    exact List.sum_le_sum longer
  have within : ((values.map change).map codec.length).sum < lengthLimit := Nat.lt_of_le_of_lt (Nat.le_add_left _ _) fits
  exact list_length_mono _ _ sums within

end Codecs

section Words

variable {width : Nat}

theorem single_to_digits (value : Nat) : single (toDigits value) = true ↔ 0 < value ∧ value < 0x80 := by
  rw [single_iff]
  constructor
  · rintro ⟨byte, digits, small⟩
    have read := of_digits_to_digits value
    rw [digits] at read
    have same : value = byte.toNat := by rw [← read]; simp [ofDigits]
    have positive : value ≠ 0 := fun zero => by simp [zero] at digits
    omega
  · rintro ⟨positive, small⟩
    have one : toDigits value = [UInt8.ofNat value] := by
      simp [toDigits, Nat.digits_of_lt 256 value (by omega) (by omega)]
    refine ⟨_, one, ?_⟩
    rw [UInt8.toNat_ofNat_of_lt' (by change value < 256; omega)]
    exact small

variable (value : BitVec width)

-- A number below 128 is its own byte, and zero is the empty string.
theorem uint_length_small (small : value.toNat < 0x80) : (uint width).length value = 1 := by
  change (if single (toDigits value.toNat) then 0 else (Header.encode ⟨false, (toDigits value.toNat).length⟩).length) +
    (toDigits value.toNat).length = 1
  by_cases zero : value.toNat = 0
  · rw [zero]
    rfl
  · have alone := (single_to_digits value.toNat).mpr ⟨Nat.pos_of_ne_zero zero, small⟩
    obtain ⟨byte, digits, _⟩ := (single_iff _).mp alone
    rw [if_pos alone, digits]
    rfl

theorem uint_length_large (large : 0x80 ≤ value.toNat) (narrow : (toDigits value.toNat).length < 56) :
    (uint width).length value = 1 + (toDigits value.toNat).length := by
  change (if single (toDigits value.toNat) then 0 else (Header.encode ⟨false, (toDigits value.toNat).length⟩).length) +
    (toDigits value.toNat).length = _
  rw [if_neg (fun alone => by have := (single_to_digits _).mp alone; omega),
    header_length false _ (Nat.lt_of_lt_of_le narrow length_limit_large), if_pos narrow]

theorem uint_length_le (count : Nat) (bound : value.toNat < 256 ^ count) (narrow : count < 56) : (uint width).length value ≤ 1 + count := by
  have digits := (to_digits_length_le value.toNat count).mpr bound
  by_cases small : value.toNat < 0x80
  · rw [uint_length_small value small]
    exact Nat.le_add_right _ _
  · rw [uint_length_large value (Nat.le_of_not_lt small) (by omega)]
    omega

theorem uint_length_pos (count : Nat) (bound : value.toNat < 256 ^ count) (narrow : count < 56) : 1 ≤ (uint width).length value := by
  have digits := (to_digits_length_le value.toNat count).mpr bound
  by_cases small : value.toNat < 0x80
  · rw [uint_length_small value small]
  · rw [uint_length_large value (Nat.le_of_not_lt small) (by omega)]
    exact Nat.le_add_right _ _

end Words

end MorphReth.Rlp
