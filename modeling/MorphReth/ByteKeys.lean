import MorphReth.Rlp.Digits
import Mathlib.Data.List.Lex

set_option autoImplicit false

namespace MorphReth

open Rlp

-- A key of an ordered store, compared byte by byte; a shorter key comes before
-- its extensions.
structure ByteKey where
  bytes : Bytes
  deriving Repr

def ByteKey.digits (key : ByteKey) : List Nat := key.bytes.map UInt8.toNat

theorem byte_key_digits_injective : Function.Injective ByteKey.digits := by
  intro left right same
  obtain ⟨leftBytes⟩ := left
  obtain ⟨rightBytes⟩ := right
  rw [ByteKey.mk.injEq]
  exact List.map_injective_iff.mpr (fun _ _ equal => UInt8.toNat_inj.mp equal) same

instance byteKeyOrder : LinearOrder ByteKey :=
  LinearOrder.lift' ByteKey.digits byte_key_digits_injective

theorem byte_key_lt (left right : Bytes) : ByteKey.mk left < ByteKey.mk right ↔ left.map UInt8.toNat < right.map UInt8.toNat := Iff.rfl

theorem append_lt_append (left right leftTail rightTail : List Nat) (same : left.length = right.length) :
    left ++ leftTail < right ++ rightTail ↔ left < right ∨ left = right ∧ leftTail < rightTail := by
  induction left generalizing right with
  | nil =>
      cases right with
      | nil => simp
      | cons head tail => cases same
  | cons first rest ih =>
      cases right with
      | nil => cases same
      | cons head tail =>
          have shorter := ih tail (Nat.succ.inj same)
          simp only [List.cons_append, List.cons_lt_cons_iff, shorter, List.cons.injEq]
          constructor
          · rintro (less | ⟨equal, less | ⟨tails, last⟩⟩)
            · exact .inl (.inl less)
            · exact .inl (.inr ⟨equal, less⟩)
            · exact .inr ⟨⟨equal, tails⟩, last⟩
          · rintro ((less | ⟨equal, less⟩) | ⟨⟨equal, tails⟩, last⟩)
            · exact .inl less
            · exact .inr ⟨equal, .inl less⟩
            · exact .inr ⟨equal, .inr ⟨tails, last⟩⟩

theorem of_digits_cons (byte : UInt8) (rest : Bytes) : ofDigits (byte :: rest) = byte.toNat * 256 ^ rest.length + ofDigits rest := by
  simp only [ofDigits, List.reverse_cons, List.map_append, List.map_cons, List.map_nil, Nat.ofDigits_append, List.length_map,
    List.length_reverse, Nat.ofDigits_singleton]
  rw [Nat.add_comm, Nat.mul_comm]

-- Byte strings of one length are ordered as the numbers they write.
theorem digits_lt (left right : Bytes) (same : left.length = right.length) :
    left.map UInt8.toNat < right.map UInt8.toNat ↔ ofDigits left < ofDigits right := by
  induction left generalizing right with
  | nil =>
      cases right with
      | nil => simp
      | cons head tail => cases same
  | cons first rest ih =>
      cases right with
      | nil => cases same
      | cons head tail =>
          have equal : rest.length = tail.length := Nat.succ.inj same
          have firstBound := of_digits_lt rest
          have headBound := of_digits_lt tail
          rw [List.map_cons, List.map_cons, List.cons_lt_cons_iff, ih tail equal, of_digits_cons, of_digits_cons, equal]
          rw [equal] at firstBound
          constructor
          · rintro (less | ⟨heads, less⟩)
            · have room := Nat.mul_le_mul_right (256 ^ tail.length) (Nat.succ_le_of_lt less)
              rw [Nat.succ_mul] at room
              omega
            · rw [heads]
              omega
          · intro less
            by_cases heads : first.toNat = head.toNat
            · rw [heads] at less
              exact .inr ⟨heads, by omega⟩
            · refine .inl (Nat.lt_of_not_le (fun above => ?_))
              have room := Nat.mul_le_mul_right (256 ^ tail.length) (Nat.succ_le_of_lt (Nat.lt_of_le_of_ne above (Ne.symm heads)))
              rw [Nat.succ_mul] at room
              omega

section Fixed

variable (width left right : Nat) (leftBound : left < 256 ^ width) (rightBound : right < 256 ^ width)
include leftBound rightBound

theorem fixed_lengths : ((toFixed width left).map UInt8.toNat).length = ((toFixed width right).map UInt8.toNat).length := by
  rw [List.length_map, List.length_map, to_fixed_length width left leftBound, to_fixed_length width right rightBound]

theorem fixed_lt : (toFixed width left).map UInt8.toNat < (toFixed width right).map UInt8.toNat ↔ left < right := by
  rw [digits_lt, of_digits_to_fixed, of_digits_to_fixed]
  rw [to_fixed_length width left leftBound, to_fixed_length width right rightBound]

omit leftBound rightBound in
theorem fixed_inj : (toFixed width left).map UInt8.toNat = (toFixed width right).map UInt8.toNat ↔ left = right := by
  constructor
  · intro same
    have bytes : toFixed width left = toFixed width right :=
      List.map_injective_iff.mpr (fun _ _ equal => UInt8.toNat_inj.mp equal) same
    have read := congrArg ofDigits bytes
    rwa [of_digits_to_fixed, of_digits_to_fixed] at read
  · intro same
    rw [same]

-- A fixed-width field decides before the bytes behind it.
theorem field_lt (leftTail rightTail : Bytes) :
    (toFixed width left ++ leftTail).map UInt8.toNat < (toFixed width right ++ rightTail).map UInt8.toNat ↔
      left < right ∨ left = right ∧ leftTail.map UInt8.toNat < rightTail.map UInt8.toNat := by
  rw [List.map_append, List.map_append, append_lt_append _ _ _ _ (fixed_lengths width left right leftBound rightBound),
    fixed_lt width left right leftBound rightBound, fixed_inj]

end Fixed

end MorphReth
