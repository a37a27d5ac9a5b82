import MorphReth.Rlp.Items
import Mathlib.Logic.Nontrivial.Basic

set_option autoImplicit false

namespace MorphReth.Rlp

def decodeListHeader : Decoder Nat := do
  let header ← (Header.decode : Decoder Header)
  if header.list = false then throw .unexpectedString
  else pure header.payloadLength

theorem list_header_ok (buf : Bytes) (length : Nat) (rest : Bytes) :
    decodeListHeader.run buf = .ok (length, rest) ↔ buf = Header.encode ⟨true, length⟩ ++ rest ∧ length ≤ rest.length := by
  rw [decodeListHeader, Decoder.bind_ok]
  constructor
  · rintro ⟨⟨list, found⟩, mid, read, completed⟩
    rw [Decoder.guard_ok] at completed
    obtain ⟨isList, completed⟩ := completed
    rw [Bool.not_eq_false] at isList
    simp only at isList
    rw [isList] at read
    rw [Decoder.pure_ok] at completed
    obtain ⟨lengthEq, restEq⟩ := Prod.mk.inj completed
    simp only at lengthEq
    rw [← lengthEq, ← restEq] at read
    exact (header_list_ok buf length rest).mp read
  · intro shape
    exact ⟨⟨true, length⟩, rest, (header_list_ok buf length rest).mpr shape, rfl⟩

section Pair

variable {α β : Type}

def Codec.pair (left : Codec α) (right : Codec β) : Codec (α × β) where
  encode value := left.encode value.1 ++ right.encode value.2
  decode := do
    let first ← left.decode
    let second ← right.decode
    pure (first, second)
  length value := left.length value.1 + right.length value.2

theorem Codec.Canonical.pair {left : Codec α} {right : Codec β} (leftCanonical : left.Canonical)
    (rightCanonical : right.Canonical) : (left.pair right).Canonical where
  decode_encode value rest := by
    rw [Codec.pair, List.append_assoc, leftCanonical.bind_encode, rightCanonical.bind_encode]
    rfl
  encode_decode buf value rest accepted := by
    rw [Codec.pair, Decoder.bind_ok] at accepted
    obtain ⟨first, mid, firstRead, accepted⟩ := accepted
    rw [Decoder.bind_ok] at accepted
    obtain ⟨second, tail, secondRead, completed⟩ := accepted
    rw [Decoder.pure_ok] at completed
    cases completed
    rw [leftCanonical.encode_decode buf first mid firstRead, rightCanonical.encode_decode mid second rest secondRead]
    exact (List.append_assoc _ _ _).symm
  length_encode value := by
    simp only [Codec.pair, List.length_append, leftCanonical.length_encode, rightCanonical.length_encode]

end Pair

section Record

variable {α : Type}

-- Fields inside a list header that has to be consumed exactly.
def Codec.record (codec : Codec α) : Codec α where
  encode value := Header.encode ⟨true, codec.length value⟩ ++ codec.encode value
  decode := do
    let length ← decodeListHeader
    let before ← get
    let value ← codec.decode
    let after ← get
    if after.length + length ≠ before.length then throw (.listLengthMismatch length (before.length - after.length))
    else pure value
  length value := (Header.encode ⟨true, codec.length value⟩).length + codec.length value

theorem record_decode_ok (codec : Codec α) (buf : Bytes) (value : α) (rest : Bytes) :
    codec.record.decode.run buf = .ok (value, rest) ↔
      ∃ length mid, decodeListHeader.run buf = .ok (length, mid) ∧ codec.decode.run mid = .ok (value, rest) ∧
        rest.length + length = mid.length := by
  rw [Codec.record, Decoder.bind_ok]
  constructor
  · rintro ⟨length, mid, header, accepted⟩
    rw [Decoder.bind_ok] at accepted
    obtain ⟨before, _, got, accepted⟩ := accepted
    cases got
    rw [Decoder.bind_ok] at accepted
    obtain ⟨found, tail, fields, accepted⟩ := accepted
    rw [Decoder.bind_ok] at accepted
    obtain ⟨after, _, got, accepted⟩ := accepted
    cases got
    rw [Decoder.guard_ok, Decoder.pure_ok, not_not] at accepted
    obtain ⟨exactLength, same⟩ := accepted
    cases same
    exact ⟨length, mid, header, fields, exactLength⟩
  · rintro ⟨length, mid, header, fields, exactLength⟩
    refine ⟨length, mid, header, ?_⟩
    rw [Decoder.run_bind_of_ok _ _ mid mid mid rfl, Decoder.run_bind_of_ok _ _ mid rest value fields,
      Decoder.run_bind_of_ok _ _ rest rest rest rfl, Decoder.guard_ok, Decoder.pure_ok, not_not]
    exact ⟨exactLength, rfl⟩

theorem Codec.Canonical.record {codec : Codec α} (canonical : codec.Canonical) : codec.record.Canonical where
  decode_encode value rest := by
    rw [record_decode_ok]
    refine ⟨codec.length value, codec.encode value ++ rest, ?_, canonical.decode_encode value rest, ?_⟩
    · rw [list_header_ok]
      refine ⟨by rw [Codec.record, List.append_assoc], ?_⟩
      rw [canonical.length_encode, List.length_append]
      omega
    · rw [canonical.length_encode, List.length_append, Nat.add_comm]
  encode_decode buf value rest accepted := by
    obtain ⟨length, mid, header, fields, exactLength⟩ := (record_decode_ok codec buf value rest).mp accepted
    obtain ⟨shape, _⟩ := (list_header_ok buf length mid).mp header
    have fieldShape := canonical.encode_decode mid value rest fields
    have lengthEq : length = codec.length value := by
      rw [canonical.length_encode]
      rw [fieldShape, List.length_append] at exactLength
      omega
    rw [shape, fieldShape, lengthEq, Codec.record, List.append_assoc]
  length_encode value := by
    simp only [Codec.record, List.length_append, canonical.length_encode]

end Record

section Items

variable {α : Type}

-- Items are read until the payload is used up; every item takes at least one
-- byte, so the payload length bounds the number of rounds.
def decodeItems (codec : Codec α) : Nat → Bytes → Except RlpError (List α)
  | _, [] => .ok []
  | 0, _ :: _ => .error .unexpectedLength
  | rounds + 1, byte :: tail => match codec.decode.run (byte :: tail) with
      | .error error => .error error
      | .ok (value, rest) => match decodeItems codec rounds rest with
          | .error error => .error error
          | .ok values => .ok (value :: values)

def Codec.items (codec : Codec α) : Codec (List α) where
  encode values := Header.encode ⟨true, (values.map codec.length).sum⟩ ++ values.flatMap codec.encode
  decode := do
    let length ← decodeListHeader
    let buf ← get
    match decodeItems codec length (buf.take length) with
    | .error error => throw error
    | .ok values =>
        set (buf.drop length)
        pure values
  length values := (Header.encode ⟨true, (values.map codec.length).sum⟩).length + (values.map codec.length).sum

theorem decode_items_encode [Nontrivial α] (codec : Codec α) (canonical : codec.Canonical) (values : List α) (rounds : Nat)
    (enough : (values.flatMap codec.encode).length ≤ rounds) : decodeItems codec rounds (values.flatMap codec.encode) = .ok values := by
  induction values generalizing rounds with
  | nil => cases rounds <;> rfl
  | cons value values hypothesis =>
      rw [List.flatMap_cons] at enough ⊢
      rw [List.length_append] at enough
      have nonempty := canonical.encode_ne_nil value
      have positive := List.length_pos_of_ne_nil nonempty
      have read := canonical.decode_encode value (values.flatMap codec.encode)
      cases shape : codec.encode value ++ values.flatMap codec.encode with
      | nil => exact absurd (List.append_eq_nil_iff.mp shape).1 nonempty
      | cons byte tail =>
          cases rounds with
          | zero => omega
          | succ rounds =>
              rw [shape] at read
              rw [decodeItems, read]
              simp only
              rw [hypothesis rounds (by omega)]

theorem decode_items_sound (codec : Codec α) (canonical : codec.Canonical) (rounds : Nat) (buf : Bytes) (values : List α)
    (read : decodeItems codec rounds buf = .ok values) : buf = values.flatMap codec.encode := by
  induction rounds generalizing buf values with
  | zero =>
      cases buf with
      | nil => cases read; rfl
      | cons byte tail => cases read
  | succ rounds hypothesis =>
      cases buf with
      | nil => cases read; rfl
      | cons byte tail =>
          rw [decodeItems] at read
          cases first : codec.decode.run (byte :: tail) with
          | error error => rw [first] at read; cases read
          | ok pair =>
              obtain ⟨value, rest⟩ := pair
              rw [first] at read
              simp only at read
              cases others : decodeItems codec rounds rest with
              | error error => rw [others] at read; cases read
              | ok found =>
                  rw [others] at read
                  cases read
                  rw [canonical.encode_decode (byte :: tail) value rest first, hypothesis rest found others, List.flatMap_cons]

theorem items_length (codec : Codec α) (canonical : codec.Canonical) (values : List α) :
    (values.map codec.length).sum = (values.flatMap codec.encode).length := by
  induction values with
  | nil => rfl
  | cons value values hypothesis =>
      rw [List.map_cons, List.sum_cons, List.flatMap_cons, List.length_append, hypothesis, canonical.length_encode]

theorem Codec.Canonical.items [Nontrivial α] {codec : Codec α} (canonical : codec.Canonical) : codec.items.Canonical where
  decode_encode values rest := by
    have length := items_length codec canonical values
    have header : decodeListHeader.run (codec.items.encode values ++ rest) =
        .ok ((values.map codec.length).sum, values.flatMap codec.encode ++ rest) := by
      rw [list_header_ok]
      refine ⟨by rw [Codec.items, List.append_assoc], ?_⟩
      rw [List.length_append]
      omega
    have split : ((values.flatMap codec.encode) ++ rest).take (values.map codec.length).sum = values.flatMap codec.encode ∧
        ((values.flatMap codec.encode) ++ rest).drop (values.map codec.length).sum = rest := by
      rw [length]
      exact ⟨List.take_left, List.drop_left⟩
    change (decodeListHeader >>= _).run _ = _
    rw [Decoder.run_bind_of_ok _ _ _ _ _ header, Decoder.run_bind_of_ok _ _ _ _ _ (Decoder.get_run _), split.1, split.2,
      decode_items_encode codec canonical values _ (by omega)]
    rfl
  encode_decode buf values rest accepted := by
    rw [Codec.items, Decoder.bind_ok] at accepted
    obtain ⟨length, mid, header, accepted⟩ := accepted
    rw [Decoder.bind_ok] at accepted
    obtain ⟨_, _, got, accepted⟩ := accepted
    cases got
    obtain ⟨shape, present⟩ := (list_header_ok buf length mid).mp header
    cases inner : decodeItems codec length (mid.take length) with
    | error error => rw [inner] at accepted; cases accepted
    | ok found =>
        rw [inner] at accepted
        cases accepted
        have payload := decode_items_sound codec canonical length (mid.take length) values inner
        have lengthEq : (values.map codec.length).sum = length := by
          rw [items_length codec canonical, ← payload, List.length_take]
          omega
        change buf = (Header.encode ⟨true, (values.map codec.length).sum⟩ ++ values.flatMap codec.encode) ++ mid.drop length
        rw [shape, lengthEq, ← payload, List.append_assoc, List.take_append_drop]
  length_encode values := by
    simp only [Codec.items, List.length_append, items_length codec canonical]

end Items

end MorphReth.Rlp
