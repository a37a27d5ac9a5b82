import MorphReth.Rlp.Codec

set_option autoImplicit false

namespace MorphReth.Rlp

def single (payload : Bytes) : Bool :=
  match payload with
  | [byte] => byte.toNat < 0x80
  | _ => false

def bytes : Codec Bytes where
  encode payload := (if single payload then [] else Header.encode ⟨false, payload.length⟩) ++ payload
  decode := do
    let header ← (Header.decode : Decoder Header)
    if header.list then throw .unexpectedList
    else
      let buf ← get
      set (buf.drop header.payloadLength)
      pure (buf.take header.payloadLength)
  length payload := (if single payload then 0 else (Header.encode ⟨false, payload.length⟩).length) + payload.length

theorem single_iff (payload : Bytes) : single payload = true ↔ ∃ byte, payload = [byte] ∧ byte.toNat < 0x80 := by
  match payload with
  | [] => simp [single]
  | [byte] => simp [single]
  | _ :: _ :: _ => simp [single]

theorem bytes_encode (payload : Bytes) :
    bytes.encode payload = (if single payload then [] else Header.encode ⟨false, payload.length⟩) ++ payload := rfl

theorem bytes_decode_header (buf : Bytes) (payload : Bytes) (rest : Bytes) :
    bytes.decode.run buf = .ok (payload, rest) ↔
      ∃ length mid, Header.decode buf = .ok (⟨false, length⟩, mid) ∧ payload = mid.take length ∧ rest = mid.drop length := by
  rw [bytes, Decoder.bind_ok]
  constructor
  · rintro ⟨⟨list, length⟩, mid, read, completed⟩
    rw [Decoder.guard_ok] at completed
    obtain ⟨isString, completed⟩ := completed
    rw [Bool.not_eq_true] at isString
    cases completed
    refine ⟨length, mid, ?_, rfl, rfl⟩
    rw [← isString]
    exact read
  · rintro ⟨length, mid, read, payload_eq, rest_eq⟩
    refine ⟨⟨false, length⟩, mid, read, ?_⟩
    rw [payload_eq, rest_eq]
    rfl

theorem bytes_canonical : bytes.Canonical where
  decode_encode payload rest := by
    rw [bytes_decode_header]
    by_cases isSingle : single payload = true
    · obtain ⟨byte, shape, small⟩ := (single_iff payload).mp isSingle
      refine ⟨1, payload ++ rest, ?_, by rw [shape]; rfl, by rw [shape]; rfl⟩
      rw [bytes_encode, if_pos isSingle, List.nil_append, shape, List.singleton_append, Header.decode, if_pos small]
    · refine ⟨payload.length, payload ++ rest, ?_, by rw [List.take_left], by rw [List.drop_left]⟩
      rw [bytes_encode, if_neg isSingle, List.append_assoc]
      apply header_decode_encode
      · rw [List.length_append]; omega
      · intro _ one next member
        obtain ⟨byte, shape⟩ := List.length_eq_one_iff.mp one
        rw [shape] at member
        cases member
        by_contra small
        exact isSingle ((single_iff payload).mpr ⟨_, shape, by omega⟩)
  encode_decode buf payload rest read := by
    obtain ⟨length, mid, header, payload_eq, rest_eq⟩ := (bytes_decode_header buf payload rest).mp read
    have joined : payload ++ rest = mid := by rw [payload_eq, rest_eq, List.take_append_drop]
    rcases header_decode_sound buf false length mid header with ⟨_, one, same, next, member, small⟩ | ⟨shape, present, canonical⟩
    · have isSingle : single payload = true := by
        rw [single_iff]
        refine ⟨next, ?_, small⟩
        cases mid with
        | nil => cases member
        | cons byte tail =>
            cases member
            rw [payload_eq, one]
            rfl
      rw [bytes_encode, if_pos isSingle, List.nil_append, joined, same]
    · have lengthEq : payload.length = length := by rw [payload_eq, List.length_take]; omega
      have notSingle : ¬single payload = true := by
        intro isSingle
        obtain ⟨byte, byteShape, small⟩ := (single_iff payload).mp isSingle
        have one : length = 1 := by rw [← lengthEq, byteShape]; rfl
        have := canonical rfl one byte (by rw [← joined, byteShape]; rfl)
        omega
      rw [bytes_encode, if_neg notSingle, lengthEq, List.append_assoc, joined, shape]
  length_encode payload := by
    by_cases isSingle : single payload = true
    · simp [bytes, isSingle]
    · simp [bytes, isSingle]

-- A partial bijection with a smaller set of values: refused images have no
-- encoding of their own and are never decoded.
def Codec.restrict {α β : Type} (codec : Codec α) (embed : β → α) (read : α → Except RlpError β) : Codec β where
  encode value := codec.encode (embed value)
  decode := do
    let raw ← codec.decode
    match read raw with
    | .error error => throw error
    | .ok value => pure value
  length value := codec.length (embed value)

theorem Codec.Canonical.restrict {α β : Type} {codec : Codec α} (canonical : codec.Canonical) (embed : β → α)
    (read : α → Except RlpError β) (readEmbed : ∀ value, read (embed value) = .ok value)
    (embedRead : ∀ raw value, read raw = .ok value → raw = embed value) : (codec.restrict embed read).Canonical where
  decode_encode value rest := by
    rw [Codec.restrict, canonical.bind_encode, readEmbed]
    rfl
  encode_decode buf value rest accepted := by
    rw [Codec.restrict, Decoder.bind_ok] at accepted
    obtain ⟨raw, mid, decoded, completed⟩ := accepted
    cases result : read raw with
    | error error => rw [result] at completed; cases completed
    | ok found =>
        rw [result, Decoder.pure_ok] at completed
        cases completed
        have shape := canonical.encode_decode buf raw rest decoded
        rw [embedRead raw value result] at shape
        exact shape
  length_encode value := canonical.length_encode (embed value)

def readUint (width : Nat) (digits : Bytes) : Except RlpError (BitVec width) :=
  if width < 8 * digits.length then .error .overflow
  else if digits.head? = some 0 then .error .leadingZero
  else .ok (BitVec.ofNat width (ofDigits digits))

def uint (width : Nat) : Codec (BitVec width) :=
  bytes.restrict (fun value => toDigits value.toNat) (readUint width)

variable (width count : Nat)

theorem pow_bytes (whole : width = 8 * count) : 2 ^ width = 256 ^ count := by
  rw [whole, Nat.pow_mul]

theorem uint_canonical (whole : width = 8 * count) : (uint width).Canonical := by
  apply bytes_canonical.restrict
  · intro value
    have short : (toDigits value.toNat).length ≤ count := by
      rw [to_digits_length_le, ← pow_bytes width count whole]
      exact value.isLt
    have nonzero : (toDigits value.toNat).head? ≠ some 0 := by
      cases digits : toDigits value.toNat with
      | nil => simp
      | cons byte tail =>
          intro zero
          exact to_digits_head value.toNat byte tail digits (Option.some.inj zero)
    rw [readUint, if_neg (by omega), if_neg nonzero, of_digits_to_digits, BitVec.ofNat_toNat, BitVec.setWidth_eq]
  · intro raw value accepted
    rw [readUint] at accepted
    split at accepted
    · cases accepted
    · next short =>
        split at accepted
        · cases accepted
        · next canonical =>
            cases accepted
            have small : ofDigits raw < 2 ^ width := by
              rw [pow_bytes width count whole]
              exact Nat.lt_of_lt_of_le (of_digits_lt raw) (Nat.pow_le_pow_right (by decide) (by omega))
            rw [BitVec.toNat_ofNat, Nat.mod_eq_of_lt small, to_digits_of_digits raw canonical]

def readFixed (width : Nat) (digits : Bytes) : Except RlpError (BitVec width) :=
  if width = 8 * digits.length then .ok (BitVec.ofNat width (ofDigits digits)) else .error .unexpectedLength

def toFixedBytes {width : Nat} (value : BitVec width) : Bytes :=
  toFixed (width / 8) value.toNat

def fixed (width : Nat) : Codec (BitVec width) :=
  bytes.restrict toFixedBytes (readFixed width)

theorem to_fixed_bytes_length (whole : width = 8 * count) (value : BitVec width) : (toFixedBytes value).length = count := by
  have half : width / 8 = count := by omega
  rw [toFixedBytes, half]
  apply to_fixed_length
  rw [← pow_bytes width count whole]
  exact value.isLt

theorem read_to_fixed (whole : width = 8 * count) (value : BitVec width) : readFixed width (toFixedBytes value) = .ok value := by
  rw [readFixed, if_pos (by rw [to_fixed_bytes_length width count whole, whole]), toFixedBytes, of_digits_to_fixed,
    BitVec.ofNat_toNat, BitVec.setWidth_eq]

theorem to_fixed_read (width : Nat) (raw : Bytes) (value : BitVec width) (accepted : readFixed width raw = .ok value) :
    raw = toFixedBytes value := by
  rw [readFixed] at accepted
  split at accepted
  · next whole =>
      cases accepted
      have small : ofDigits raw < 2 ^ width := by
        rw [pow_bytes width raw.length whole]
        exact of_digits_lt raw
      have half : width / 8 = raw.length := by omega
      rw [toFixedBytes, BitVec.toNat_ofNat, Nat.mod_eq_of_lt small, half, to_fixed_of_digits]
  · cases accepted

theorem fixed_canonical (whole : width = 8 * count) : (fixed width).Canonical :=
  bytes_canonical.restrict toFixedBytes (readFixed width) (read_to_fixed width count whole) (to_fixed_read width)

-- An absent value is the empty string.
def readOptional (width : Nat) (raw : Bytes) : Except RlpError (Option (BitVec width)) :=
  match raw with
  | [] => .ok none
  | byte :: tail => match readFixed width (byte :: tail) with
      | .error error => .error error
      | .ok value => .ok (some value)

def optional (width : Nat) : Codec (Option (BitVec width)) :=
  bytes.restrict (fun value => match value with | none => [] | some value => toFixedBytes value) (readOptional width)

theorem optional_canonical (whole : width = 8 * count) (positive : 0 < count) : (optional width).Canonical := by
  apply bytes_canonical.restrict
  · intro value
    cases value with
    | none => rfl
    | some value =>
        have length := to_fixed_bytes_length width count whole value
        cases raw : toFixedBytes value with
        | nil => rw [raw, List.length_nil] at length; omega
        | cons byte tail =>
            simp only [raw, readOptional]
            rw [← raw, read_to_fixed width count whole]
  · intro raw value accepted
    cases raw with
    | nil =>
        cases accepted
        rfl
    | cons byte tail =>
        rw [readOptional] at accepted
        cases read : readFixed width (byte :: tail) with
        | error error => rw [read] at accepted; cases accepted
        | ok found =>
            rw [read] at accepted
            cases accepted
            exact to_fixed_read width (byte :: tail) found read

def readBool (raw : BitVec 8) : Except RlpError Bool :=
  if raw = 0 then .ok false
  else if raw = 1 then .ok true
  else .error (.custom "invalid bool value, must be 0 or 1")

def bool : Codec Bool :=
  (uint 8).restrict (fun value => if value then 1 else 0) readBool

theorem bool_canonical : bool.Canonical := by
  apply (uint_canonical 8 1 rfl).restrict
  · intro value
    cases value <;> rfl
  · intro raw value accepted
    rw [readBool] at accepted
    split at accepted
    · next zero => cases accepted; exact zero
    · split at accepted
      · next one => cases accepted; exact one
      · cases accepted

end MorphReth.Rlp
