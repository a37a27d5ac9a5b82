import MorphReth.Rlp.Digits

set_option autoImplicit false

namespace MorphReth.Rlp

inductive RlpError where
  | overflow
  | leadingZero
  | inputTooShort
  | nonCanonicalSingleByte
  | nonCanonicalSize
  | unexpectedLength
  | unexpectedString
  | unexpectedList
  | listLengthMismatch (expected got : Nat)
  | custom (message : String)
  deriving DecidableEq, Repr

structure Header where
  list : Bool
  payloadLength : Nat
  deriving DecidableEq, Repr

-- A payload length is an offset from the string or list code and the bytes
-- after it. No slice is 2^64 bytes long, so the format has no spelling for such
-- a length; the one below stands in for it, so that the laws need no bound.
def lengthLimit : Nat := 256 ^ 8

def encodeLength (length : Nat) : Nat × Bytes :=
  if length < 56 then (length, [])
  else if length < lengthLimit then (55 + (toDigits length).length, toDigits length)
  else (56, 0 :: (List.replicate (length - lengthLimit) 1 ++ [0]))

def readUnary : Bytes → Except RlpError (Nat × Bytes)
  | [] => .error .inputTooShort
  | byte :: rest =>
      if byte = 0 then .ok (0, rest)
      else if byte = 1 then match readUnary rest with
        | .error error => .error error
        | .ok (count, tail) => .ok (count + 1, tail)
      else .error .leadingZero

def readLong (width : Nat) (rest : Bytes) : Except RlpError (Nat × Bytes) :=
  if rest.length < width then .error .inputTooShort
  else if (rest.take width).head? = some 0 then .error .leadingZero
  else if ofDigits (rest.take width) < 56 then .error .nonCanonicalSize
  else .ok (ofDigits (rest.take width), rest.drop width)

def decodeLength (offset : Nat) (rest : Bytes) : Except RlpError (Nat × Bytes) :=
  if offset < 56 then .ok (offset, rest)
  else if offset = 56 ∧ rest.head? = some 0 then match readUnary rest.tail with
    | .error error => .error error
    | .ok (count, tail) => .ok (lengthLimit + count, tail)
  else readLong (offset - 55) rest

theorem length_limit_large : 56 ≤ lengthLimit := by
  decide

theorem digits_fit_limit (length : Nat) : (toDigits length).length ≤ 8 ↔ length < lengthLimit :=
  to_digits_length_le length 8

theorem encode_length_offset (length : Nat) : (encodeLength length).1 < 64 := by
  rw [encodeLength]
  split
  · simp only; omega
  · split
    · next bound =>
        have := (digits_fit_limit length).mpr bound
        simp only; omega
    · simp only; omega

theorem read_unary_replicate (count : Nat) (rest : Bytes) : readUnary (List.replicate count 1 ++ 0 :: rest) = .ok (count, rest) := by
  induction count with
  | zero => simp [readUnary]
  | succ count hypothesis =>
      rw [List.replicate_succ, List.cons_append, readUnary, if_neg (by decide), if_pos rfl, hypothesis]

theorem read_unary_sound (buf : Bytes) (count : Nat) (rest : Bytes) (read : readUnary buf = .ok (count, rest)) :
    buf = List.replicate count 1 ++ 0 :: rest := by
  induction buf generalizing count with
  | nil => cases read
  | cons byte tail hypothesis =>
      rw [readUnary] at read
      by_cases zero : byte = 0
      · rw [if_pos zero] at read
        cases read
        rw [zero]
        rfl
      · rw [if_neg zero] at read
        by_cases one : byte = 1
        · rw [if_pos one] at read
          cases inner : readUnary tail with
          | error error => rw [inner] at read; cases read
          | ok pair =>
              obtain ⟨found, after⟩ := pair
              rw [inner] at read
              cases read
              rw [List.replicate_succ, one, hypothesis found inner]
              rfl
        · rw [if_neg one] at read
          cases read

theorem read_long_digits (length : Nat) (rest : Bytes) (large : 56 ≤ length) :
    readLong (toDigits length).length (toDigits length ++ rest) = .ok (length, rest) := by
  have nonzero : (toDigits length).head? ≠ some 0 := by
    cases digits : toDigits length with
    | nil => simp
    | cons byte tail =>
        intro zero
        exact to_digits_head length byte tail digits (Option.some.inj zero)
  rw [readLong, List.take_left, List.drop_left, of_digits_to_digits, if_neg (by simp), if_neg nonzero, if_neg (by omega)]

theorem read_long_sound (width : Nat) (buf : Bytes) (length : Nat) (rest : Bytes) (read : readLong width buf = .ok (length, rest)) :
    56 ≤ length ∧ (toDigits length).length = width ∧ buf = toDigits length ++ rest := by
  rw [readLong] at read
  split at read
  · cases read
  · next long =>
      split at read
      · cases read
      · next canonical =>
          split at read
          · cases read
          · next large =>
              cases read
              rw [to_digits_of_digits _ canonical]
              refine ⟨by omega, by simp only [List.length_take]; omega, (List.take_append_drop width buf).symm⟩

theorem decode_unary_length (count : Nat) (rest : Bytes) :
    decodeLength 56 ((0 :: (List.replicate count 1 ++ [0])) ++ rest) = .ok (lengthLimit + count, rest) := by
  rw [decodeLength, if_neg (by omega), if_pos ⟨rfl, rfl⟩]
  simp only [List.cons_append, List.append_assoc, List.tail_cons, List.nil_append]
  rw [read_unary_replicate]

theorem decode_encode_length (length : Nat) (rest : Bytes) :
    decodeLength (encodeLength length).1 ((encodeLength length).2 ++ rest) = .ok (length, rest) := by
  rw [encodeLength]
  by_cases short : length < 56
  · rw [if_pos short, decodeLength, if_pos short]
    rfl
  · rw [if_neg short]
    by_cases long : length < lengthLimit
    · rw [if_pos long]
      cases digits : toDigits length with
      | nil =>
          have := (to_digits_eq_nil length).mp digits
          omega
      | cons byte tail =>
          have nonzero := to_digits_head length byte tail digits
          have read := read_long_digits length rest (by omega)
          rw [digits] at read
          rw [decodeLength, if_neg (by simp only [List.length_cons]; omega), if_neg, Nat.add_sub_cancel_left, read]
          intro escape
          exact nonzero (Option.some.inj escape.2)
    · have restored : lengthLimit + (length - lengthLimit) = length := Nat.add_sub_cancel' (by omega)
      rw [if_neg long, decode_unary_length, restored]

theorem decode_length_sound (offset : Nat) (buf : Bytes) (length : Nat) (rest : Bytes) (bound : offset < 64)
    (read : decodeLength offset buf = .ok (length, rest)) : (encodeLength length).1 = offset ∧ buf = (encodeLength length).2 ++ rest := by
  rw [decodeLength] at read
  by_cases short : offset < 56
  · rw [if_pos short] at read
    cases read
    rw [encodeLength, if_pos short]
    exact ⟨rfl, rfl⟩
  · rw [if_neg short] at read
    by_cases escape : offset = 56 ∧ buf.head? = some 0
    · rw [if_pos escape] at read
      cases unary : readUnary buf.tail with
      | error error => rw [unary] at read; cases read
      | ok pair =>
          obtain ⟨count, after⟩ := pair
          rw [unary] at read
          cases read
          have shape := read_unary_sound buf.tail count rest unary
          have large := length_limit_large
          rw [encodeLength, if_neg (by omega), if_neg (by omega), Nat.add_sub_cancel_left]
          refine ⟨escape.1.symm, ?_⟩
          cases buf with
          | nil => cases escape.2
          | cons byte tail =>
              rw [List.tail_cons] at shape
              rw [shape, Option.some.inj escape.2]
              simp
    · rw [if_neg escape] at read
      obtain ⟨large, width, shape⟩ := read_long_sound (offset - 55) buf length rest read
      have fits : length < lengthLimit := (digits_fit_limit length).mp (by omega)
      rw [encodeLength, if_neg (by omega), if_pos fits]
      exact ⟨by simp only; omega, shape⟩

def Header.code (list : Bool) : Nat :=
  if list then 0xC0 else 0x80

def Header.encode (header : Header) : Bytes :=
  UInt8.ofNat (Header.code header.list + (encodeLength header.payloadLength).1) :: (encodeLength header.payloadLength).2

-- A byte below 0x80 is its own payload and is not consumed. The payload must be
-- in the buffer, and a single byte below 0x80 has no two-byte spelling.
def Header.decode : Bytes → Except RlpError (Header × Bytes)
  | [] => .error .inputTooShort
  | byte :: rest =>
      if byte.toNat < 0x80 then .ok (⟨false, 1⟩, byte :: rest)
      else match decodeLength (byte.toNat - Header.code (decide (0xC0 ≤ byte.toNat))) rest with
        | .error error => .error error
        | .ok (length, tail) =>
            if tail.length < length then .error .inputTooShort
            else if byte.toNat = 0x81 ∧ (∃ next ∈ tail.head?, next.toNat < 0x80) then .error .nonCanonicalSingleByte
            else .ok (⟨decide (0xC0 ≤ byte.toNat), length⟩, tail)

theorem header_code_byte (list : Bool) (length : Nat) :
    (UInt8.ofNat (Header.code list + (encodeLength length).1)).toNat = Header.code list + (encodeLength length).1 := by
  have offset := encode_length_offset length
  apply UInt8.toNat_ofNat_of_lt
  cases list <;> simp only [Header.code, UInt8.size, if_true, if_false, Bool.false_eq_true] <;> omega

theorem header_code_list (list : Bool) (length : Nat) : decide (0xC0 ≤ Header.code list + (encodeLength length).1) = list := by
  have offset := encode_length_offset length
  cases list
  · exact decide_eq_false (by simp only [Header.code, if_false, Bool.false_eq_true]; omega)
  · exact decide_eq_true (by simp only [Header.code, if_true]; omega)

theorem encode_length_one (length : Nat) : (encodeLength length).1 = 1 ↔ length = 1 := by
  constructor
  · intro offset
    have read := decode_encode_length length []
    rw [offset, decodeLength, if_pos (by decide)] at read
    cases read
    rfl
  · intro one
    rw [one]
    rfl

theorem header_decode_encode (list : Bool) (length : Nat) (rest : Bytes) (present : length ≤ rest.length)
    (canonical : list = false → length = 1 → ∀ next ∈ rest.head?, 0x80 ≤ next.toNat) :
    Header.decode (Header.encode ⟨list, length⟩ ++ rest) = .ok (⟨list, length⟩, rest) := by
  have large : 0x80 ≤ Header.code list := by cases list <;> decide
  rw [Header.encode, List.cons_append, Header.decode]
  simp only [header_code_byte, header_code_list, Nat.add_sub_cancel_left, decode_encode_length]
  rw [if_neg (by omega), if_neg (by omega), if_neg]
  intro ⟨single, next, member, small⟩
  have offset := encode_length_offset length
  cases list with
  | true => simp only [Header.code, if_true] at single; omega
  | false =>
      simp only [Header.code, if_false, Bool.false_eq_true] at single
      have one := (encode_length_one length).mp (by omega)
      have := canonical rfl one next member
      omega

theorem header_decode_sound (buf : Bytes) (list : Bool) (length : Nat) (rest : Bytes)
    (read : Header.decode buf = .ok (⟨list, length⟩, rest)) :
    (list = false ∧ length = 1 ∧ buf = rest ∧ ∃ next ∈ rest.head?, next.toNat < 0x80) ∨
      (buf = Header.encode ⟨list, length⟩ ++ rest ∧ length ≤ rest.length ∧
        (list = false → length = 1 → ∀ next ∈ rest.head?, 0x80 ≤ next.toNat)) := by
  cases buf with
  | nil => cases read
  | cons byte tail =>
      rw [Header.decode] at read
      by_cases single : byte.toNat < 0x80
      · rw [if_pos single] at read
        cases read
        exact .inl ⟨rfl, rfl, rfl, byte, rfl, single⟩
      · right
        rw [if_neg single] at read
        cases lengthRead : decodeLength (byte.toNat - Header.code (decide (0xC0 ≤ byte.toNat))) tail with
        | error error => rw [lengthRead] at read; cases read
        | ok pair =>
            obtain ⟨found, after⟩ := pair
            rw [lengthRead] at read
            simp only at read
            split at read
            · cases read
            · next present =>
                split at read
                · cases read
                · next canonical =>
                    cases read
                    have byteBound := byte.toNat_lt
                    have code : Header.code (decide (0xC0 ≤ byte.toNat)) ≤ byte.toNat ∧
                        byte.toNat - Header.code (decide (0xC0 ≤ byte.toNat)) < 64 := by
                      by_cases isList : 0xC0 ≤ byte.toNat
                      · rw [decide_eq_true isList]
                        simp only [Header.code, if_true]
                        omega
                      · rw [decide_eq_false isList]
                        simp only [Header.code, Bool.false_eq_true, if_false]
                        omega
                    obtain ⟨offset, shape⟩ := decode_length_sound _ tail length rest code.2 lengthRead
                    refine ⟨?_, by omega, ?_⟩
                    · rw [Header.encode, List.cons_append, shape]
                      simp only [offset, Nat.add_sub_cancel' code.1, UInt8.ofNat_toNat]
                    · intro isString one next member
                      by_contra small
                      apply canonical
                      refine ⟨?_, next, member, by omega⟩
                      rw [(encode_length_one length).mpr one] at offset
                      simp only [isString, Header.code, Bool.false_eq_true, if_false] at offset
                      omega

theorem header_list_ok (buf : Bytes) (length : Nat) (rest : Bytes) :
    Header.decode buf = .ok (⟨true, length⟩, rest) ↔ buf = Header.encode ⟨true, length⟩ ++ rest ∧ length ≤ rest.length := by
  constructor
  · intro read
    rcases header_decode_sound buf true length rest read with ⟨impossible, _⟩ | ⟨shape, present, _⟩
    · cases impossible
    · exact ⟨shape, present⟩
  · rintro ⟨shape, present⟩
    rw [shape]
    exact header_decode_encode true length rest present (fun impossible => by cases impossible)

end MorphReth.Rlp
