import MorphReth.Rlp.Lists

set_option autoImplicit false

namespace MorphReth.Rlp

section RoundTrips

variable {α β : Type}

-- Half of a canonical codec: what was written is read back and its length was
-- announced. The decoder may accept other spellings.
structure Codec.RoundTrips (codec : Codec α) : Prop where
  decode_encode : ∀ value rest, codec.decode.run (codec.encode value ++ rest) = .ok (value, rest)
  length_encode : ∀ value, codec.length value = (codec.encode value).length

theorem Codec.Canonical.roundTrips {codec : Codec α} (canonical : codec.Canonical) : codec.RoundTrips :=
  ⟨canonical.decode_encode, canonical.length_encode⟩

theorem Codec.RoundTrips.bind_encode {codec : Codec α} (law : codec.RoundTrips) (next : α → Decoder β) (value : α) (rest : Bytes) :
    (codec.decode >>= next).run (codec.encode value ++ rest) = (next value).run rest :=
  Decoder.run_bind_of_ok codec.decode next _ rest value (law.decode_encode value rest)

-- Fields behind a list header whose length has to be used up exactly.
def decodeExactList (fields : Decoder α) : Decoder α := do
  let length ← decodeListHeader
  let remaining ← get
  let value ← fields
  let buf ← get
  if buf.length + length ≠ remaining.length then throw .unexpectedLength
  else pure value

theorem decode_exact_list (fields : Decoder α) (payload rest : Bytes) (value : α) (read : fields.run (payload ++ rest) = .ok (value, rest)) :
    (decodeExactList fields).run (Header.encode ⟨true, payload.length⟩ ++ (payload ++ rest)) = .ok (value, rest) := by
  have header : decodeListHeader.run (Header.encode ⟨true, payload.length⟩ ++ (payload ++ rest)) = .ok (payload.length, payload ++ rest) :=
    (list_header_ok _ _ _).mpr ⟨rfl, by rw [List.length_append]; omega⟩
  rw [decodeExactList, Decoder.run_bind_of_ok _ _ _ _ _ header, Decoder.run_bind_of_ok _ _ _ _ _ (Decoder.get_run _),
    Decoder.run_bind_of_ok _ _ _ _ _ read, Decoder.run_bind_of_ok _ _ _ _ _ (Decoder.get_run _), if_neg]
  · rfl
  · rw [List.length_append, not_not, Nat.add_comm]

end RoundTrips

end MorphReth.Rlp
