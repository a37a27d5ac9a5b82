import MorphReth.Rlp.Header
import Mathlib.Logic.Nontrivial.Defs

set_option autoImplicit false

namespace MorphReth.Rlp

abbrev Decoder (α : Type) := StateT Bytes (Except RlpError) α

structure Codec (α : Type) where
  encode : α → Bytes
  decode : Decoder α
  length : α → Nat

-- Every value decodes from its encoding with the tail untouched, and nothing
-- else decodes: the accepted bytes are the encoding of the decoded value.
structure Codec.Canonical {α : Type} (codec : Codec α) : Prop where
  decode_encode : ∀ value rest, codec.decode.run (codec.encode value ++ rest) = .ok (value, rest)
  encode_decode : ∀ buf value rest, codec.decode.run buf = .ok (value, rest) → buf = codec.encode value ++ rest
  length_encode : ∀ value, codec.length value = (codec.encode value).length

section Decoder

variable {α β : Type}

theorem Decoder.bind_ok (first : Decoder α) (next : α → Decoder β) (buf : Bytes) (result : β × Bytes) :
    (first >>= next).run buf = .ok result ↔
      ∃ value mid, first.run buf = .ok (value, mid) ∧ (next value).run mid = .ok result := by
  rw [StateT.run_bind]
  cases read : first.run buf with
  | error error => simp [bind, Except.bind]
  | ok pair =>
      obtain ⟨value, mid⟩ := pair
      constructor
      · intro completed
        exact ⟨value, mid, rfl, completed⟩
      · rintro ⟨_, _, same, completed⟩
        cases same
        exact completed

@[simp] theorem Decoder.pure_ok (value : α) (buf : Bytes) (result : α × Bytes) :
    (pure value : Decoder α).run buf = .ok result ↔ result = (value, buf) := by
  rw [StateT.run_pure]
  constructor
  · intro same
    exact (Except.ok.inj same).symm
  · intro same
    rw [same]
    rfl

theorem Decoder.run_bind_of_ok (first : Decoder α) (next : α → Decoder β) (buf mid : Bytes) (value : α)
    (read : first.run buf = .ok (value, mid)) : (first >>= next).run buf = (next value).run mid := by
  rw [StateT.run_bind, read]
  rfl

@[simp] theorem Decoder.throw_run (error : RlpError) (buf : Bytes) : (throw error : Decoder α).run buf = .error error := rfl

@[simp] theorem Decoder.get_run (buf : Bytes) : (get : Decoder Bytes).run buf = .ok (buf, buf) := rfl

theorem Decoder.guard_ok (condition : Prop) [Decidable condition] (error : RlpError) (next : Decoder α) (buf : Bytes) (result : α × Bytes) :
    ((if condition then throw error else next : Decoder α)).run buf = .ok result ↔ ¬condition ∧ next.run buf = .ok result := by
  by_cases failed : condition
  · rw [if_pos failed, Decoder.throw_run]
    constructor
    · intro impossible
      cases impossible
    · intro both
      exact absurd failed both.1
  · rw [if_neg failed]
    exact (and_iff_right failed).symm

end Decoder

section Canonical

variable {α : Type} {codec : Codec α}

theorem Codec.Canonical.bind_encode {β : Type} (canonical : codec.Canonical) (next : α → Decoder β) (value : α)
    (rest : Bytes) : (codec.decode >>= next).run (codec.encode value ++ rest) = (next value).run rest :=
  Decoder.run_bind_of_ok codec.decode next _ rest value (canonical.decode_encode value rest)

theorem Codec.Canonical.encode_append_inj (canonical : codec.Canonical) (left right : α) (leftRest rightRest : Bytes)
    (same : codec.encode left ++ leftRest = codec.encode right ++ rightRest) : left = right ∧ leftRest = rightRest := by
  have read := canonical.decode_encode left leftRest
  rw [same, canonical.decode_encode right rightRest] at read
  cases read
  exact ⟨rfl, rfl⟩

-- With two values there is no room for an empty encoding: reading a value from
-- nothing would read the same one in front of the other's encoding.
theorem Codec.Canonical.encode_ne_nil [Nontrivial α] (canonical : codec.Canonical) (value : α) : codec.encode value ≠ [] := by
  intro empty
  obtain ⟨other, different⟩ := exists_ne value
  have same := canonical.encode_append_inj value other (codec.encode other) [] (by rw [empty, List.nil_append, List.append_nil])
  exact different same.1.symm

end Canonical

end MorphReth.Rlp
