import MorphReth.ProofsExEx.System
import MorphReth.Checks

set_option autoImplicit false

namespace MorphReth.ProofsExEx

open Proofs

inductive ProofWindowError where
  | uninitialized
  | outside (requested earliest latest : Nat)
  | canonicalMismatch (block : Nat) (stored : B256) (canonical : Option B256)
  deriving DecidableEq, Repr

-- The other tags stand for the numbers the node has resolved them to.
inductive BlockId where
  | latest
  | number (number : Nat)
  | hash (hash : B256)
  deriving DecidableEq, Repr

inductive EthApiError where
  | headerNotFound (blockId : BlockId)
  | proofWindow (error : ProofWindowError)
  deriving DecidableEq, Repr

def validateCanonicalAnchor (block : Nat) (stored : B256) (canonical : Option B256) : Except ProofWindowError Unit :=
  if canonical ≠ some stored then .error (.canonicalMismatch block stored canonical) else .ok ()

def validateWindow (requested : Nat) (earliest latest : Option Nat) : Except ProofWindowError Unit :=
  match earliest, latest with
  | some earliest, some latest =>
      if requested < earliest ∨ latest < requested then .error (.outside requested earliest latest) else .ok ()
  | none, _ | some _, none => .error .uninitialized

def CanonicalChain.blockNumberForId {tree : BlockTree} (chain : CanonicalChain tree) : BlockId → Option Nat
  | .latest => some chain.bestBlockNumber
  | .number number => some number
  | .hash hash => chain.hashes.findIdx? (fun other => other = hash)

namespace System

variable {σ : Type} [MorphProofsStore σ] {tree : BlockTree}

open MorphProofsStore

def canonicalAnchor (system : System σ tree) : Except ProofWindowError Unit :=
  match getLatestBlockNumber system.store with
  | none => .error .uninitialized
  | some latest => validateCanonicalAnchor latest.number latest.hash (system.chain.blockHash latest.number)

-- The block whose state a proof request is served from.
def stateProvider (system : System σ tree) (blockId : Option BlockId) : Except EthApiError Nat :=
  let blockId := blockId.getD .latest
  match system.chain.blockNumberForId blockId with
  | none => .error (.headerNotFound blockId)
  | some blockNumber => do
      match blockId with
      | .hash requested => rejectIf (system.chain.blockHash blockNumber ≠ some requested) (.headerNotFound blockId)
      | .latest | .number _ => .ok ()
      (validateWindow blockNumber ((getEarliestBlockNumber system.store).map NumHash.number)
        ((getLatestBlockNumber system.store).map NumHash.number)).mapError .proofWindow
      system.canonicalAnchor.mapError .proofWindow
      .ok blockNumber

end System

section Served

variable {σ : Type} [MorphProofsStore σ] {tree : BlockTree} (system : System σ tree)

theorem canonical_anchor_ok (latest : NumHash) (recorded : MorphProofsStore.getLatestBlockNumber system.store = some latest) :
    system.canonicalAnchor = .ok () ↔ system.chain.blockHash latest.number = some latest.hash := by
  simp [System.canonicalAnchor, recorded, validateCanonicalAnchor]

-- A served request names a block of the window, while the chain still has the
-- latest one.
theorem state_provider_ok (earliest latest : NumHash) (first : MorphProofsStore.getEarliestBlockNumber system.store = some earliest)
    (last : MorphProofsStore.getLatestBlockNumber system.store = some latest) (blockId : Option BlockId) (number : Nat)
    (served : system.stateProvider blockId = .ok number) :
    earliest.number ≤ number ∧ number ≤ latest.number ∧ system.chain.blockHash latest.number = some latest.hash := by
  rw [System.stateProvider] at served
  generalize blockId.getD .latest = requested at served
  cases resolved : system.chain.blockNumberForId requested with
  | none => simp [resolved] at served
  | some block =>
      simp only [resolved, first, last, Option.map_some] at served
      have passed : (∃ result, validateWindow block (some earliest.number) (some latest.number) = .ok result) ∧
          (∃ result, system.canonicalAnchor = .ok result) ∧ block = number := by
        cases requested with
        | latest => simpa [bind_ok] using served
        | number => simpa [bind_ok] using served
        | hash =>
            simp only [bind_ok] at served
            obtain ⟨_, _, rest⟩ := served
            simpa using rest
      obtain ⟨⟨_, window⟩, ⟨_, anchor⟩, rfl⟩ := passed
      have inside : ¬(block < earliest.number ∨ latest.number < block) := by
        intro outside
        simp [validateWindow, outside] at window
      exact ⟨by omega, by omega, (canonical_anchor_ok system latest last).mp anchor⟩

end Served

end MorphReth.ProofsExEx
