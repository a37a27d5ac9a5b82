import MorphReth.SelfDelimiting
import MorphReth.Payload.Builder

set_option autoImplicit false

namespace MorphReth.Payload

open Rlp Transaction

structure Withdrawal where
  index : U64
  validatorIndex : U64
  address : Address
  amount : U64
  deriving DecidableEq, Repr

def withdrawalCodec : Codec Withdrawal :=
  ((uint 64).pair ((uint 64).pair ((fixed 160).pair (uint 64)))).record.restrict
    (fun withdrawal => (withdrawal.index, withdrawal.validatorIndex, withdrawal.address, withdrawal.amount))
    (fun (index, validatorIndex, address, amount) => .ok ⟨index, validatorIndex, address, amount⟩)

-- The attributes as they arrive, with the withdrawals that never reach a block.
structure RequestAttributes extends MorphPayloadAttributes where
  withdrawals : Option (List Withdrawal)
  deriving DecidableEq, Repr

def flagByte (flag : Bool) : UInt8 := if flag then 1 else 0

def withdrawalsBytes : Option (List Withdrawal) → Bytes
  | some withdrawals => withdrawalCodec.items.encode withdrawals
  | none => []

def rootBytes : Option B256 → Bytes
  | some root => toFixedBytes root
  | none => []

def transactionsBytes (keccak256 : Bytes → B256) : Option (List Bytes) → Bytes
  | some txs => toFixedBytes (BitVec.ofNat 64 txs.length) ++ txs.flatMap (fun tx => toFixedBytes (keccak256 tx))
  | none => []

def overrideBytes : Option U64 → Bytes :=
  tagged 0 1 toFixedBytes

-- From the txpool policy on every part is tagged or counted.
def policyBytes (keccak256 : Bytes → B256) (attributes : RequestAttributes) : Bytes :=
  flagByte attributes.noTxPool :: flagByte attributes.transactions.isSome ::
    (transactionsBytes keccak256 attributes.transactions ++ (overrideBytes attributes.gasLimit ++ overrideBytes attributes.baseFeePerGas))

-- Everything payload_id_morph feeds to the hasher, in its order.
def payloadIdPreimage (keccak256 : Bytes → B256) (parent : B256) (attributes : RequestAttributes) : Bytes :=
  toFixedBytes parent ++ (toFixedBytes attributes.timestamp ++ (toFixedBytes attributes.prevRandao ++
    (toFixedBytes attributes.suggestedFeeRecipient ++ (withdrawalsBytes attributes.withdrawals ++
      (rootBytes attributes.parentBeaconBlockRoot ++ policyBytes keccak256 attributes)))))

def payloadIdMorph (keccak256 sha256 : Bytes → B256) (parent : B256) (attributes : RequestAttributes) (version : UInt8) : Bytes :=
  ((toFixedBytes (sha256 (payloadIdPreimage keccak256 parent attributes))).set 0 version).take 8

structure Presence where
  withdrawals : Bool
  beaconRoot : Bool
  deriving DecidableEq, Repr

def RequestAttributes.presence (attributes : RequestAttributes) : Presence :=
  ⟨attributes.withdrawals.isSome, attributes.parentBeaconBlockRoot.isSome⟩

-- The same untagged parts are there, or one side has none of them and the other
-- starts with a list, whose first byte no flag can imitate.
def Presence.Separated (first second : Presence) : Prop :=
  first = second ∨ (first = ⟨false, false⟩ ∧ second.withdrawals = true) ∨ (second = ⟨false, false⟩ ∧ first.withdrawals = true)

def CollisionFree (keccak256 : Bytes → B256) (first second : RequestAttributes) : Prop :=
  ∀ left ∈ first.transactions.getD [], ∀ right ∈ second.transactions.getD [], keccak256 left = keccak256 right → left = right

section Segments

variable (keccak256 : Bytes → B256)

theorem to_fixed_bytes_injective (width count : Nat) (whole : width = 8 * count) :
    Function.Injective (toFixedBytes : BitVec width → Bytes) := by
  intro left right same
  have read := read_to_fixed width count whole left
  rw [same, read_to_fixed width count whole right] at read
  exact (Except.ok.inj read).symm

theorem fixed_delimits (width count : Nat) (whole : width = 8 * count) : SelfDelimiting (toFixedBytes : BitVec width → Bytes) :=
  self_delimiting_fixed toFixedBytes count (to_fixed_bytes_length width count whole) (to_fixed_bytes_injective width count whole)

theorem override_delimits : SelfDelimiting overrideBytes :=
  self_delimiting_tagged 0 1 toFixedBytes (by decide) (fixed_delimits 64 8 rfl)

theorem withdrawal_canonical : withdrawalCodec.Canonical := by
  have word := uint_canonical 64 8 rfl
  apply (word.pair (word.pair ((fixed_canonical 160 20 rfl).pair word))).record.restrict
  · intro withdrawal
    rfl
  · intro raw withdrawal accepted
    cases accepted
    rfl

instance : Nontrivial Withdrawal := ⟨⟨0, 0, 0, 0⟩, ⟨1, 0, 0, 0⟩, by decide⟩

theorem withdrawals_canonical : withdrawalCodec.items.Canonical := withdrawal_canonical.items

theorem flag_byte_inj (left right : Bool) (same : flagByte left = flagByte right) : left = right := by
  cases left <;> cases right <;> first | rfl | exact absurd same (by decide)

theorem override_length (override : Option U64) : (overrideBytes override).length = 1 ∨ (overrideBytes override).length = 9 := by
  cases override with
  | none => exact .inl rfl
  | some value => exact .inr (by rw [overrideBytes, tagged, List.length_cons, to_fixed_bytes_length 64 8 rfl])

theorem overrides_inj (leftGas leftFee rightGas rightFee : Option U64)
    (same : overrideBytes leftGas ++ overrideBytes leftFee = overrideBytes rightGas ++ overrideBytes rightFee) :
    leftGas = rightGas ∧ leftFee = rightFee := by
  obtain ⟨gas, rest⟩ := override_delimits leftGas rightGas _ _ same
  have fee := override_delimits leftFee rightFee [] [] (by rw [rest])
  exact ⟨gas, fee.1⟩

-- The overrides are shorter than one digest, so equally long tails hold equally
-- many digests, whatever the count in front of them says.
theorem digests_inj (left right : List Bytes) (leftRest rightRest : Bytes) (leftShort : leftRest.length < rightRest.length + 32)
    (rightShort : rightRest.length < leftRest.length + 32)
    (same : left.flatMap (fun tx => toFixedBytes (keccak256 tx)) ++ leftRest = right.flatMap (fun tx => toFixedBytes (keccak256 tx)) ++ rightRest) :
    left.map keccak256 = right.map keccak256 ∧ leftRest = rightRest := by
  have width : ∀ tx, (toFixedBytes (keccak256 tx)).length = 32 := fun tx => to_fixed_bytes_length 256 32 rfl _
  have lengths := congrArg List.length same
  rw [List.length_append, List.length_append, flat_map_length _ 32 width, flat_map_length _ 32 width] at lengths
  have digests : ∀ txs : List Bytes, txs.flatMap (fun tx => toFixedBytes (keccak256 tx)) = (txs.map keccak256).flatMap toFixedBytes := by
    intro txs
    rw [List.flatMap_map]
  rw [digests, digests] at same
  exact self_delimiting_list toFixedBytes (fixed_delimits 256 32 rfl) _ _ _ _ (by rw [List.length_map, List.length_map]; omega) same

theorem map_inj_of_collision_free (left right : List Bytes)
    (free : ∀ first ∈ left, ∀ second ∈ right, keccak256 first = keccak256 second → first = second)
    (same : left.map keccak256 = right.map keccak256) : left = right := by
  induction left generalizing right with
  | nil => exact (List.map_eq_nil_iff.mp same.symm).symm
  | cons first left ih =>
      cases right with
      | nil => cases same
      | cons second right =>
          obtain ⟨digest, digests⟩ := List.cons.inj same
          rw [free first List.mem_cons_self second List.mem_cons_self digest,
            ih right (fun x inLeft y inRight => free x (List.mem_cons_of_mem first inLeft) y (List.mem_cons_of_mem second inRight)) digests]

structure SamePolicy (first second : RequestAttributes) : Prop where
  noTxPool : first.noTxPool = second.noTxPool
  transactions : first.transactions = second.transactions
  gasLimit : first.gasLimit = second.gasLimit
  baseFeePerGas : first.baseFeePerGas = second.baseFeePerGas

theorem policy_inj (first second : RequestAttributes) (free : CollisionFree keccak256 first second)
    (same : policyBytes keccak256 first = policyBytes keccak256 second) : SamePolicy first second := by
  obtain ⟨pool, same⟩ := List.cons.inj same
  obtain ⟨supplied, same⟩ := List.cons.inj same
  have pool := flag_byte_inj _ _ pool
  have supplied := flag_byte_inj _ _ supplied
  rw [CollisionFree] at free
  cases left : first.transactions with
  | none =>
      rw [left, Option.isSome_none] at supplied
      have right : second.transactions = none := Option.not_isSome_iff_eq_none.mp (by rw [← supplied]; decide)
      rw [left, right] at same
      obtain ⟨gas, fee⟩ := overrides_inj _ _ _ _ same
      exact ⟨pool, left.trans right.symm, gas, fee⟩
  | some leftTxs =>
      rw [left, Option.isSome_some] at supplied
      obtain ⟨rightTxs, right⟩ := Option.isSome_iff_exists.mp supplied.symm
      rw [left, right, transactionsBytes, transactionsBytes, List.append_assoc, List.append_assoc] at same
      obtain ⟨_, same⟩ := fixed_delimits 64 8 rfl _ _ _ _ same
      have gasLeft := override_length first.gasLimit
      have feeLeft := override_length first.baseFeePerGas
      have gasRight := override_length second.gasLimit
      have feeRight := override_length second.baseFeePerGas
      obtain ⟨digests, same⟩ := digests_inj keccak256 leftTxs rightTxs _ _ (by simp only [List.length_append]; omega)
        (by simp only [List.length_append]; omega) same
      obtain ⟨gas, fee⟩ := overrides_inj _ _ _ _ same
      rw [left, right] at free
      have txs := map_inj_of_collision_free keccak256 leftTxs rightTxs free digests
      exact ⟨pool, by rw [left, right, txs], gas, fee⟩

end Segments

section Separation

variable (keccak256 : Bytes → B256)

-- Two requests with different preimages; then an id is shared only when the
-- digests of different byte strings agree in the seven bytes the id keeps.
structure IdsSeparate (parent : B256) (attributes : RequestAttributes) (otherParent : B256) (others : RequestAttributes) : Prop where
  preimages : payloadIdPreimage keccak256 parent attributes ≠ payloadIdPreimage keccak256 otherParent others
  shared : ∀ sha256 version, payloadIdMorph keccak256 sha256 parent attributes version = payloadIdMorph keccak256 sha256 otherParent others version →
    ((toFixedBytes (sha256 (payloadIdPreimage keccak256 parent attributes))).drop 1).take 7 =
      ((toFixedBytes (sha256 (payloadIdPreimage keccak256 otherParent others))).drop 1).take 7

def AlwaysSeparate (first second : Presence) : Prop :=
  ∀ parent attributes otherParent others, attributes.presence = first → others.presence = second →
    CollisionFree keccak256 attributes others → (parent, attributes) ≠ (otherParent, others) →
    IdsSeparate keccak256 parent attributes otherParent others

theorem id_tail (digest : B256) (version : UInt8) :
    (((toFixedBytes digest).set 0 version).take 8) = version :: ((toFixedBytes digest).drop 1).take 7 := by
  have length := to_fixed_bytes_length 256 32 rfl digest
  cases bytes : toFixedBytes digest with
  | nil => rw [bytes] at length; cases length
  | cons first rest => rfl

variable (parent : B256) (attributes : RequestAttributes) (otherParent : B256) (others : RequestAttributes)

theorem ids_separate_of_preimages
    (different : payloadIdPreimage keccak256 parent attributes ≠ payloadIdPreimage keccak256 otherParent others) :
    IdsSeparate keccak256 parent attributes otherParent others := by
  refine ⟨different, ?_⟩
  intro sha256 version same
  rw [payloadIdMorph, payloadIdMorph, id_tail, id_tail] at same
  exact (List.cons.inj same).2

structure SameLeading (parent : B256) (attributes : RequestAttributes) (otherParent : B256) (others : RequestAttributes) : Prop where
  parent : parent = otherParent
  timestamp : attributes.timestamp = others.timestamp
  prevRandao : attributes.prevRandao = others.prevRandao
  recipient : attributes.suggestedFeeRecipient = others.suggestedFeeRecipient
  rest : withdrawalsBytes attributes.withdrawals ++ (rootBytes attributes.parentBeaconBlockRoot ++ policyBytes keccak256 attributes) =
    withdrawalsBytes others.withdrawals ++ (rootBytes others.parentBeaconBlockRoot ++ policyBytes keccak256 others)

theorem leading_inj (same : payloadIdPreimage keccak256 parent attributes = payloadIdPreimage keccak256 otherParent others) :
    SameLeading keccak256 parent attributes otherParent others := by
  rw [payloadIdPreimage, payloadIdPreimage] at same
  obtain ⟨parents, same⟩ := fixed_delimits 256 32 rfl _ _ _ _ same
  obtain ⟨timestamps, same⟩ := fixed_delimits 64 8 rfl _ _ _ _ same
  obtain ⟨randomness, same⟩ := fixed_delimits 256 32 rfl _ _ _ _ same
  obtain ⟨recipients, rest⟩ := fixed_delimits 160 20 rfl _ _ _ _ same
  exact ⟨parents, timestamps, randomness, recipients, rest⟩

theorem withdrawals_inj (first second : Option (List Withdrawal)) (firstRest secondRest : Bytes) (present : first.isSome = second.isSome)
    (same : withdrawalsBytes first ++ firstRest = withdrawalsBytes second ++ secondRest) : first = second ∧ firstRest = secondRest :=
  untagged_inj withdrawalCodec.items.encode withdrawals_canonical.encode_append_inj withdrawalsBytes rfl (fun _ => rfl) first second _ _ present same

theorem root_inj (first second : Option B256) (firstRest secondRest : Bytes) (present : first.isSome = second.isSome)
    (same : rootBytes first ++ firstRest = rootBytes second ++ secondRest) : first = second ∧ firstRest = secondRest :=
  untagged_inj toFixedBytes (fixed_delimits 256 32 rfl) rootBytes rfl (fun _ => rfl) first second _ _ present same

theorem preimage_inj (present : attributes.presence = others.presence) (free : CollisionFree keccak256 attributes others)
    (same : payloadIdPreimage keccak256 parent attributes = payloadIdPreimage keccak256 otherParent others) :
    (parent, attributes) = (otherParent, others) := by
  have leading := leading_inj keccak256 parent attributes otherParent others same
  obtain ⟨withdrawals, rest⟩ := withdrawals_inj _ _ _ _ (congrArg Presence.withdrawals present) leading.rest
  obtain ⟨root, rest⟩ := root_inj _ _ _ _ (congrArg Presence.beaconRoot present) rest
  have policy := policy_inj keccak256 attributes others free rest
  obtain ⟨⟨timestamp, prevRandao, recipient, beaconRoot, transactions, noTxPool, gasLimit, baseFeePerGas⟩, listed⟩ := attributes
  obtain ⟨⟨_, _, _, _, _, _, _, _⟩, _⟩ := others
  have parents := leading.parent
  have timestamps := leading.timestamp
  have randomness := leading.prevRandao
  have recipients := leading.recipient
  have pools := policy.noTxPool
  have supplied := policy.transactions
  have gas := policy.gasLimit
  have fees := policy.baseFeePerGas
  simp only at timestamps randomness recipients pools supplied gas fees withdrawals root
  rw [parents, timestamps, randomness, recipients, pools, supplied, gas, fees, withdrawals, root]

-- A list starts with a byte from 0xC0 on, a flag is 0 or 1.
theorem list_not_flag (withdrawals : List Withdrawal) (rest : Bytes) (flag : Bool) (tail : Bytes) :
    withdrawalsBytes (some withdrawals) ++ rest ≠ flagByte flag :: tail := by
  intro same
  obtain ⟨first, others, shape, large⟩ := alloy_rlp_canonical.headerFirst (withdrawals.map withdrawalCodec.length).sum
  have shape : Header.encode ⟨true, (withdrawals.map withdrawalCodec.length).sum⟩ = first :: others := shape
  rw [withdrawalsBytes, Codec.items] at same
  simp only [shape, List.cons_append] at same
  have isFlag := (List.cons.inj same).1
  rw [isFlag] at large
  cases flag <;> exact absurd large (by decide)

theorem bare_starts_with_flag (attributes : RequestAttributes) (bare : attributes.presence = ⟨false, false⟩) :
    withdrawalsBytes attributes.withdrawals ++ (rootBytes attributes.parentBeaconBlockRoot ++ policyBytes keccak256 attributes) =
      policyBytes keccak256 attributes := by
  have noWithdrawals : attributes.withdrawals = none := Option.not_isSome_iff_eq_none.mp (by
    rw [show attributes.withdrawals.isSome = false from congrArg Presence.withdrawals bare]
    decide)
  have noRoot : attributes.parentBeaconBlockRoot = none := Option.not_isSome_iff_eq_none.mp (by
    rw [show attributes.parentBeaconBlockRoot.isSome = false from congrArg Presence.beaconRoot bare]
    decide)
  rw [noWithdrawals, noRoot]
  rfl

theorem bare_not_listed (bare : attributes.presence = ⟨false, false⟩) (listed : others.withdrawals.isSome = true) :
    payloadIdPreimage keccak256 parent attributes ≠ payloadIdPreimage keccak256 otherParent others := by
  intro same
  have rest := (leading_inj keccak256 parent attributes otherParent others same).rest
  obtain ⟨withdrawals, present⟩ := Option.isSome_iff_exists.mp listed
  rw [bare_starts_with_flag keccak256 attributes bare, present] at rest
  exact list_not_flag withdrawals _ attributes.noTxPool _ rest.symm

theorem separated_separate (first second : Presence) (separated : first.Separated second) : AlwaysSeparate keccak256 first second := by
  intro parent attributes otherParent others isFirst isSecond free different
  apply ids_separate_of_preimages
  rcases separated with same | ⟨bare, listed⟩ | ⟨bare, listed⟩
  · intro samePreimage
    exact different (preimage_inj keccak256 parent attributes otherParent others (by rw [isFirst, isSecond, same]) free samePreimage)
  · exact bare_not_listed keccak256 parent attributes otherParent others (isFirst.trans bare)
      ((congrArg Presence.withdrawals isSecond).trans listed)
  · exact (bare_not_listed keccak256 otherParent others parent attributes (isSecond.trans bare)
      ((congrArg Presence.withdrawals isFirst).trans listed)).symm

end Separation

section Imitation

variable (keccak256 : Bytes → B256)

theorem fixed_of_bytes (width count : Nat) (whole : width = 8 * count) (bytes : Bytes) (length : bytes.length = count) :
    toFixedBytes (BitVec.ofNat width (ofDigits bytes)) = bytes := by
  have read : readFixed width bytes = .ok (BitVec.ofNat width (ofDigits bytes)) := by
    rw [readFixed, if_pos (by rw [length, whole])]
  exact (to_fixed_read width bytes _ read).symm

-- A digest whose bytes from the 23rd on read as a policy flag, an absent
-- transaction list and the tag of a present gas limit.
def PolicyLike (digest : B256) : Prop :=
  ∃ (lead rest : Bytes) (noTxPool : Bool), lead.length = 22 ∧ toFixedBytes digest = lead ++ flagByte noTxPool :: 0 :: 1 :: rest

def plainRequest (withdrawals : Option (List Withdrawal)) (root : Option B256) (transactions : Option (List Bytes)) (noTxPool : Bool)
    (gasLimit : Option U64) : RequestAttributes where
  timestamp := 0
  prevRandao := 0
  suggestedFeeRecipient := 0
  parentBeaconBlockRoot := root
  transactions := transactions
  noTxPool := noTxPool
  gasLimit := gasLimit
  baseFeePerGas := none
  withdrawals := withdrawals

structure Collision (first second : Presence) (attributes others : RequestAttributes) : Prop where
  first : attributes.presence = first
  second : others.presence = second
  free : CollisionFree keccak256 attributes others
  different : attributes ≠ others
  same : payloadIdPreimage keccak256 0 attributes = payloadIdPreimage keccak256 0 others

theorem collision_swap (first second : Presence) (attributes others : RequestAttributes)
    (collision : Collision keccak256 first second attributes others) : Collision keccak256 second first others attributes where
  first := collision.second
  second := collision.first
  free := by
    intro left leftMember right rightMember same
    exact (collision.free right rightMember left leftMember same.symm).symm
  different := collision.different.symm
  same := collision.same.symm

theorem collision_refutes (first second : Presence) (attributes others : RequestAttributes)
    (collision : Collision keccak256 first second attributes others) : ¬AlwaysSeparate keccak256 first second := by
  intro separate
  have differ : ((0 : B256), attributes) ≠ (0, others) := fun same => collision.different (Prod.mk.inj same).2
  exact (separate 0 attributes 0 others collision.first collision.second collision.free differ).preimages collision.same

theorem preimage_of_rest (withdrawals otherWithdrawals : Option (List Withdrawal)) (root otherRoot : Option B256)
    (transactions otherTransactions : Option (List Bytes)) (noTxPool otherNoTxPool : Bool) (gasLimit otherGasLimit : Option U64)
    (same : withdrawalsBytes withdrawals ++ (rootBytes root ++ policyBytes keccak256 (plainRequest withdrawals root transactions noTxPool gasLimit)) =
      withdrawalsBytes otherWithdrawals ++ (rootBytes otherRoot ++
        policyBytes keccak256 (plainRequest otherWithdrawals otherRoot otherTransactions otherNoTxPool otherGasLimit))) :
    payloadIdPreimage keccak256 0 (plainRequest withdrawals root transactions noTxPool gasLimit) =
      payloadIdPreimage keccak256 0 (plainRequest otherWithdrawals otherRoot otherTransactions otherNoTxPool otherGasLimit) := by
  simp only [payloadIdPreimage, plainRequest] at same ⊢
  rw [same]

-- One transaction with such a digest and no beacon root, against no transactions
-- and a beacon root made of the bytes in front of the imitated policy.
theorem policy_imitated (tx : Bytes) (imitates : PolicyLike (keccak256 tx)) :
    ∃ root noTxPool gasLimit, ∀ withdrawals otherWithdrawals leftRoot rightRoot,
      policyBytes keccak256 (plainRequest withdrawals leftRoot (some [tx]) false none) =
        rootBytes (some root) ++ policyBytes keccak256 (plainRequest otherWithdrawals rightRoot none noTxPool (some gasLimit)) := by
  obtain ⟨lead, rest, noTxPool, leadLength, digest⟩ := imitates
  have restLength : rest.length = 7 := by
    have length := to_fixed_bytes_length 256 32 rfl (keccak256 tx)
    rw [digest] at length
    simp only [List.length_append, List.length_cons] at length
    omega
  let rootDigits : Bytes := 0 :: 1 :: (toFixedBytes (BitVec.ofNat 64 1) ++ lead)
  have rootLength : rootDigits.length = 32 := by
    simp only [rootDigits, List.length_cons, List.length_append, leadLength, to_fixed_bytes_length 64 8 rfl]
  have rootSame := fixed_of_bytes 256 32 rfl rootDigits rootLength
  have gasSame := fixed_of_bytes 64 8 rfl (rest ++ [0]) (by rw [List.length_append, restLength]; rfl)
  have set : flagByte true = 1 := rfl
  have unset : flagByte false = 0 := rfl
  refine ⟨BitVec.ofNat 256 (ofDigits rootDigits), noTxPool, BitVec.ofNat 64 (ofDigits (rest ++ [0])), ?_⟩
  intro withdrawals otherWithdrawals leftRoot rightRoot
  simp only [policyBytes, plainRequest, rootBytes, transactionsBytes, overrideBytes, tagged, rootSame, gasSame, digest, rootDigits,
    List.flatMap_cons, List.flatMap_nil, List.length_singleton, Option.isSome_some, Option.isSome_none, set, unset]
  simp

def rootLikeWithdrawal : Withdrawal := ⟨0x010203040506, 7, 0x1111111111111111111111111111111111111111, 8⟩

def withdrawalLikeRoot : B256 := 0xdfde860102030405060794111111111111111111111111111111111111111108

theorem list_imitates_root : withdrawalsBytes (some [rootLikeWithdrawal]) = rootBytes (some withdrawalLikeRoot) := by
  decide +kernel

theorem list_root_collision :
    Collision keccak256 ⟨false, true⟩ ⟨true, false⟩ (plainRequest none (some withdrawalLikeRoot) none false none)
      (plainRequest (some [rootLikeWithdrawal]) none none false none) where
  first := rfl
  second := rfl
  free := by
    intro left impossible
    cases impossible
  different := by
    intro same
    cases congrArg RequestAttributes.withdrawals same
  same := by
    apply preimage_of_rest
    rw [list_imitates_root]
    rfl

-- A request with a beacon root can hide the digest from one whose untagged parts
-- are the same bytes as its withdrawals.
theorem root_collision (tx : Bytes) (imitates : PolicyLike (keccak256 tx)) (withdrawals others : Option (List Withdrawal))
    (leading : Option B256) (same : withdrawalsBytes withdrawals ++ rootBytes leading = withdrawalsBytes others) :
    ∃ first second, Collision keccak256 ⟨withdrawals.isSome, leading.isSome⟩ ⟨others.isSome, true⟩ first second := by
  obtain ⟨root, noTxPool, gasLimit, imitated⟩ := policy_imitated keccak256 tx imitates
  refine ⟨plainRequest withdrawals leading (some [tx]) false none, plainRequest others (some root) none noTxPool (some gasLimit), rfl,
    rfl, ?_, ?_, ?_⟩
  · intro left _ right impossible
    cases impossible
  · intro equal
    cases congrArg (fun attributes : RequestAttributes => attributes.transactions) equal
  · apply preimage_of_rest
    rw [imitated withdrawals others leading (some root), ← List.append_assoc, same]

theorem unseparated_collides (tx : Bytes) (imitates : PolicyLike (keccak256 tx)) (first second : Presence)
    (unseparated : ¬first.Separated second) : ∃ attributes others, Collision keccak256 first second attributes others := by
  have swap : ∀ p q, (∃ attributes others, Collision keccak256 p q attributes others) →
      ∃ attributes others, Collision keccak256 q p attributes others := by
    rintro p q ⟨attributes, others, collision⟩
    exact ⟨others, attributes, collision_swap keccak256 p q attributes others collision⟩
  have bareRoot := root_collision keccak256 tx imitates none none none rfl
  have listedRoot := root_collision keccak256 tx imitates (some []) (some []) none (List.append_nil _)
  have listForRoot : ∃ attributes others, Collision keccak256 ⟨false, true⟩ ⟨true, false⟩ attributes others :=
    ⟨_, _, list_root_collision keccak256⟩
  have listBeforeRoot := root_collision keccak256 tx imitates none (some [rootLikeWithdrawal]) (some withdrawalLikeRoot)
    (by rw [list_imitates_root]; rfl)
  match first, second, unseparated with
  | ⟨false, false⟩, ⟨false, true⟩, _ => exact bareRoot
  | ⟨false, true⟩, ⟨false, false⟩, _ => exact swap _ _ bareRoot
  | ⟨true, false⟩, ⟨true, true⟩, _ => exact listedRoot
  | ⟨true, true⟩, ⟨true, false⟩, _ => exact swap _ _ listedRoot
  | ⟨false, true⟩, ⟨true, false⟩, _ => exact listForRoot
  | ⟨true, false⟩, ⟨false, true⟩, _ => exact swap _ _ listForRoot
  | ⟨false, true⟩, ⟨true, true⟩, _ => exact listBeforeRoot
  | ⟨true, true⟩, ⟨false, true⟩, _ => exact swap _ _ listBeforeRoot
  | ⟨false, false⟩, ⟨true, _⟩, separated => exact absurd (.inr (.inl ⟨rfl, rfl⟩)) separated
  | ⟨true, _⟩, ⟨false, false⟩, separated => exact absurd (.inr (.inr ⟨rfl, rfl⟩)) separated
  | ⟨false, false⟩, ⟨false, false⟩, separated => exact absurd (.inl rfl) separated
  | ⟨false, true⟩, ⟨false, true⟩, separated => exact absurd (.inl rfl) separated
  | ⟨true, false⟩, ⟨true, false⟩, separated => exact absurd (.inl rfl) separated
  | ⟨true, true⟩, ⟨true, true⟩, separated => exact absurd (.inl rfl) separated

end Imitation

-- keccak-256 of the four bytes 00 0b 1b 9a.
def policyDigest : B256 := 0x7b244b5ca00c561fe5c3643f61cc2cdde9bab406ce5a010001fa1c8a9a6d857e

theorem policy_digest_imitates : PolicyLike policyDigest :=
  ⟨(toFixedBytes policyDigest).take 22, (toFixedBytes policyDigest).drop 25, true, by decide +kernel, by decide +kernel⟩

theorem payload_id_preimages_separate (keccak256 : Bytes → B256) (first second : Presence) :
    (first.Separated second → AlwaysSeparate keccak256 first second) ∧
      ((∃ tx, PolicyLike (keccak256 tx)) → AlwaysSeparate keccak256 first second → first.Separated second) := by
  refine ⟨separated_separate keccak256 first second, ?_⟩
  rintro ⟨tx, imitates⟩ separate
  by_contra unseparated
  obtain ⟨attributes, others, collision⟩ := unseparated_collides keccak256 tx imitates first second unseparated
  exact collision_refutes keccak256 first second attributes others collision separate

-- The digest above at its four bytes, and the number they spell at others.
def txDigest (tx : Bytes) : B256 :=
  if tx = [0x00, 0x0b, 0x1b, 0x9a] then policyDigest else BitVec.ofNat 256 (ofDigits tx)

theorem payload_id_preimages_separate_sample :
    CollisionFree txDigest (plainRequest (some []) none (some [[1], [2]]) true none) (plainRequest (some []) none (some [[1], [3]]) true none) ∧
      payloadIdPreimage txDigest 0 (plainRequest (some []) none (some [[1], [2]]) true none) ≠
        payloadIdPreimage txDigest 0 (plainRequest (some []) none (some [[1], [3]]) true none) ∧
      ¬AlwaysSeparate txDigest ⟨false, false⟩ ⟨false, true⟩ := by
  have free : CollisionFree txDigest (plainRequest (some []) none (some [[1], [2]]) true none)
      (plainRequest (some []) none (some [[1], [3]]) true none) := by
    change ∀ left ∈ [[1], [2]], ∀ right ∈ [[1], [3]], txDigest left = txDigest right → left = right
    decide +kernel
  refine ⟨free, ?_, fun separate => ?_⟩
  · have listed := (payload_id_preimages_separate txDigest ⟨true, false⟩ ⟨true, false⟩).1 (.inl rfl)
    exact (listed 0 _ 0 _ rfl rfl free (by simp [plainRequest])).preimages
  · have impossible := (payload_id_preimages_separate txDigest ⟨false, false⟩ ⟨false, true⟩).2
      ⟨[0x00, 0x0b, 0x1b, 0x9a], policy_digest_imitates⟩ separate
    simp [Presence.Separated] at impossible

theorem payload_id_preimage_shared :
    ((0 : B256), plainRequest none (some withdrawalLikeRoot) none false none) ≠ (0, plainRequest (some [rootLikeWithdrawal]) none none false none) ∧
      payloadIdPreimage (fun _ => policyDigest) 0 (plainRequest none (some withdrawalLikeRoot) none false none) =
        payloadIdPreimage (fun _ => policyDigest) 0 (plainRequest (some [rootLikeWithdrawal]) none none false none) := by
  have collision := list_root_collision (fun _ => policyDigest)
  exact ⟨fun same => collision.different (Prod.mk.inj same).2, collision.same⟩

end MorphReth.Payload
