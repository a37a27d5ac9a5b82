import MorphReth.Transaction.Ethereum
import MorphReth.TxPool.Admission

set_option autoImplicit false

namespace MorphReth.Simulation

open Rlp Transaction

-- What alloy's transaction trait shows of each type, without a base fee.
structure TransactionView where
  chainId : Option U64
  nonce : U64
  gasLimit : U64
  effectiveGasPrice : U128
  maxPriorityFeePerGas : Option U128
  kind : TxKind
  value : U256
  input : Bytes
  accessList : Option AccessList
  authorizationList : Option (List SignedAuthorization)

def view : SignedTx → TransactionView
  | .legacy tx _ =>
      { chainId := tx.chainId, nonce := tx.nonce, gasLimit := tx.gasLimit, effectiveGasPrice := tx.gasPrice, maxPriorityFeePerGas := none,
        kind := tx.kind, value := tx.value, input := tx.input, accessList := none, authorizationList := none }
  | .eip2930 tx _ =>
      { chainId := some tx.chainId, nonce := tx.nonce, gasLimit := tx.gasLimit, effectiveGasPrice := tx.gasPrice, maxPriorityFeePerGas := none,
        kind := tx.kind, value := tx.value, input := tx.input, accessList := some tx.accessList, authorizationList := none }
  | .eip1559 tx _ =>
      { chainId := some tx.chainId, nonce := tx.nonce, gasLimit := tx.gasLimit, effectiveGasPrice := tx.maxFeePerGas,
        maxPriorityFeePerGas := some tx.maxPriorityFeePerGas, kind := tx.kind, value := tx.value, input := tx.input,
        accessList := some tx.accessList, authorizationList := none }
  | .eip7702 tx _ =>
      { chainId := some tx.chainId, nonce := tx.nonce, gasLimit := tx.gasLimit, effectiveGasPrice := tx.maxFeePerGas,
        maxPriorityFeePerGas := some tx.maxPriorityFeePerGas, kind := .call tx.target, value := tx.value, input := tx.input,
        accessList := some tx.accessList, authorizationList := some tx.authorizationList }
  | .morph tx _ =>
      { chainId := some tx.chainId, nonce := tx.nonce, gasLimit := tx.gasLimit, effectiveGasPrice := tx.maxFeePerGas,
        maxPriorityFeePerGas := some tx.maxPriorityFeePerGas, kind := tx.kind, value := tx.value, input := tx.input,
        accessList := some tx.accessList
        authorizationList := if tx.isV2 && tx.hasAuthorizations then some tx.authorizationList else none }

structure Authorization where
  chainId : U256
  address : Address
  nonce : U64
  deriving DecidableEq, Repr

-- A recovered authorization has lost its signature; the authority is absent
-- when the signature was invalid.
structure RecoveredAuthorization where
  inner : Authorization
  authority : Option Address
  deriving DecidableEq, Repr

def Authorization.intoSigned (authorization : Authorization) (signature : Signature) : SignedAuthorization where
  chainId := authorization.chainId
  address := authorization.address
  nonce := authorization.nonce
  yParity := if signature.yParity then 1 else 0
  r := signature.r
  s := signature.s

structure TxEnv where
  txType : UInt8
  caller : Address
  gasLimit : U64
  gasPrice : U128
  kind : TxKind
  value : U256
  data : Bytes
  nonce : U64
  chainId : Option U64
  accessList : AccessList
  gasPriorityFee : Option U128
  authorizationList : List (SignedAuthorization ⊕ RecoveredAuthorization)

structure MorphTxEnv where
  inner : TxEnv
  rlpBytes : Option Bytes
  version : Option UInt8
  feeTokenId : Option U16
  feeLimit : Option U256
  reference : Option B256
  memo : Option Bytes

namespace MorphTxEnv

def new (inner : TxEnv) : MorphTxEnv :=
  ⟨inner, none, none, none, none, none, none⟩

def isMorphTx (env : MorphTxEnv) : Bool :=
  env.inner.txType == morphTxTypeId

section FromTx

variable (recoverAuthority : SignedAuthorization → Option Address)

def recovered (signed : SignedAuthorization) : RecoveredAuthorization :=
  ⟨⟨signed.chainId, signed.address, signed.nonce⟩, recoverAuthority signed⟩

def fromTxWithRlpBytes (tx : SignedTx) (signer : Address) (rlpBytes : Bytes) : MorphTxEnv :=
  let fields := view tx
  let inner : TxEnv :=
    { txType := tx.txType
      caller := signer
      gasLimit := fields.gasLimit
      gasPrice := fields.effectiveGasPrice
      kind := fields.kind
      value := fields.value
      data := fields.input
      nonce := fields.nonce
      chainId := fields.chainId
      accessList := fields.accessList.getD []
      gasPriorityFee := fields.maxPriorityFeePerGas
      authorizationList := (fields.authorizationList.getD []).map (fun signed => .inr (recovered recoverAuthority signed)) }
  let env := { new inner with rlpBytes := some rlpBytes }
  match tx with
  | .morph morph _ =>
      { env with
        version := some morph.version
        feeTokenId := some morph.feeTokenId
        feeLimit := some morph.feeLimit
        reference := morph.reference
        memo := morph.memo.filter (fun memo => !memo.isEmpty) }
  | .legacy _ _ | .eip2930 _ _ | .eip1559 _ _ | .eip7702 _ _ => env

def fromRecoveredTx (tx : SignedTx) (signer : Address) : MorphTxEnv :=
  fromTxWithRlpBytes recoverAuthority tx signer tx.encode2718

end FromTx

section L1Fee

variable (env : MorphTxEnv) (fallbackChainId : U64)

-- 64 bytes of 0xff and an odd parity.
def placeholderSignature : Signature where
  yParity := true
  r := maxWord 256
  s := maxWord 256

def signedAuthorizationsForL1Fee (placeholder : Signature) : List SignedAuthorization :=
  env.inner.authorizationList.map (fun authorization => match authorization with
    | .inl signed => signed
    | .inr recovered => recovered.inner.intoSigned placeholder)

def buildMorphTxForL1Fee (placeholder : Signature) : Option TxMorph :=
  if env.isMorphTx then
    let version := env.version.getD (if env.inner.authorizationList.isEmpty then morphTxVersion1 else morphTxVersion2)
    some
      { chainId := env.inner.chainId.getD fallbackChainId
        nonce := env.inner.nonce
        gasLimit := env.inner.gasLimit
        maxFeePerGas := env.inner.gasPrice
        maxPriorityFeePerGas := env.inner.gasPriorityFee.getD 0
        kind := env.inner.kind
        value := env.inner.value
        accessList := env.inner.accessList
        version := version
        feeTokenId := env.feeTokenId.getD 0
        feeLimit := env.feeLimit.getD 0
        reference := env.reference
        memo := env.memo
        authorizationList := if version = morphTxVersion2 then env.signedAuthorizationsForL1Fee placeholder else []
        input := env.inner.data }
  else none

-- Never legacy or EIP-2930, whatever the type byte says.
def buildEthereumEnvelopeForL1Fee (signature : Signature) : SignedTx :=
  let chainId := env.inner.chainId.getD fallbackChainId
  let maxPriorityFeePerGas := env.inner.gasPriorityFee.getD env.inner.gasPrice
  let dynamic : SignedTx := .eip1559
    { chainId := chainId
      nonce := env.inner.nonce
      gasLimit := env.inner.gasLimit
      maxFeePerGas := env.inner.gasPrice
      maxPriorityFeePerGas := maxPriorityFeePerGas
      kind := env.inner.kind
      value := env.inner.value
      accessList := env.inner.accessList
      input := env.inner.data } signature
  if env.inner.authorizationList.isEmpty then dynamic
  else match env.inner.kind with
    | .create => dynamic
    | .call target => .eip7702
        { chainId := chainId
          nonce := env.inner.nonce
          gasLimit := env.inner.gasLimit
          maxFeePerGas := env.inner.gasPrice
          maxPriorityFeePerGas := maxPriorityFeePerGas
          target := target
          value := env.inner.value
          accessList := env.inner.accessList
          authorizationList := env.signedAuthorizationsForL1Fee signature
          input := env.inner.data } signature

def encodeForL1Fee : Bytes :=
  match env.buildMorphTxForL1Fee fallbackChainId placeholderSignature with
  | some morphTx => (SignedTx.morph morphTx placeholderSignature).encode2718
  | none => (env.buildEthereumEnvelopeForL1Fee fallbackChainId placeholderSignature).encode2718

end L1Fee

-- The part of the environment that the fee handler reads.
def handlerEnv (env : MorphTxEnv) : Fee.MorphTxEnv where
  txType := env.inner.txType
  caller := env.inner.caller
  isCall := decide (env.inner.kind ≠ .create)
  value := env.inner.value
  nonce := env.inner.nonce
  gasLimit := env.inner.gasLimit
  gasPrice := env.inner.gasPrice
  gasPriorityFee := env.inner.gasPriorityFee
  rlpBytes := env.rlpBytes
  feeTokenId := env.feeTokenId
  feeLimit := env.feeLimit

theorem handler_env_of_morph (recoverAuthority : SignedAuthorization → Option Address) (tx : TxMorph) (signature : Signature)
    (signer : Address) :
    (fromRecoveredTx recoverAuthority (.morph tx signature) signer).handlerEnv = TxPool.morphTxEnv tx signature signer := rfl

-- A call with nothing but a gas price is sized as a dynamic-fee transaction.
example :
    (encodeForL1Fee (new ⟨0, 0, 21000, 1000000000, .call 0, 0, [], 0, some 2818, [], none, []⟩) 2818).length = 111 := by
  decide +kernel

end MorphTxEnv

end MorphReth.Simulation
