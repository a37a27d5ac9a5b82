import MorphReth.ReferenceIndex.Turns

set_option autoImplicit false

namespace MorphReth.ReferenceIndex

variable {tree : BlockTree}

structure ErrorObject where
  code : Int
  message : String
  deriving DecidableEq, Repr

def invalidParams : Int := -32602

def internalError : Int := -32603

-- Only the argument checks tell the client more than a fixed text.
def toRpcError : ReferenceIndexError → ErrorObject
  | .initializing => ⟨-32000, "reference index initializing"⟩
  | .indexBehind => ⟨-32000, "reference index is behind"⟩
  | .indexUnavailable => ⟨-32000, "reference index is unavailable"⟩
  | .limitTooLarge limit => ⟨invalidParams, s!"reference query limit too large: {limit}"⟩
  | .offsetTooLarge offset => ⟨invalidParams, s!"reference query offset too large: {offset}"⟩
  | _ => ⟨internalError, "internal reference index error"⟩

-- Times are in nanoseconds.
def indexWaitTimeout : Nat := 300000000

def indexWaitPollInterval : Nat := 5000000

def nextPollDelay (now deadline : Nat) : Option Nat :=
  if deadline - now = 0 then none else some (min indexWaitPollInterval (deadline - now))

structure ChainInfo where
  bestHash : B256
  bestNumber : Nat
  deriving DecidableEq, Repr

def CanonicalChain.chainInfo (chain : CanonicalChain tree) : ChainInfo where
  bestHash := chain.head.hash
  bestNumber := chain.head.number

-- What the provider answers to one read. A header carries its own number.
inductive ProviderRead where
  | failed
  | missing
  | header (number : Nat)
  deriving DecidableEq, Repr

-- Where a call stands between two of its reads of the clock, the chain and
-- the index.
inductive CallPoint where
  | checkDeadline
  | readTip
  | readHeader (before : ChainInfo)
  | checkUnavailable (before : ChainInfo) (tip : CanonicalTip)
  | loadDb (before : ChainInfo) (tip : CanonicalTip)
  | readIndex (before : ChainInfo) (tip : CanonicalTip)
  | checkPhase
  | readTipAgain (before : ChainInfo) (results : List ReferenceTransactionResult)
  | beginWait
  | sleeping (wake : Nat)
  | returned (response : Except ErrorObject (List ReferenceTransactionResult))
  deriving DecidableEq

deriving instance DecidableEq for ReferenceQuery

-- One get_transaction_hashes_by_reference call. The number of polls is not
-- part of the handler; it counts the iterations of its loop.
structure RpcCall where
  query : ReferenceQuery
  deadline : Nat
  waited : Bool
  point : CallPoint
  polls : Nat
  deriving DecidableEq

namespace RpcCall

def goto (call : RpcCall) (point : CallPoint) : RpcCall :=
  { call with point := point }

def fail (call : RpcCall) (error : ReferenceIndexError) : RpcCall :=
  call.goto (.returned (.error (toRpcError error)))

def begin (now : Nat) (query : ReferenceQuery) : RpcCall where
  query := query
  deadline := now + indexWaitTimeout
  waited := false
  point := .checkDeadline
  polls := 0

def request (now : Nat) (reference : B256) (offset limit : Option Nat) : Except ErrorObject RpcCall :=
  match ReferenceQuery.new reference offset limit with
  | .error error => .error (toRpcError error)
  | .ok query => .ok (begin now query)

def isPreJade (jadeTimestamp timestamp : Nat) : Bool :=
  timestamp < jadeTimestamp

def readHeaderStep (tree : BlockTree) (jadeTimestamp : Nat) (call : RpcCall) (before : ChainInfo) : ProviderRead → RpcCall
  | .failed => call.fail .provider
  | .missing => call.fail .indexBehind
  | .header number =>
      if number ≠ before.bestNumber then call.fail .indexBehind
      else
        let canonicalTip : CanonicalTip :=
          { number := before.bestNumber, hash := before.bestHash, timestamp := (tree before.bestHash).timestamp }
        if isPreJade jadeTimestamp canonicalTip.timestamp then call.goto (.readTipAgain before [])
        else call.goto (.checkUnavailable before canonicalTip)

def readIndexStep (db : ReferenceIndexDb) (call : RpcCall) (before : ChainInfo) (tip : CanonicalTip) : RpcCall :=
  match db.queryAt call.query tip with
  | .ok results => call.goto (.readTipAgain before results)
  | .error .indexBehind => call.goto .checkPhase
  | .error other => call.fail other

-- The head that brackets the answer is read from the chain as it is now.
def readTipAgainStep (system : System tree) (call : RpcCall) (before : ChainInfo) (results : List ReferenceTransactionResult) :
    ProviderRead → RpcCall
  | .failed => call.fail .provider
  | _ => if system.chain.chainInfo = before then call.goto (.returned (.ok results)) else call.goto .beginWait

def beginWaitStep (now : Nat) (call : RpcCall) : RpcCall :=
  match nextPollDelay now call.deadline with
  | none => { call with waited := true }.fail .indexBehind
  | some delay => { call with waited := true, point := .sleeping (now + delay) }

def advance (config : ReferenceIndexConfig) (system : System tree) (now : Nat) (read : ProviderRead) (call : RpcCall) : RpcCall :=
  match call.point with
  | .checkDeadline =>
      if call.waited = true ∧ call.deadline ≤ now then call.fail .indexBehind
      else { call with point := .readTip, polls := call.polls + 1 }
  | .readTip => if read = .failed then call.fail .provider else call.goto (.readHeader system.chain.chainInfo)
  | .readHeader before => call.readHeaderStep tree config.jadeTimestamp before read
  | .checkUnavailable before tip => if system.phase = .unavailable then call.fail .indexUnavailable else call.goto (.loadDb before tip)
  | .loadDb before tip => if system.installed then call.goto (.readIndex before tip) else call.fail .initializing
  | .readIndex before tip => call.readIndexStep system.db before tip
  | .checkPhase =>
      if system.phase = .deferred ∨ system.phase = .preJade then call.fail .indexBehind else call.goto .beginWait
  | .readTipAgain before results => call.readTipAgainStep system before results read
  | .beginWait => call.beginWaitStep now
  | .sleeping wake => if wake ≤ now then call.goto .checkDeadline else call
  | .returned _ => call

end RpcCall

-- The node as its reference queries see it: the chain and the index with its
-- runtime, the clock, and the calls in flight.
structure RpcNode (tree : BlockTree) where
  system : System tree
  now : Nat
  calls : List RpcCall

inductive RpcEvent (tree : BlockTree) where
  | index (event : SystemEvent tree)
  | elapse (duration : Nat)
  | request (reference : B256) (offset limit : Option Nat)
  | advance (position : Nat) (read : ProviderRead)

namespace RpcNode

def start (chain : CanonicalChain tree) (finalized : Option Nat) : RpcNode tree where
  system := System.start chain finalized
  now := 0
  calls := []

-- A call whose arguments are refused never enters the loop. A crash of the
-- process loses the calls with it.
def step (config : ReferenceIndexConfig) (node : RpcNode tree) : RpcEvent tree → RpcNode tree
  | .index event =>
      { node with
        system := node.system.apply config event
        calls := match event with
          | .crash => []
          | _ => node.calls }
  | .elapse duration => { node with now := node.now + duration }
  | .request reference offset limit => match RpcCall.request node.now reference offset limit with
      | .error _ => node
      | .ok call => { node with calls := node.calls ++ [call] }
  | .advance position read => match node.calls[position]? with
      | none => node
      | some call => { node with calls := node.calls.set position (call.advance config node.system node.now read) }

end RpcNode

-- Range reads meet the block the index stopped at, and chains keep their
-- timestamps in order. Everything else may happen at any moment.
def OrderedChange : SystemEvent tree → Prop
  | .chainChange chain _ => chain.TimestampsOrdered
  | _ => True

def RpcAllowed (config : ReferenceIndexConfig) (node : RpcNode tree) : RpcEvent tree → Prop
  | .index event => ReadsFit config node.system event ∧ OrderedChange event
  | _ => True

instance : (event : SystemEvent tree) → Decidable (OrderedChange event)
  | .chainChange chain _ => inferInstanceAs (Decidable chain.TimestampsOrdered)
  | .beginTurn _ | .proceed | .providerFailure | .crash => isTrue trivial

instance (config : ReferenceIndexConfig) (node : RpcNode tree) : (event : RpcEvent tree) → Decidable (RpcAllowed config node event)
  | .index event => inferInstanceAs (Decidable (ReadsFit config node.system event ∧ OrderedChange event))
  | .elapse _ | .request _ _ _ | .advance _ _ => isTrue trivial

section Exact

-- An answer held by a call is the page of every chain that ends at the head
-- the call read first.
def ExactAt (tree : BlockTree) (jadeTimestamp : Nat) (query : ReferenceQuery) (before : ChainInfo)
    (results : List ReferenceTransactionResult) : Prop :=
  ∀ chain : CanonicalChain tree, chain.TimestampsOrdered → chain.chainInfo = before →
    results = query.page (chain.referenceList jadeTimestamp query.reference)

def TipOf (before : ChainInfo) (tip : CanonicalTip) : Prop :=
  tip.number = before.bestNumber ∧ tip.hash = before.bestHash

def CallExact (tree : BlockTree) (jadeTimestamp : Nat) (call : RpcCall) : Prop :=
  match call.point with
  | .checkUnavailable before tip | .loadDb before tip | .readIndex before tip => TipOf before tip
  | .readTipAgain before results => ExactAt tree jadeTimestamp call.query before results
  | _ => True

theorem reference_list_before_jade {chain : CanonicalChain tree} {jadeTimestamp : Nat} (reference : B256)
    (ordered : chain.TimestampsOrdered) (early : chain.head.timestamp < jadeTimestamp) :
    chain.referenceList jadeTimestamp reference = [] := by
  have headTimestamp : chain.blockTimestamp chain.head.number = some chain.head.timestamp := by
    rw [CanonicalChain.blockTimestamp, CanonicalChain.canonicalHash, head_present]
    rfl
  have above := jade_start_above chain jadeTimestamp _ _ headTimestamp ordered early
  rw [List.eq_nil_iff_forall_not_mem]
  intro result member
  obtain ⟨started, present⟩ := (mem_reference_list reference chain jadeTimestamp result).mp member
  obtain ⟨hash, stored, _⟩ := Option.bind_eq_some_iff.mp present
  have inside := (List.getElem?_eq_some_iff.mp stored).1
  rw [chain_length] at inside
  omega

theorem exact_before_jade {jadeTimestamp : Nat} (query : ReferenceQuery) {before : ChainInfo}
    (early : (tree before.bestHash).timestamp < jadeTimestamp) : ExactAt tree jadeTimestamp query before [] := by
  intro chain ordered same
  have headEarly : chain.head.timestamp < jadeTimestamp := by
    change (tree chain.chainInfo.bestHash).timestamp < jadeTimestamp
    rw [same]
    exact early
  rw [reference_list_before_jade query.reference ordered headEarly]
  simp [ReferenceQuery.page]

theorem exact_from_index {config : ReferenceIndexConfig} {db : ReferenceIndexDb} {query : ReferenceQuery} {before : ChainInfo}
    {tip : CanonicalTip} {results : List ReferenceTransactionResult} (content : OneBranch tree config.jadeTimestamp db)
    (tipOf : TipOf before tip) (answered : db.queryAt query tip = .ok results) :
    ExactAt tree config.jadeTimestamp query before results := by
  intro chain _ same
  cases content with
  | inl blank =>
      rw [blank_query query db tip blank] at answered
      cases answered
  | inr branched =>
      obtain ⟨branch, lowest, indexed⟩ := branched
      obtain ⟨sameNumber, sameHash, page⟩ := query_page query config.jadeTimestamp lowest db branch tip results indexed answered
      have number : branch.head.number = chain.head.number := by
        rw [← sameNumber, tipOf.1, ← same]
        rfl
      have hash : branch.head.hash = chain.head.hash := by
        rw [← sameHash, tipOf.2, ← same]
        rfl
      rw [← chain_eq_of_head branch chain number hash]
      exact page

variable (config : ReferenceIndexConfig) (system : System tree) (now : Nat) (call : RpcCall)

theorem call_exact_header (before : ChainInfo) (read : ProviderRead) :
    CallExact tree config.jadeTimestamp (call.readHeaderStep tree config.jadeTimestamp before read) := by
  cases read with
  | failed | missing => trivial
  | header number =>
      simp only [RpcCall.readHeaderStep]
      split
      · trivial
      · split
        · next early => exact exact_before_jade call.query (of_decide_eq_true early)
        · exact ⟨rfl, rfl⟩

theorem call_exact_index (db : ReferenceIndexDb) (before : ChainInfo) (tip : CanonicalTip)
    (content : OneBranch tree config.jadeTimestamp db) (tipOf : TipOf before tip) :
    CallExact tree config.jadeTimestamp (call.readIndexStep db before tip) := by
  rw [RpcCall.readIndexStep]
  split
  · next results answered => exact exact_from_index content tipOf answered
  · trivial
  · trivial

theorem call_exact_advance (read : ProviderRead) (content : OneBranch tree config.jadeTimestamp system.db)
    (held : CallExact tree config.jadeTimestamp call) : CallExact tree config.jadeTimestamp (call.advance config system now read) := by
  cases here : call.point with
  | readHeader before =>
      simp only [RpcCall.advance, here]
      exact call_exact_header config call before read
  | readIndex before tip =>
      rw [CallExact, here] at held
      simp only [RpcCall.advance, here]
      exact call_exact_index config call system.db before tip content held
  | checkUnavailable before tip =>
      rw [CallExact, here] at held
      simp only [RpcCall.advance, here]
      split
      · trivial
      · exact held
  | loadDb before tip =>
      rw [CallExact, here] at held
      simp only [RpcCall.advance, here]
      split
      · exact held
      · trivial
  | readTipAgain before results =>
      simp only [RpcCall.advance, here]
      cases read with
      | failed => trivial
      | missing | header =>
          simp only [RpcCall.readTipAgainStep]
          split
          · trivial
          · trivial
  | beginWait =>
      simp only [RpcCall.advance, here, RpcCall.beginWaitStep]
      split
      · trivial
      · trivial
  | returned response =>
      simp only [RpcCall.advance, here]
      exact held
  | checkDeadline | readTip | checkPhase =>
      simp only [RpcCall.advance, here]
      split
      · trivial
      · trivial
  | sleeping wake =>
      simp only [RpcCall.advance, here]
      split
      · trivial
      · exact held

end Exact

section Pace

def maxPolls : Nat := indexWaitTimeout / indexWaitPollInterval

-- How far the clock has moved since a call began: every finished wait took a
-- whole interval, or ended at the deadline.
def CallPaced (now : Nat) (call : RpcCall) : Prop :=
  call.polls ≤ maxPolls ∧
    match call.point with
    | .checkDeadline => (call.waited = false → call.polls = 0 ∧ call.deadline ≤ now + indexWaitTimeout) ∧
        (call.waited = true → call.deadline ≤ now ∨ call.deadline + indexWaitPollInterval * call.polls ≤ now + indexWaitTimeout)
    | .sleeping wake => call.waited = true ∧ wake ≤ call.deadline ∧
        (call.deadline ≤ wake ∨ call.deadline + indexWaitPollInterval * call.polls ≤ wake + indexWaitTimeout)
    | .returned _ => True
    | _ => call.deadline + indexWaitPollInterval * call.polls ≤ now + indexWaitTimeout + indexWaitPollInterval

variable (config : ReferenceIndexConfig) (system : System tree) (now : Nat) (call : RpcCall)

theorem call_paced_later (later : Nat) (order : now ≤ later) (paced : CallPaced now call) : CallPaced later call := by
  obtain ⟨few, point⟩ := paced
  refine ⟨few, ?_⟩
  cases here : call.point with
  | checkDeadline =>
      simp only [here] at point
      refine ⟨fun unwaited => ?_, fun waited => ?_⟩
      · obtain ⟨none_yet, begun⟩ := point.1 unwaited
        omega
      · have reached := point.2 waited
        omega
  | sleeping wake =>
      simp only [here] at point
      exact point
  | returned response => trivial
  | _ =>
      simp only [here] at point
      exact Nat.le_trans point (by omega)

theorem call_paced_check (paced : CallPaced now call) (here : call.point = .checkDeadline)
    (polling : ¬(call.waited = true ∧ call.deadline ≤ now)) : CallPaced now { call with point := .readTip, polls := call.polls + 1 } := by
  obtain ⟨few, point⟩ := paced
  simp only [here] at point
  obtain ⟨first, again⟩ := point
  simp only [CallPaced, maxPolls, indexWaitTimeout, indexWaitPollInterval] at few first again ⊢
  cases waited : call.waited with
  | false =>
      have begun := first waited
      omega
  | true =>
      have reached := again waited
      simp only [waited, true_and] at polling
      omega

theorem call_paced_wait (few : call.polls ≤ maxPolls)
    (point : call.deadline + indexWaitPollInterval * call.polls ≤ now + indexWaitTimeout + indexWaitPollInterval) :
    CallPaced now (call.beginWaitStep now) := by
  simp only [RpcCall.beginWaitStep, nextPollDelay]
  split
  · exact ⟨few, trivial⟩
  · next delay chosen =>
      rw [Option.ite_none_left_eq_some] at chosen
      obtain ⟨remaining, same⟩ := chosen
      cases same
      refine ⟨few, rfl, ?_, ?_⟩
      · change now + min indexWaitPollInterval (call.deadline - now) ≤ call.deadline
        omega
      · change call.deadline ≤ now + min indexWaitPollInterval (call.deadline - now) ∨ call.deadline + indexWaitPollInterval * call.polls ≤
          now + min indexWaitPollInterval (call.deadline - now) + indexWaitTimeout
        omega

theorem call_paced_header (few : call.polls ≤ maxPolls)
    (point : call.deadline + indexWaitPollInterval * call.polls ≤ now + indexWaitTimeout + indexWaitPollInterval) (jadeTimestamp : Nat)
    (before : ChainInfo) (read : ProviderRead) : CallPaced now (call.readHeaderStep tree jadeTimestamp before read) := by
  cases read with
  | failed | missing => exact ⟨few, trivial⟩
  | header number =>
      simp only [RpcCall.readHeaderStep]
      split
      · exact ⟨few, trivial⟩
      · split
        · exact ⟨few, point⟩
        · exact ⟨few, point⟩

theorem call_paced_advance (read : ProviderRead) (paced : CallPaced now call) : CallPaced now (call.advance config system now read) := by
  obtain ⟨few, point⟩ := paced
  cases here : call.point with
  | checkDeadline =>
      simp only [RpcCall.advance, here]
      split
      · exact ⟨few, trivial⟩
      · next polling => exact call_paced_check now call ⟨few, point⟩ here polling
  | readHeader before =>
      simp only [here] at point
      simp only [RpcCall.advance, here]
      exact call_paced_header now call few point config.jadeTimestamp before read
  | readIndex before tip =>
      simp only [here] at point
      simp only [RpcCall.advance, here, RpcCall.readIndexStep]
      split
      · exact ⟨few, point⟩
      · exact ⟨few, point⟩
      · exact ⟨few, trivial⟩
  | readTip | checkUnavailable | checkPhase =>
      simp only [here] at point
      simp only [RpcCall.advance, here]
      split
      · exact ⟨few, trivial⟩
      · exact ⟨few, point⟩
  | loadDb before tip =>
      simp only [here] at point
      simp only [RpcCall.advance, here]
      split
      · exact ⟨few, point⟩
      · exact ⟨few, trivial⟩
  | readTipAgain before results =>
      simp only [here] at point
      simp only [RpcCall.advance, here]
      cases read with
      | failed => exact ⟨few, trivial⟩
      | missing | header =>
          simp only [RpcCall.readTipAgainStep]
          split
          · exact ⟨few, trivial⟩
          · exact ⟨few, point⟩
  | beginWait =>
      simp only [here] at point
      simp only [RpcCall.advance, here]
      exact call_paced_wait now call few point
  | sleeping wake =>
      simp only [RpcCall.advance, here]
      split
      · next awake =>
          simp only [here] at point
          obtain ⟨waited, _, reached⟩ := point
          refine ⟨few, fun unwaited => ?_, fun _ => ?_⟩
          · cases waited.symm.trans unwaited
          · change call.deadline ≤ now ∨ call.deadline + indexWaitPollInterval * call.polls ≤ now + indexWaitTimeout
            omega
      · exact ⟨few, point⟩
  | returned response =>
      simp only [RpcCall.advance, here]
      exact ⟨few, point⟩

end Pace

structure NodeExact (config : ReferenceIndexConfig) (node : RpcNode tree) : Prop where
  safe : Safe config node.system
  ordered : node.system.chain.TimestampsOrdered
  calls : ∀ call ∈ node.calls, CallExact tree config.jadeTimestamp call ∧ CallPaced node.now call

theorem ordered_apply (config : ReferenceIndexConfig) (system : System tree) (event : SystemEvent tree)
    (ordered : system.chain.TimestampsOrdered) (change : OrderedChange event) : (system.apply config event).chain.TimestampsOrdered := by
  cases event with
  | chainChange chain finalized => exact change
  | beginTurn defer =>
      rw [System.apply]
      split
      · rw [(open_keeps_chain config _ defer).1]
        exact ordered
      · exact ordered
  | proceed =>
      rw [System.apply, (step_keeps_chain config system).1]
      exact ordered
  | providerFailure =>
      rw [System.apply]
      split
      · exact ordered
      · exact ordered
  | crash => exact ordered

theorem call_begun (tree : BlockTree) (jadeTimestamp now : Nat) (query : ReferenceQuery) :
    CallExact tree jadeTimestamp (RpcCall.begin now query) ∧ CallPaced now (RpcCall.begin now query) :=
  ⟨trivial, Nat.zero_le _, fun _ => ⟨rfl, Nat.le_refl _⟩, nofun⟩

theorem node_exact_step (config : ReferenceIndexConfig) (node : RpcNode tree) (event : RpcEvent tree) (kept : NodeExact config node)
    (allowed : RpcAllowed config node event) : NodeExact config (node.step config event) := by
  cases event with
  | index event =>
      refine ⟨safe_apply config node.system kept.safe event allowed.1, ordered_apply config node.system event kept.ordered allowed.2, ?_⟩
      intro call member
      cases event with
      | crash => cases member
      | _ => exact kept.calls call member
  | elapse duration =>
      refine ⟨kept.safe, kept.ordered, fun call member => ?_⟩
      obtain ⟨held, paced⟩ := kept.calls call member
      exact ⟨held, call_paced_later node.now call _ (Nat.le_add_right _ _) paced⟩
  | request reference offset limit =>
      simp only [RpcNode.step, RpcCall.request]
      cases ReferenceQuery.new reference offset limit with
      | error error => exact kept
      | ok query =>
          refine ⟨kept.safe, kept.ordered, ?_⟩
          simp only [List.forall_mem_append, List.forall_mem_singleton]
          exact ⟨kept.calls, call_begun tree config.jadeTimestamp node.now query⟩
  | advance position read =>
      simp only [RpcNode.step]
      split
      · exact kept
      · next call found =>
          obtain ⟨held, paced⟩ := kept.calls call (List.mem_of_getElem? found)
          refine ⟨kept.safe, kept.ordered, fun other member => ?_⟩
          rcases List.mem_or_eq_of_mem_set member with earlier | rfl
          · exact kept.calls other earlier
          · exact ⟨call_exact_advance config node.system node.now call read kept.safe.content held,
              call_paced_advance config node.system node.now call read paced⟩

theorem node_exact_run {config : ReferenceIndexConfig} {chain : CanonicalChain tree} {finalized : Option Nat}
    {events : List (RpcEvent tree)} (ordered : chain.TimestampsOrdered)
    (legal : EachAllowed (RpcNode.step config) (RpcAllowed config) (RpcNode.start chain finalized) events) :
    NodeExact config (runSteps (RpcNode.step config) (RpcNode.start chain finalized) events) :=
  run_invariant _ _ (NodeExact config) (fun node event kept allowed => node_exact_step config node event kept allowed) _ events
    ⟨safe_start config chain finalized, ordered, nofun⟩ legal

theorem advance_answers {config : ReferenceIndexConfig} {system : System tree} {now : Nat} {read : ProviderRead} {call : RpcCall}
    {results : List ReferenceTransactionResult} (running : ∀ response, call.point ≠ .returned response)
    (answered : (call.advance config system now read).point = .returned (.ok results)) :
    call.point = .readTipAgain system.chain.chainInfo results := by
  cases here : call.point with
  | returned response => exact absurd here (running response)
  | readTipAgain before held =>
      simp only [RpcCall.advance, here] at answered
      cases read with
      | failed => cases answered
      | missing | header =>
          simp only [RpcCall.readTipAgainStep] at answered
          split at answered
          · next same =>
              cases answered
              rw [same]
          · cases answered
  | readHeader before =>
      simp only [RpcCall.advance, here] at answered
      cases read with
      | failed | missing => cases answered
      | header number =>
          simp only [RpcCall.readHeaderStep] at answered
          split at answered
          · cases answered
          · split at answered
            · cases answered
            · cases answered
  | readIndex before tip =>
      simp only [RpcCall.advance, here, RpcCall.readIndexStep] at answered
      split at answered
      · cases answered
      · cases answered
      · cases answered
  | beginWait =>
      simp only [RpcCall.advance, here, RpcCall.beginWaitStep] at answered
      split at answered
      · cases answered
      · cases answered
  | sleeping wake =>
      simp only [RpcCall.advance, here] at answered
      split at answered
      · cases answered
      · cases here.symm.trans answered
  | checkDeadline | readTip | checkUnavailable | loadDb | checkPhase =>
      simp only [RpcCall.advance, here] at answered
      split at answered
      · cases answered
      · cases answered

theorem rpc_answers_are_exact (config : ReferenceIndexConfig) (chain : CanonicalChain tree) (finalized : Option Nat)
    (events : List (RpcEvent tree)) (ordered : chain.TimestampsOrdered)
    (legal : EachAllowed (RpcNode.step config) (RpcAllowed config) (RpcNode.start chain finalized) events) :
    ∀ call ∈ (runSteps (RpcNode.step config) (RpcNode.start chain finalized) events).calls,
      call.polls ≤ 60 ∧ (∀ wake, call.point = .sleeping wake → wake ≤ call.deadline) ∧
      ∀ read results, (∀ response, call.point ≠ .returned response) →
        (call.advance config (runSteps (RpcNode.step config) (RpcNode.start chain finalized) events).system
          (runSteps (RpcNode.step config) (RpcNode.start chain finalized) events).now read).point = .returned (.ok results) →
        results = call.query.page ((runSteps (RpcNode.step config) (RpcNode.start chain finalized) events).system.chain.referenceList
          config.jadeTimestamp call.query.reference) := by
  have kept := node_exact_run ordered legal
  intro call member
  obtain ⟨held, few, pace⟩ := kept.calls call member
  refine ⟨few, fun wake asleep => ?_, fun read results running answered => ?_⟩
  · simp only [asleep] at pace
    exact pace.2.1
  · have here := advance_answers running answered
    rw [CallExact, here] at held
    exact held _ kept.ordered rfl

-- A call made after a reorganisation, advanced to its second reading of the
-- head.
def callAfterReorg : List (RpcEvent forkedTree) :=
  reorgBetweenTurns.map .index ++ .request 7 none (some 10) :: List.replicate 6 (.advance 0 (.header 2))

def bracketedCall : RpcCall where
  query := sampleQuery
  deadline := indexWaitTimeout
  waited := false
  point := .readTipAgain secondBranch.chainInfo [canonicalResult]
  polls := 1

theorem rpc_answers_are_exact_sample :
    (runSteps (RpcNode.step sampleConfig) (RpcNode.start shortChain none) callAfterReorg).calls = [bracketedCall] ∧
      [canonicalResult] = sampleQuery.page
        ((runSteps (RpcNode.step sampleConfig) (RpcNode.start shortChain none) callAfterReorg).system.chain.referenceList 0 7) := by
  have calls : (runSteps (RpcNode.step sampleConfig) (RpcNode.start shortChain none) callAfterReorg).calls = [bracketedCall] := by
    decide +kernel
  have exactly := rpc_answers_are_exact sampleConfig shortChain none callAfterReorg (by decide +kernel) (by decide +kernel) bracketedCall
    (by rw [calls]; exact List.mem_singleton_self _)
  exact ⟨calls, exactly.2.2 (.header 2) [canonicalResult] nofun (by decide +kernel)⟩

end MorphReth.ReferenceIndex
