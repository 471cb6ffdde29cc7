import Snakeskin.Administration
import Snakeskin.Broadcasts
import Snakeskin.Library.Histories
import Snakeskin.Proposals

/-! # Justified requests

What the client may send depends on what it was told. A proposal is signed over a nonce that was
just drawn; an envelope goes to an orderer only when every peer has endorsed the transaction in it,
and to a further orderer only when those before it failed; a commit is awaited only after a
broadcast that was not refused. This file states the rule as a property of the history of an
operation, and shows that every high-level operation keeps to it, in any interleaving with others.
-/

namespace Snakeskin

open Wire

variable (rt : Runtime) (users : Set User)

/-! ## The rule -/

/-- What an operation asked so far, with the answers. -/
abbrev History := Coro.History Request Answer

/-- The last thing an operation did was to draw a nonce and the time. -/
def JustDrew (h : History) (drawn : Bytes × Timestamp) : Prop :=
  ∃ before, h = before ++ [⟨.entropy, drawn⟩]

/-- The transaction was generated, on behalf of one of the users, with the nonce and the time just
drawn. -/
def JustGenerated (h : History) (generatedTx : GeneratedTX) : Prop :=
  ∃ drawn, JustDrew h drawn ∧ ∃ requestor ∈ users, ∃ ccName args channel transientMap,
    buildGeneratedTx rt requestor ccName args channel transientMap drawn.1 drawn.2 = .ok generatedTx

/-- The transaction was just proposed to some peers, each of which answered with a response. -/
def JustProposed (h : History) (tx : EndorsedTX) : Prop :=
  ∃ before generatedTx peers, JustGenerated rt users before generatedTx ∧ peers ≠ [] ∧
    ∃ (answers : ProposalAnswers peers.length) (responses : Fin peers.length → ProposalResponse),
      h = before ++ [⟨.processProposals generatedTx.signedProposal peers, answers⟩] ∧
      (∀ i, answers.result i = .ok (responses i)) ∧
      tx = endorsedFrom generatedTx (List.ofFn responses)

/-- The envelope carries a transaction that was just proposed and that all its peers endorsed. -/
def CarriesEndorsed (h : History) (envelope : Envelope) : Prop :=
  ∃ tx, JustProposed rt users h tx ∧ tx.fullyEndorsed = true ∧
    ∃ requestor ∈ users, buildEndorsedTxEnvelope rt tx requestor = .ok envelope

/-- The envelope carries a config update, signed over the nonce just drawn. -/
def CarriesConfigUpdate (h : History) (envelope : Envelope) : Prop :=
  ∃ drawn, JustDrew h drawn ∧ ∃ requestor ∈ users, ∃ channel configUpdate,
    buildConfigUpdateEnvelope rt channel (txContextFromUser rt requestor drawn.1) requestor
      configUpdate drawn.2 = .ok envelope

/-- What was asked was the broadcast of an envelope, and the connection failed. -/
def FailedBroadcast (envelope : Envelope) : (Σ q, Answer q) → Prop
  | ⟨.broadcast _ envelope', stream⟩ =>
      envelope' = envelope ∧ Stream.isConnectionFailure stream = true
  | _ => False

/-- Some orderer was sent an envelope, and did not refuse it. -/
def SomeBroadcastStands (h : History) : Prop :=
  ∃ orderer envelope, ∃ stream : Stream BroadcastResponse,
    ⟨.broadcast orderer envelope, stream⟩ ∈ h ∧ (stream.accepts = true ∨ stream.isSilent = true)

/-- The requests that are justified after a history. -/
def Justified (h : History) : Request → Prop
  | .entropy => True
  | .processProposals signed _ => ∃ generatedTx, JustGenerated rt users h generatedTx ∧
      signed = generatedTx.signedProposal
  | .broadcast _ envelope => ∃ before attempts, h = before ++ attempts ∧
      (∀ attempt ∈ attempts, FailedBroadcast envelope attempt) ∧
      (CarriesEndorsed rt users before envelope ∨ CarriesConfigUpdate rt users before envelope)
  | .deliverFiltered peer envelope => SomeBroadcastStands h ∧
      ∃ drawn, JustDrew h drawn ∧ ∃ requestor ∈ users, ∃ channel,
        (peerFilteredEvents requestor channel peer).getConnectionEnvelope rt .blockUntilReady none
          (some INDEFINITE_STOP_POSITION) drawn.1 drawn.2 = .ok envelope
  | .deliver orderer envelope => ∃ drawn, JustDrew h drawn ∧ ∃ requestor ∈ users, ∃ channel,
      (ordererEvents requestor (some channel) orderer).getConnectionEnvelope rt .blockUntilReady
        (some 0) (some 0) drawn.1 drawn.2 = .ok envelope

/-- A coroutine keeps to the rule, and what it returns satisfies a postcondition with the history it
leaves. -/
abbrev KeepsRule {σ α ε : Type} (post : α → σ → History → Prop)
    (c : Coro σ Request Answer Note ε α) (s : σ) (h : History) : Prop :=
  Coro.Obeys (Justified rt users) post (fun _ _ _ => True) c s h

variable {rt users}

/-- A broadcast that stands is not forgotten. -/
theorem SomeBroadcastStands.mono {h h' : History} (hle : h <+: h') (hstands : SomeBroadcastStands h) :
    SomeBroadcastStands h' := by
  obtain ⟨orderer, envelope, stream, hmem, hstream⟩ := hstands
  exact ⟨orderer, envelope, stream, hle.subset hmem, hstream⟩

/-! ## The parts of an operation -/

/-- A draw comes first: it is always allowed, and what follows has just drawn. -/
theorem keepsRule_draw {σ α ε : Type} {post : α → σ → History → Prop}
    {f : Bytes × Timestamp → Coro σ Request Answer Note ε α} {s : σ} {h : History}
    (hf : ∀ drawn h', JustDrew h' drawn → h <+: h' → KeepsRule rt users post (f drawn) s h') :
    KeepsRule rt users post ((Coro.request Request.entropy).bind f) s h :=
  Coro.Obeys.request_bind trivial fun drawn => hf drawn _ ⟨h, rfl⟩ (List.prefix_append _ _)

/-- A computation without effects comes first. -/
theorem keepsRule_ofExcept_bind {σ α β ε : Type} {post : β → σ → History → Prop} {x : Except ε α}
    {f : α → Coro σ Request Answer Note ε β} {s : σ} {h : History}
    (hf : ∀ a, x = .ok a → KeepsRule rt users post (f a) s h) :
    KeepsRule rt users post ((Coro.ofExcept x).bind f) s h :=
  Coro.Obeys.ofExcept_bind (fun _ _ => trivial) hf

/-- A sequence keeps to the rule where its parts do. -/
theorem keepsRule_bind {σ α β ε : Type} {post : α → σ → History → Prop}
    {post' : β → σ → History → Prop} {c : Coro σ Request Answer Note ε α}
    {f : α → Coro σ Request Answer Note ε β} {s : σ} {h : History}
    (hc : KeepsRule rt users post c s h)
    (hf : ∀ a s' h', h <+: h' → post a s' h' → KeepsRule rt users post' (f a) s' h') :
    KeepsRule rt users post' (c.bind f) s h :=
  Coro.Obeys.bind (Coro.Obeys.mono hf (fun _ _ _ _ _ => trivial) hc)

/-- A transaction just generated may be proposed, and what is returned was just proposed. -/
theorem keepsRule_proposeTx {peers : List Peer} {generatedTx : GeneratedTX} {h : History}
    (hgenerated : JustGenerated rt users h generatedTx) :
    KeepsRule rt users (fun tx _ h' => JustProposed rt users h' tx) (proposeTx peers generatedTx) () h := by
  rw [proposeTx]
  split
  · trivial
  · rename_i hpeers
    refine Coro.Obeys.request_bind ⟨generatedTx, hgenerated, rfl⟩ fun answers => ?_
    refine keepsRule_ofExcept_bind fun responses hresponses => ?_
    -- Every peer has answered, or the proposal would have raised.
    obtain ⟨response, hresponse, rfl⟩ := gather_ofFn_eq_ok.mp hresponses
    exact ⟨h, generatedTx, peers, hgenerated, hpeers, answers, response, rfl,
      fun i => processProposalOnPeer_eq_ok.mp (hresponse i), rfl⟩

/-- The check comes first: what follows has a fully endorsed transaction. -/
theorem keepsRule_check_bind {σ α : Type} {post : α → σ → History → Prop} {tx : EndorsedTX}
    {msg : String} {f : Unit → Async σ α} {s : σ} {h : History}
    (hf : tx.fullyEndorsed = true → KeepsRule rt users post (f ()) s h) :
    KeepsRule rt users post ((Coro.ofExcept (raiseTxProposalError tx msg)).bind f) s h :=
  keepsRule_ofExcept_bind fun _ hcheck => hf (raiseTxProposalError_eq_ok.mp hcheck)

/-- The failover over orderers keeps to the rule, by induction on the orderers; where it returns, a
broadcast stands. -/
theorem keepsRule_broadcastLoop {envelope : Envelope} {before attempts : History}
    (hattempts : ∀ attempt ∈ attempts, FailedBroadcast envelope attempt)
    (hcarries : CarriesEndorsed rt users before envelope ∨ CarriesConfigUpdate rt users before envelope)
    (txId : String) (error : Exc) (orderers : List Orderer) :
    KeepsRule rt users (fun _ _ h' => SomeBroadcastStands h')
      (broadcastLoop envelope txId error orderers) () (before ++ attempts) := by
  induction orderers generalizing attempts error with
  | nil => trivial
  | cons orderer orderers ih =>
      refine Coro.Obeys.tryCatch (Coro.Obeys.request_bind ⟨before, attempts, rfl, hattempts, hcarries⟩
        fun stream => Coro.Obeys.ofExcept (fun response hresponse => ?_) fun e he => ?_)
      · -- The orderer accepts the envelope, or closes its stream.
        refine ⟨orderer, envelope, stream, List.mem_append_right _ (List.mem_singleton_self _), ?_⟩
        obtain ⟨hsilent, -⟩ | ⟨first, hfirst, hstatus, -⟩ := firstBroadcastResponse_eq_ok.mp hresponse
        · exact .inr hsilent
        · exact .inl (by simp [Stream.accepts, hfirst, hstatus])
      · cases e with
        | blockchainConnectionError code details =>
            -- The connection failed, and the next orderer is tried.
            dsimp only
            rw [List.append_assoc]
            refine ih (fun attempt hmem => ?_) _
            obtain hmem | hmem := List.mem_append.mp hmem
            · exact hattempts attempt hmem
            · rw [List.mem_singleton.mp hmem]
              refine ⟨rfl, ?_⟩
              by_contra hfailure
              exact firstBroadcastResponse_ne_connectionError txId (by simpa using hfailure) _ _ he
        | _ => trivial

/-- So does a broadcast. -/
theorem keepsRule_broadcastToOrderers {envelope : Envelope} {h : History}
    (hcarries : CarriesEndorsed rt users h envelope ∨ CarriesConfigUpdate rt users h envelope)
    (orderers : List Orderer) (txId : String) :
    KeepsRule rt users (fun _ _ h' => SomeBroadcastStands h')
      (broadcastToOrderers envelope orderers txId) () h := by
  cases orderers with
  | nil => trivial
  | cons orderer orderers =>
      have hloop := @keepsRule_broadcastLoop rt users envelope h [] (List.forall_mem_nil _) hcarries txId
        (.valueError "error referenced before assignment") (orderer :: orderers)
      rw [List.append_nil] at hloop
      exact hloop

/-- A transaction that was just proposed, and that all peers endorsed, may be committed. -/
theorem keepsRule_commitTx {tx : EndorsedTX} {h : History} (hproposed : JustProposed rt users h tx)
    (hendorsed : tx.fullyEndorsed = true) {requestor : User} (hrequestor : requestor ∈ users)
    (orderers : List Orderer) :
    KeepsRule rt users (fun _ _ h' => SomeBroadcastStands h') (commitTx rt requestor orderers tx) () h :=
  keepsRule_ofExcept_bind fun _ henvelope => keepsRule_broadcastToOrderers
    (.inl ⟨tx, hproposed, hendorsed, requestor, hrequestor, henvelope⟩) orderers tx.txId

/-- An envelope that is built in a coroutine is that of the draw which it has just made. -/
theorem keepsRule_drawConnectionEnvelope (hub : EventHub) (behavior : SeekBehavior)
    (start stop : Option Int) (h : History) :
    KeepsRule rt users (fun envelope _ h' => ∃ drawn, JustDrew h' drawn ∧
        hub.getConnectionEnvelope rt behavior start stop drawn.1 drawn.2 = .ok envelope)
      (hub.drawConnectionEnvelope rt behavior start stop) () h := by
  refine keepsRule_ofExcept_bind fun info hinfo => keepsRule_draw fun drawn h' hdrawn _ => ?_
  refine Coro.Obeys.ofExcept (fun envelope henvelope => ?_) fun _ _ => trivial
  exact ⟨drawn, hdrawn, bind_eq_ok.mpr ⟨info, hinfo, henvelope⟩⟩

/-- Once a broadcast stands, the stream of a peer may be searched for the transaction. -/
theorem keepsRule_getTransaction {h : History} (hstands : SomeBroadcastStands h) {requestor : User}
    (hrequestor : requestor ∈ users) (channel : Option Channel) (peer : Peer) (txId : String) :
    KeepsRule rt users (fun _ _ _ => True)
      (getTransaction rt requestor channel peer txId none .blockUntilReady) () h := by
  refine keepsRule_bind (keepsRule_drawConnectionEnvelope _ _ _ _ h) ?_
  rintro envelope _ h' hle ⟨drawn, hdrawn, henvelope⟩
  exact Coro.Obeys.request_bind
    ⟨hstands.mono hle, drawn, hdrawn, requestor, hrequestor, channel, henvelope⟩
    fun stream => Coro.Obeys.ofExcept (fun _ _ => trivial) fun _ _ => trivial

/-- So may it within a time. -/
theorem keepsRule_waitFor {α : Type} {c : Async Unit α} {h : History}
    (hc : KeepsRule rt users (fun _ _ _ => True) c () h) (timeout : Int) :
    KeepsRule rt users (fun _ _ _ => True) (waitFor c timeout) () h := by
  unfold waitFor
  split
  · trivial
  · refine Coro.Obeys.tryCatch (Coro.Obeys.mono (fun _ _ _ _ _ => trivial) ?_ hc)
    intro e s h' _ _
    split <;> trivial

theorem keepsRule_checkTransaction {h : History} (hstands : SomeBroadcastStands h)
    {requestor : User} (hrequestor : requestor ∈ users) (channel : Option Channel) (peer : Peer)
    (txId : String) (timeout : Int) :
    KeepsRule rt users (fun _ _ _ => True)
      (checkTransaction rt requestor channel peer txId timeout none .blockUntilReady) () h := by
  refine keepsRule_bind (keepsRule_waitFor
    (keepsRule_getTransaction hstands hrequestor channel peer txId) timeout) ?_
  intro tx s h' _ _
  split <;> trivial

/-- A commit may be waited for on the first peer. -/
theorem keepsRule_commitTxAndWait {tx : EndorsedTX} {h : History}
    (hproposed : JustProposed rt users h tx) (hendorsed : tx.fullyEndorsed = true)
    {requestor : User} (hrequestor : requestor ∈ users) (channel : Channel) (peers : List Peer)
    (orderers : List Orderer) (timeout : Int) :
    KeepsRule rt users (fun _ _ _ => True)
      (commitTxAndWait rt requestor channel peers orderers tx timeout) () h := by
  refine keepsRule_bind (keepsRule_commitTx hproposed hendorsed hrequestor orderers) ?_
  intro _ _ h' _ hstands
  cases peers with
  | nil => trivial
  | cons peer peers =>
      exact keepsRule_bind (keepsRule_checkTransaction hstands hrequestor (some channel) peer
        tx.txContext.txId timeout) fun _ _ _ _ _ => trivial

/-! ## The operations -/

/-- A draw and a transaction generated with it. -/
theorem keepsRule_generate {requestor : User} (hrequestor : requestor ∈ users) (ccName : String)
    (args : List Bytes) (channel : Option Channel) (transientMap : Option TransientMap)
    (h : History) :
    KeepsRule rt users (fun generatedTx _ h' => JustGenerated rt users h' generatedTx)
      ((Coro.request Request.entropy).bind fun drawn : Bytes × Timestamp =>
        (Coro.ofExcept (buildGeneratedTx rt requestor ccName args channel transientMap drawn.1
          drawn.2) : Async Unit GeneratedTX)) () h := by
  refine keepsRule_draw fun drawn h' hdrawn _ => ?_
  exact Coro.Obeys.ofExcept (fun generatedTx hgenerated =>
    ⟨drawn, hdrawn, requestor, hrequestor, ccName, args, channel, transientMap, hgenerated⟩)
    fun _ _ => trivial

theorem keepsRule_generateCcTx {requestor : User} (hrequestor : requestor ∈ users) (ccName : String)
    (channel : Channel) (fcn : String) (args : Option (List String))
    (transientMap : Option TransientMap) (h : History) :
    KeepsRule rt users (fun generatedTx _ h' => JustGenerated rt users h' generatedTx)
      (generateCcTx rt requestor ccName channel fcn args transientMap) () h :=
  keepsRule_ofExcept_bind fun fullArgs _ =>
    keepsRule_generate hrequestor ccName fullArgs (some channel) transientMap h

/-- **A transaction is generated, proposed and checked**: what follows has a transaction that was
just proposed and that all peers endorsed. -/
theorem keepsRule_endorsed {α : Type} {post : α → Unit → History → Prop}
    {generate : Async Unit GeneratedTX} {peers : List Peer} {msg : String}
    {f : EndorsedTX → Async Unit α} {h : History}
    (hgenerate : KeepsRule rt users (fun generatedTx _ h' => JustGenerated rt users h' generatedTx)
      generate () h)
    (hf : ∀ tx h', JustProposed rt users h' tx → tx.fullyEndorsed = true →
      KeepsRule rt users post (f tx) () h') :
    KeepsRule rt users post
      (generate.bind fun generatedTx => (proposeTx peers generatedTx).bind fun tx =>
        (Coro.ofExcept (raiseTxProposalError tx msg)).bind fun _ => f tx) () h := by
  refine keepsRule_bind hgenerate fun generatedTx _ h' _ hgenerated => ?_
  refine keepsRule_bind (keepsRule_proposeTx hgenerated) fun tx _ h' _ hproposed => ?_
  exact keepsRule_check_bind fun hendorsed => hf tx h' hproposed hendorsed

/-- A transaction that is generated, proposed, checked and committed. -/
theorem keepsRule_committed {generate : Async Unit GeneratedTX} {requestor : User}
    (hrequestor : requestor ∈ users) {channel : Channel} {peers : List Peer}
    {orderers : List Orderer} {timeout : Int} {msg : String} {h : History}
    (hgenerate : KeepsRule rt users (fun generatedTx _ h' => JustGenerated rt users h' generatedTx)
      generate () h) :
    KeepsRule rt users (fun _ _ _ => True)
      (generate.bind fun generatedTx => (proposeTx peers generatedTx).bind fun tx =>
        (Coro.ofExcept (raiseTxProposalError tx msg)).bind fun _ =>
          (commitTxAndWait rt requestor channel peers orderers tx timeout).bind fun _ =>
            Coro.ret tx) () h :=
  keepsRule_endorsed hgenerate fun _ _ hproposed hendorsed =>
    keepsRule_bind (keepsRule_commitTxAndWait hproposed hendorsed hrequestor channel peers orderers
      timeout) fun _ _ _ _ _ => trivial

theorem keepsRule_invoke {requestor : User} (hrequestor : requestor ∈ users) (peers : List Peer)
    (orderers : List Orderer) (channel : Channel) (ccName fcn : String)
    (args : Option (List String)) (timeout : Int) (transientMap : Option TransientMap) (h : History) :
    KeepsRule rt users (fun _ _ _ => True)
      (invoke rt requestor peers orderers channel ccName fcn args timeout transientMap) () h :=
  keepsRule_committed hrequestor (keepsRule_generateCcTx hrequestor ccName channel fcn args transientMap h)

theorem keepsRule_query {requestor : User} (hrequestor : requestor ∈ users) (peers : List Peer)
    (channel : Channel) (ccName fcn : String) (args : Option (List String))
    (transientMap : Option TransientMap) (h : History) :
    KeepsRule rt users (fun _ _ _ => True)
      (query rt requestor peers channel ccName fcn args transientMap) () h :=
  keepsRule_endorsed (keepsRule_generateCcTx hrequestor ccName channel fcn args transientMap h)
    fun _ _ _ _ => trivial

theorem keepsRule_instantiateChaincode (case : CaseMapping)
    (order order' : SetOrder EndorsementPolicyRole) {requestor : User}
    (hrequestor : requestor ∈ users) (peers : List Peer) (orderers : List Orderer)
    (channel : Channel) (ccSpec : ChaincodeSpec) (endorsementPolicy : Option EndorsementPolicy)
    (upgrade : Bool) (timeout : Int) (h : History) :
    KeepsRule rt users (fun _ _ _ => True)
      (instantiateChaincode rt case order order' requestor peers orderers channel ccSpec
        endorsementPolicy upgrade timeout) () h :=
  keepsRule_committed hrequestor (keepsRule_ofExcept_bind fun args _ =>
    keepsRule_generate hrequestor "lscc" args (some channel) none h)

theorem keepsRule_proposeInstall {requestor : User} (hrequestor : requestor ∈ users)
    (peers : List Peer) (ccSpec : ChaincodeSpec) (args : List Bytes) (h : History) :
    KeepsRule rt users (fun _ _ _ => True) (proposeInstall rt requestor peers ccSpec args) () h :=
  keepsRule_endorsed (keepsRule_generate hrequestor "lscc" args none none h) fun _ _ _ _ => trivial

theorem keepsRule_queryChaincodes {requestor : User} (hrequestor : requestor ∈ users)
    (peers : List Peer) (channel : Option Channel) (fcn msg : String) (h : History) :
    KeepsRule rt users (fun _ _ _ => True) (queryChaincodes rt requestor peers channel fcn msg) () h := by
  refine keepsRule_ofExcept_bind fun arg _ => keepsRule_endorsed
    (keepsRule_generate hrequestor "lscc" [arg] channel none h) fun tx h' _ _ => ?_
  cases tx.peerResponses with
  | nil => trivial
  | cons first rest => exact Coro.Obeys.ofExcept (fun _ _ => trivial) fun _ _ => trivial

theorem keepsRule_submitConfigUpdate {requestor : User} (hrequestor : requestor ∈ users)
    (orderers : List Orderer) (channel : Channel) (configUpdate : Bytes) (h : History) :
    KeepsRule rt users (fun _ _ _ => True)
      (submitConfigUpdate rt requestor orderers channel configUpdate) () h := by
  refine keepsRule_draw fun drawn h' hdrawn _ => keepsRule_ofExcept_bind fun envelope henvelope => ?_
  exact keepsRule_bind (keepsRule_broadcastToOrderers
    (.inr ⟨drawn, hdrawn, requestor, hrequestor, channel, configUpdate, henvelope⟩) orderers _)
    fun _ _ _ _ _ => trivial

theorem keepsRule_proposeJoin {requestor : User} (hrequestor : requestor ∈ users)
    (channel : Channel) (peer : Peer) (block : RawBlock) (h : History) :
    KeepsRule rt users (fun _ _ _ => True) (proposeJoin rt requestor channel peer block) () h := by
  have hgenerate : KeepsRule rt users (fun generatedTx _ h' => JustGenerated rt users h' generatedTx)
      (generateJoinTx rt requestor block) () h :=
    keepsRule_ofExcept_bind fun name _ =>
      keepsRule_generate hrequestor "cscc" [name, rt.serializeToString block.asProto] none none h
  refine keepsRule_bind hgenerate fun generatedTx _ h' _ hgenerated => ?_
  exact keepsRule_bind (keepsRule_proposeTx hgenerated)
    fun _ _ _ _ _ => Coro.Obeys.ofExcept (fun _ _ => trivial) fun _ _ => trivial

theorem keepsRule_originBlock {requestor : User} (hrequestor : requestor ∈ users)
    (channel : Channel) (orderer : Orderer) (h : History) :
    KeepsRule rt users (fun _ _ _ => True) (originBlock rt requestor channel orderer) () h := by
  refine keepsRule_bind (keepsRule_drawConnectionEnvelope _ _ _ _ h) ?_
  rintro envelope _ h' - ⟨drawn, hdrawn, henvelope⟩
  exact Coro.Obeys.request_bind ⟨drawn, hdrawn, requestor, hrequestor, channel, henvelope⟩
    fun stream => Coro.Obeys.ofExcept (fun _ _ => trivial) fun _ _ => trivial

/-- The loop over the orderers keeps to the rule, by induction on the orderers. -/
theorem keepsRule_originLoop {requestor : User} (hrequestor : requestor ∈ users) (channel : Channel)
    (block : Option RawBlock) (connError : Option Exc) (orderers : List Orderer) (h : History) :
    KeepsRule rt users (fun _ _ _ => True)
      (originLoop rt requestor channel block connError orderers) () h := by
  induction orderers generalizing block connError h with
  | nil => trivial
  | cons orderer orderers ih =>
      refine Coro.Obeys.bind (Coro.Obeys.tryCatch (Coro.Obeys.bind (Coro.Obeys.mono ?_ ?_
        (keepsRule_originBlock hrequestor channel orderer h))))
      · exact fun _ _ h' _ _ => ih _ _ h'
      · intro e _ h' _ _
        dsimp only
        split
        · exact ih _ _ h'
        · trivial

theorem keepsRule_joinChannel {requestor : User} (hrequestor : requestor ∈ users)
    (orderers : List Orderer) (channel : Channel) (peer : Peer) (h : History) :
    KeepsRule rt users (fun _ _ _ => True) (joinChannel rt requestor orderers channel peer) () h := by
  rw [joinChannel]
  split
  · trivial
  · refine keepsRule_bind (keepsRule_originLoop hrequestor channel none none orderers h) ?_
    rintro ⟨block, connError⟩ _ h' _ _
    cases connError with
    | some e => trivial
    | none =>
        cases block with
        | none => trivial
        | some block => exact keepsRule_proposeJoin hrequestor channel peer block h'

/-- The loop over the peers keeps to the rule, by induction on the peers. -/
theorem keepsRule_joinLoop {requestor : User} (hrequestor : requestor ∈ users)
    (orderers : List Orderer) (channel : Channel) (peers : List Peer) (h : History) :
    KeepsRule rt users (fun _ _ _ => True)
      (Gateway.joinLoop rt requestor orderers channel peers) () h := by
  induction peers generalizing h with
  | nil => trivial
  | cons peer peers ih =>
      exact keepsRule_bind (keepsRule_joinChannel hrequestor orderers channel peer h)
        fun _ _ h' _ _ => ih h'

/-! ## The builder -/

section Builder

variable {L : Type} (builder : GatewayTXBuilder)

/-- A propose operation stores a transaction that was just proposed, and that all peers endorsed. -/
theorem keepsRule_propose {s : BuilderState L} {h : History}
    (hgenerated : JustGenerated rt users h builder.transaction) :
    KeepsRule rt users (fun _ s' h' => ∃ tx, s'.endorsedTx = some tx ∧ tx.fullyEndorsed = true ∧
      JustProposed rt users h' tx) (builder.propose true) s h := by
  refine keepsRule_bind (Coro.Obeys.mono (fun _ _ _ _ hpost => hpost) (fun _ _ _ _ _ => trivial)
    (Coro.Obeys.lift (keepsRule_proposeTx hgenerated) s)) ?_
  rintro tx s' h' - ⟨hproposed, -⟩
  refine Coro.Obeys.annotate_bind (Coro.Obeys.modify_bind ?_)
  exact Coro.Obeys.ofExcept
    (fun _ hcheck => ⟨tx, rfl, raiseTxProposalError_eq_ok.mp hcheck, hproposed⟩) fun _ _ => trivial

/-- A submit operation of such a transaction leaves a broadcast that stands. -/
theorem keepsRule_submit
    (hrequestor : ∀ requestor, builder.gateway.requestor = some requestor → requestor ∈ users)
    {s : BuilderState L} {h : History} {tx : EndorsedTX} (hs : s.endorsedTx = some tx)
    (hendorsed : tx.fullyEndorsed = true) (hproposed : JustProposed rt users h tx) :
    KeepsRule rt users (fun _ _ h' => SomeBroadcastStands h') (builder.submit rt) s h := by
  refine Coro.Obeys.read_bind ?_
  rw [hs]
  have hcommit : KeepsRule rt users (fun _ _ h' => SomeBroadcastStands h')
      (builder.commit rt tx) () h := by
    unfold GatewayTXBuilder.commit
    split
    · rename_i requestor hsome
      exact keepsRule_commitTx hproposed hendorsed (hrequestor requestor hsome)
        builder.gateway.orderers
    · trivial
  refine Coro.Obeys.annotate_bind (keepsRule_bind (Coro.Obeys.mono (fun _ _ _ _ hpost => hpost)
    (fun _ _ _ _ _ => trivial) (Coro.Obeys.lift hcommit s)) ?_)
  rintro _ s' h' - ⟨hstands, -⟩
  exact Coro.Obeys.annotate_bind (Coro.Obeys.modify_bind hstands)

theorem keepsRule_waitOnPeer
    (hrequestor : ∀ requestor, builder.gateway.requestor = some requestor → requestor ∈ users)
    {s : BuilderState L} {h : History} (hstands : SomeBroadcastStands h)
    (timeout : Int) (peer : Peer) :
    KeepsRule rt users (fun _ _ _ => True) (builder.waitOnPeer rt true timeout peer) s h := by
  refine Coro.Obeys.read_bind ?_
  cases s.endorsedTx with
  | none => trivial
  | some tx =>
      have hawait : KeepsRule rt users (fun _ _ _ => True)
          (builder.awaitTransaction rt true timeout tx.txId peer) () h := by
        unfold GatewayTXBuilder.awaitTransaction
        split
        · rename_i requestor hsome
          exact keepsRule_checkTransaction hstands (hrequestor requestor hsome)
            builder.gateway.channel peer tx.txId timeout
        · exact keepsRule_waitFor (c := Coro.raise _) trivial timeout
      exact keepsRule_bind (Coro.Obeys.mono (fun _ _ _ _ hpost => hpost) (fun _ _ _ _ _ => trivial)
        (Coro.Obeys.lift hawait s)) fun _ _ _ _ _ => trivial

/-- The loop over the peers keeps to the rule, by induction on the peers. -/
theorem keepsRule_waitLoop
    (hrequestor : ∀ requestor, builder.gateway.requestor = some requestor → requestor ∈ users)
    {s : BuilderState L} {h : History} (hstands : SomeBroadcastStands h)
    (timeout : Int) (error : Exc) (peers : List Peer) :
    KeepsRule rt users (fun _ _ _ => True) (builder.waitLoop rt true timeout error peers) s h := by
  induction peers generalizing s h error with
  | nil => trivial
  | cons peer peers ih =>
      refine Coro.Obeys.tryCatch (Coro.Obeys.mono (fun _ _ _ _ _ => trivial) ?_
        (keepsRule_waitOnPeer builder hrequestor hstands timeout peer))
      intro e s' h' hle _
      split
      · exact ih (hstands.mono hle) e
      · trivial

/-- One operation of a queue, and the rest of the queue. -/
theorem keepsRule_runLoop_cons {post post' : Unit → BuilderState L → History → Prop}
    {operation : Operation} {operations : List Operation} {s : BuilderState L} {h : History}
    (hfirst : KeepsRule rt users post (builder.operate rt operation.kind) s h)
    (hrest : ∀ s' h', post () s' h' → KeepsRule rt users post' (builder.runLoop rt operations) s' h') :
    KeepsRule rt users post' (builder.runLoop rt (operation :: operations)) s h :=
  Coro.Obeys.annotate_bind (keepsRule_bind hfirst
    fun _ s' h' _ hpost => Coro.Obeys.annotate_bind (hrest s' h' hpost))

/-- The operations of a queue keep to the rule where the loop over them does. -/
theorem keepsRule_runOperations {operation : Operation} {operations : List Operation}
    {s : BuilderState (List Operation)} {h : History}
    (hs : s.operations = some (operation :: operations))
    (hloop : KeepsRule rt users (fun _ _ _ => True)
      (builder.runLoop rt (operation :: operations)) s h) :
    KeepsRule rt users (fun _ _ _ => True) (builder.runOperations rt) s h := by
  refine Coro.Obeys.read_bind ?_
  rw [hs]
  refine keepsRule_bind hloop fun _ s' h' _ _ => ?_
  exact Coro.Obeys.modify_bind (Coro.Obeys.read_bind
    (Coro.Obeys.ofExcept (fun _ _ => trivial) fun _ _ => trivial))

/-- **A builder with propose, submit and wait queued** keeps to the rule. -/
theorem keepsRule_awaitNew_invoke
    (hrequestor : ∀ requestor, builder.gateway.requestor = some requestor → requestor ∈ users)
    {h : History} (hgenerated : JustGenerated rt users h builder.transaction) (timeout : Int) :
    KeepsRule rt users (fun _ _ _ => True)
      (builder.awaitNew rt [.propose true, .submit, .waitForCommit true timeout]) () h := by
  refine Coro.Obeys.mono (fun _ _ _ _ _ => trivial) (fun _ _ _ _ _ => trivial)
    (Coro.Obeys.withState (keepsRule_runOperations builder rfl
      (keepsRule_runLoop_cons builder (keepsRule_propose builder hgenerated) ?_)))
  rintro s h ⟨tx, hs, hendorsed, hproposed⟩
  refine keepsRule_runLoop_cons builder
    (keepsRule_submit builder hrequestor hs hendorsed hproposed) ?_
  intro s h hstands
  have hwait : KeepsRule rt users (fun _ _ _ => True) (builder.waitForCommit rt true timeout) s h := by
    refine Coro.Obeys.read_bind ?_
    split
    · exact keepsRule_waitLoop builder hrequestor hstands timeout _ _
    · trivial
  exact keepsRule_runLoop_cons builder hwait fun _ _ _ => trivial

/-- So does a builder with a propose queued. -/
theorem keepsRule_awaitNew_query {h : History}
    (hgenerated : JustGenerated rt users h builder.transaction) :
    KeepsRule rt users (fun _ _ _ => True) (builder.awaitNew rt [.propose true]) () h :=
  Coro.Obeys.mono (fun _ _ _ _ _ => trivial) (fun _ _ _ _ _ => trivial)
    (Coro.Obeys.withState (keepsRule_runOperations builder rfl
      (keepsRule_runLoop_cons builder (keepsRule_propose builder hgenerated)
        fun _ _ _ => trivial)))

end Builder

theorem keepsRule_transact {gateway : Gateway}
    (hrequestor : ∀ requestor, gateway.requestor = some requestor → requestor ∈ users)
    (fcn : String) (args : Option (List String)) (transientMap : Option TransientMap) (h : History) :
    KeepsRule rt users (fun generatedTx _ h' => JustGenerated rt users h' generatedTx)
      (gateway.transact rt fcn args transientMap) () h := by
  unfold Gateway.transact
  split
  · trivial
  · split
    · trivial
    · trivial
    · trivial
    · rename_i hsome _
      exact keepsRule_generateCcTx (hrequestor _ hsome) _ _ fcn args transientMap h

theorem keepsRule_gatewayInvoke {gateway : Gateway}
    (hrequestor : ∀ requestor, gateway.requestor = some requestor → requestor ∈ users)
    (fcn : String) (args : Option (List String)) (transientMap : Option TransientMap)
    (timeout : Int) (h : History) :
    KeepsRule rt users (fun _ _ _ => True) (gateway.invoke rt fcn args transientMap timeout) () h :=
  keepsRule_bind (keepsRule_transact hrequestor fcn args transientMap h)
    fun generatedTx _ _ _ hgenerated =>
      keepsRule_awaitNew_invoke ⟨gateway, generatedTx⟩ hrequestor hgenerated timeout

theorem keepsRule_gatewayQuery {gateway : Gateway}
    (hrequestor : ∀ requestor, gateway.requestor = some requestor → requestor ∈ users)
    (fcn : String) (args : Option (List String)) (transientMap : Option TransientMap) (h : History) :
    KeepsRule rt users (fun _ _ _ => True) (gateway.query rt fcn args transientMap) () h :=
  keepsRule_bind (keepsRule_transact hrequestor fcn args transientMap h)
    fun generatedTx _ _ _ hgenerated => keepsRule_awaitNew_query ⟨gateway, generatedTx⟩ hgenerated

end Snakeskin
