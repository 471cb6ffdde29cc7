import Snakeskin.Administration
import Snakeskin.Broadcasts
import Snakeskin.HighLevelPaths
import Snakeskin.Proposals

/-! # When operations return

The operations that commit a transaction generate it, propose it, commit it and wait for it. This
file says when such an operation returns, for every network: what each party must have answered, and
what was sent by then. -/

namespace Snakeskin

open Wire

variable (rt : Runtime) (network : Network)

/-! ## The answers that count -/

/-- Whether a request is a proposal. -/
def Request.isProposal : Request → Bool
  | .processProposals _ _ => true
  | _ => false

/-- Every peer answers a proposal, and the transaction has their responses in the order of the
peers. -/
def AnsweredByAll (peers : List Peer) (generatedTx : GeneratedTX) (sends : List Request)
    (tx : EndorsedTX) : Prop :=
  let answers : ProposalAnswers peers.length :=
    network sends (.processProposals generatedTx.signedProposal peers)
  ∃ responses : Fin peers.length → ProposalResponse,
    (∀ i, answers.result i = .ok (responses i)) ∧
    tx = endorsedFrom generatedTx (List.ofFn responses)

/-- Every peer answers a proposal with status 200, and the transaction has their responses in the
order of the peers. -/
def EndorsedByAll (peers : List Peer) (generatedTx : GeneratedTX) (sends : List Request)
    (tx : EndorsedTX) : Prop :=
  let answers : ProposalAnswers peers.length :=
    network sends (.processProposals generatedTx.signedProposal peers)
  ∃ responses : Fin peers.length → ProposalResponse,
    (∀ i, answers.result i = .ok (responses i) ∧ (responses i).response.status = 200) ∧
    tx = endorsedFrom generatedTx (List.ofFn responses)

/-- An orderer takes an envelope, once those tried before it could not be reached. It may accept it,
or close its stream. -/
def TakenAfter (envelope : Envelope) (sends : List Request) (tried : List Orderer)
    (orderer : Orderer) : Prop :=
  let stream : Stream BroadcastResponse :=
    network (sends ++ tried.map (.broadcast · envelope)) (.broadcast orderer envelope)
  (∀ s ∈ orderersStreams network envelope sends tried, s.isConnectionFailure = true) ∧
    (stream.accepts = true ∨ stream.isSilent = true)

/-- The stream of a peer gives the transaction with the valid code before it gives an error. -/
def CommitSeen (requestor : User) (channel : Option Channel) (peer : Peer) (txId : String)
    (sends : List Request) (envelope : Envelope) (tx : FilteredTX) : Prop :=
  let drawn : Bytes × Timestamp := network sends .entropy
  (peerFilteredEvents requestor channel peer).getConnectionEnvelope rt .blockUntilReady none
      (some INDEFINITE_STOP_POSITION) drawn.1 drawn.2 = .ok envelope ∧
    findTransaction txId (streamFilteredBlocks
      (network (sends ++ [.entropy]) (.deliverFiltered peer envelope))).blocks = some tx ∧
    tx.txValidationCode = VALID

/-! ## The parts -/

/-- A sequence is observed to return when its parts are. -/
theorem observe_bind_eq_ok {ε α β : Type} {c : Coro Unit Request Answer Note ε α}
    {f : α → Coro Unit Request Answer Note ε β} {b : β} {sends sends' : List Request} :
    Coro.observe network (c.bind f) () sends = (.ok b, (), sends') ↔
      ∃ a between, Coro.observe network c () sends = (.ok a, (), between) ∧
        Coro.observe network (f a) () between = (.ok b, (), sends') := by
  rw [Coro.observe_bind]
  constructor
  · intro h
    rcases hc : Coro.observe network c () sends with ⟨e | a, ⟨⟩, between⟩
    · rw [hc] at h
      cases h
    · rw [hc] at h
      exact ⟨a, between, rfl, h⟩
  · rintro ⟨a, between, hc, hf⟩
    rw [hc]
    exact hf

/-- A computation without effects is observed to return when it does. -/
theorem observe_ofExcept_eq_ok {ε α : Type} {x : Except ε α} {a : α}
    {sends sends' : List Request} :
    Coro.observe network (Coro.ofExcept x : Coro Unit Request Answer Note ε α) () sends =
        (.ok a, (), sends') ↔
      x = .ok a ∧ sends' = sends := by
  rw [Coro.observe_ofExcept]
  constructor
  · intro h
    exact ⟨congrArg Prod.fst h, (congrArg (fun outcome => outcome.2.2) h).symm⟩
  · rintro ⟨rfl, rfl⟩
    rfl

/-- A generation is observed to return when its arguments are made and the transaction is built with
what is drawn. -/
theorem observe_generate_eq_ok {requestor : User} {ccName : String} {args : Except Exc (List Bytes)}
    {channel : Option Channel} {transientMap : Option TransientMap} {tx : GeneratedTX}
    {sends sends' : List Request} :
    Coro.observe network (do
        let args ← Coro.ofExcept args
        let (nonce, timestamp) : Bytes × Timestamp ← Coro.request Request.entropy
        Coro.ofExcept (buildGeneratedTx rt requestor ccName args channel transientMap nonce
          timestamp) : Async Unit GeneratedTX) () sends = (.ok tx, (), sends') ↔
      ∃ list, args = .ok list ∧
        let drawn : Bytes × Timestamp := network sends .entropy
        buildGeneratedTx rt requestor ccName list channel transientMap drawn.1 drawn.2 = .ok tx ∧
          sends' = sends ++ [.entropy] := by
  simp only [Coro.bind_eq, observe_bind_eq_ok, observe_ofExcept_eq_ok]
  constructor
  · rintro ⟨list, _, ⟨hargs, rfl⟩, hbuild⟩
    exact ⟨list, hargs, (observe_ofExcept_eq_ok network).mp hbuild⟩
  · rintro ⟨list, hargs, hbuild⟩
    exact ⟨list, sends, ⟨hargs, rfl⟩, (observe_ofExcept_eq_ok network).mpr hbuild⟩

/-- A proposal returns when every peer answers it. -/
theorem observe_proposeTx_eq_ok {peers : List Peer} {generatedTx : GeneratedTX} {tx : EndorsedTX}
    {sends sends' : List Request} :
    Coro.observe network (proposeTx peers generatedTx) () sends = (.ok tx, (), sends') ↔
      peers ≠ [] ∧ AnsweredByAll network peers generatedTx sends tx ∧
        sends' = sends ++ [.processProposals generatedTx.signedProposal peers] := by
  by_cases hpeers : peers = []
  · rw [proposeTx, if_pos hpeers]
    exact iff_of_false (fun h => by cases h) fun h => h.1 hpeers
  rw [observe_proposeTx network hpeers]
  simp only [Prod.mk.injEq, map_eq_ok, gather_ofFn_eq_ok, processProposalOnPeer_eq_ok, true_and]
  constructor
  · rintro ⟨⟨_, ⟨responses, hresponses, rfl⟩, rfl⟩, rfl⟩
    exact ⟨hpeers, ⟨responses, hresponses, rfl⟩, rfl⟩
  · rintro ⟨-, ⟨responses, hresponses, rfl⟩, rfl⟩
    exact ⟨⟨_, ⟨responses, hresponses, rfl⟩, rfl⟩, rfl⟩

/-- Every peer endorses when every peer answers and the transaction is fully endorsed. -/
theorem endorsedByAll_iff {peers : List Peer} {generatedTx : GeneratedTX} {sends : List Request}
    {tx : EndorsedTX} :
    EndorsedByAll network peers generatedTx sends tx ↔
      AnsweredByAll network peers generatedTx sends tx ∧ tx.fullyEndorsed = true := by
  constructor
  · rintro ⟨responses, hresponses, rfl⟩
    refine ⟨⟨responses, fun i => (hresponses i).1, rfl⟩, ?_⟩
    refine (EndorsedTX.fullyEndorsed_iff _).mpr fun r hr => ?_
    obtain ⟨i, rfl⟩ := List.mem_ofFn.mp hr
    exact (hresponses i).2
  · rintro ⟨⟨responses, hresponses, rfl⟩, hendorsed⟩
    refine ⟨responses, fun i => ⟨hresponses i, ?_⟩, rfl⟩
    exact (EndorsedTX.fullyEndorsed_iff _).mp hendorsed _ (List.mem_ofFn.mpr ⟨i, rfl⟩)

/-- **A proposal and its check return** when every peer endorses. -/
theorem observe_proposeChecked_eq_ok {peers : List Peer} {generatedTx : GeneratedTX} {msg : String}
    {tx : EndorsedTX} {sends sends' : List Request} :
    Coro.observe network (proposeChecked peers generatedTx msg) () sends = (.ok tx, (), sends') ↔
      peers ≠ [] ∧ EndorsedByAll network peers generatedTx sends tx ∧
        sends' = sends ++ [.processProposals generatedTx.signedProposal peers] := by
  rw [proposeChecked, Coro.bind_eq, observe_bind_eq_ok]
  simp only [Coro.bind_eq, observe_bind_eq_ok, observe_proposeTx_eq_ok, observe_ofExcept_eq_ok,
    endorsedByAll_iff]
  constructor
  · rintro ⟨endorsed, _, ⟨hpeers, hanswered, rfl⟩, ⟨⟩, _, ⟨hraise, rfl⟩, hret⟩
    cases hret
    exact ⟨hpeers, ⟨hanswered, raiseTxProposalError_eq_ok.mp hraise⟩, rfl⟩
  · rintro ⟨hpeers, ⟨hanswered, hendorsed⟩, rfl⟩
    exact ⟨tx, _, ⟨hpeers, hanswered, rfl⟩, (), _,
      ⟨raiseTxProposalError_eq_ok.mpr hendorsed, rfl⟩, rfl⟩

/-- An orderer takes an envelope after another when the other could not be reached, and it takes the
envelope next. -/
theorem takenAfter_cons {envelope : Envelope} {sends : List Request} {first orderer : Orderer}
    {tried : List Orderer} :
    TakenAfter network envelope sends (first :: tried) orderer ↔
      Stream.isConnectionFailure
          (network sends (.broadcast first envelope) : Stream BroadcastResponse) = true ∧
        TakenAfter network envelope (sends ++ [.broadcast first envelope]) tried orderer := by
  rw [TakenAfter, TakenAfter, orderersStreams, ← and_assoc]
  refine and_congr List.forall_mem_cons ?_
  rw [List.map_cons, List.append_assoc, List.singleton_append]

/-- A stream that accepts or is silent returns, and no other. -/
theorem firstBroadcastResponse_returns_iff (txId : String) (stream : Stream BroadcastResponse) :
    (∃ response, firstBroadcastResponse txId stream = .ok response) ↔
      stream.accepts = true ∨ stream.isSilent = true := by
  simp only [firstBroadcastResponse_eq_ok, Stream.accepts]
  constructor
  · rintro ⟨_, ⟨hsilent, -⟩ | ⟨response, hhead, hstatus, -⟩⟩
    · exact .inr hsilent
    · refine .inl ?_
      rw [hhead]
      exact decide_eq_true hstatus
  · rintro (haccepts | hsilent)
    · obtain ⟨response, hhead, hstatus⟩ := (Option.any_eq_true _ _).mp haccepts
      exact ⟨_, .inr ⟨response, hhead, of_decide_eq_true hstatus, rfl⟩⟩
    · exact ⟨none, .inl ⟨hsilent, rfl⟩⟩

/-- The loop over the orderers returns when one of them takes the envelope after those before it
could not be reached, by induction on the orderers. -/
theorem observe_broadcastLoop_returns_iff {envelope : Envelope} {txId : String} {error : Exc}
    {orderers : List Orderer} {sends sends' : List Request} :
    (∃ response, Coro.observe network (broadcastLoop envelope txId error orderers) () sends =
        (.ok response, (), sends')) ↔
      ∃ tried orderer rest, orderers = tried ++ orderer :: rest ∧
        TakenAfter network envelope sends tried orderer ∧
        sends' = sends ++ tried.map (.broadcast · envelope) ++ [.broadcast orderer envelope] := by
  induction orderers generalizing error sends with
  | nil => simp [broadcastLoop]
  | cons first orderers ih =>
      rw [broadcastLoop]
      simp only [Coro.observe_tryCatch, observe_broadcastToOrderer]
      cases hfailure : Stream.isConnectionFailure
          (network sends (.broadcast first envelope) : Stream BroadcastResponse) with
      | true =>
          obtain ⟨e, hfirst⟩ := firstBroadcastResponse_of_failure txId hfailure
          simp only [hfirst, RpcError.toExc]
          rw [ih]
          constructor
          · rintro ⟨tried, orderer, rest, rfl, htaken, rfl⟩
            refine ⟨first :: tried, orderer, rest, rfl, ?_, ?_⟩
            · exact (takenAfter_cons network).mpr ⟨hfailure, htaken⟩
            · simp only [List.map_cons, List.append_assoc, List.singleton_append]
          · rintro ⟨_ | ⟨first', tried⟩, orderer, rest, heq, htaken, rfl⟩
            · -- The first orderer cannot have taken the envelope.
              cases heq
              obtain ⟨response, hresponse⟩ :=
                (firstBroadcastResponse_returns_iff txId _).mpr htaken.2
              simp only [List.map_nil, List.append_nil] at hresponse
              rw [hfirst] at hresponse
              cases hresponse
            · cases heq
              refine ⟨tried, orderer, rest, rfl, ((takenAfter_cons network).mp htaken).2, ?_⟩
              simp only [List.map_cons, List.append_assoc, List.singleton_append]
      | false =>
          have hne := firstBroadcastResponse_ne_connectionError txId hfailure
          have hreturns := firstBroadcastResponse_returns_iff txId
            (network sends (.broadcast first envelope) : Stream BroadcastResponse)
          rcases hfirst : firstBroadcastResponse txId
            (network sends (.broadcast first envelope) : Stream BroadcastResponse) with e | response
          · -- The first orderer refuses, which ends the loop.
            refine iff_of_false ?_ ?_
            · rintro ⟨response, hresponse⟩
              cases e with
              | blockchainConnectionError code details => exact hne code details hfirst
              | _ => cases hresponse
            · rintro ⟨_ | ⟨first', tried⟩, orderer, rest, heq, htaken, -⟩
              · cases heq
                have htaken := htaken.2
                rw [List.map_nil, List.append_nil] at htaken
                obtain ⟨response, hresponse⟩ := hreturns.mpr htaken
                rw [hfirst] at hresponse
                cases hresponse
              · cases heq
                have hfirst := ((takenAfter_cons network).mp htaken).1
                rw [hfailure] at hfirst
                cases hfirst
          · constructor
            · rintro ⟨_, hresponse⟩
              cases hresponse
              refine ⟨[], first, orderers, rfl, ⟨fun s hs => (by cases hs), ?_⟩, ?_⟩
              · rw [List.map_nil, List.append_nil]
                exact hreturns.mp ⟨response, hfirst⟩
              · rw [List.map_nil, List.append_nil]
            · rintro ⟨_ | ⟨first', tried⟩, orderer, rest, heq, htaken, rfl⟩
              · cases heq
                exact ⟨response, by rw [List.map_nil, List.append_nil]⟩
              · cases heq
                have hfirst := ((takenAfter_cons network).mp htaken).1
                rw [hfailure] at hfirst
                cases hfirst

/-- **A broadcast returns** when an orderer takes the envelope after those before it could not be
reached. -/
theorem observe_broadcastToOrderers_returns_iff (envelope : Envelope) (txId : String)
    (orderers : List Orderer) (sends sends' : List Request) :
    (∃ response, Coro.observe network (broadcastToOrderers envelope orderers txId) () sends =
        (.ok response, (), sends')) ↔
      ∃ tried orderer rest, orderers = tried ++ orderer :: rest ∧
        TakenAfter network envelope sends tried orderer ∧
        sends' = sends ++ tried.map (.broadcast · envelope) ++ [.broadcast orderer envelope] := by
  by_cases horderers : orderers = []
  · subst horderers
    refine iff_of_false ?_ ?_
    · rintro ⟨response, h⟩
      cases h
    · rintro ⟨tried, orderer, rest, heq, -⟩
      simp at heq
  · rw [broadcastToOrderers_of_ne_nil envelope txId horderers]
    exact observe_broadcastLoop_returns_iff network

/-- The search returns what it finds. -/
theorem searchTransaction_eq_ok {txId : String} {yielded : Yielded FilteredBlock}
    {tx : FilteredTX} :
    searchTransaction txId yielded = .ok tx ↔ findTransaction txId yielded.blocks = some tx := by
  unfold searchTransaction
  cases findTransaction txId yielded.blocks with
  | some found => simp
  | none => cases yielded.error <;> simp

/-- **A check returns** when there is time to wait and the stream gives the transaction as valid. -/
theorem observe_checkTransaction_eq_ok {requestor : User} {channel : Option Channel} {peer : Peer}
    {txId : String} {timeout : Int} {tx : FilteredTX} {sends sends' : List Request} :
    Coro.observe network (checkTransaction rt requestor channel peer txId timeout none
        .blockUntilReady) () sends = (.ok tx, (), sends') ↔
      0 < timeout ∧ ∃ envelope, CommitSeen rt network requestor channel peer txId sends envelope tx ∧
        sends' = sends ++ [.entropy, .deliverFiltered peer envelope] := by
  simp only [checkTransaction, Coro.bind_eq, observe_bind_eq_ok, observe_waitFor]
  by_cases htimeout : timeout ≤ 0
  · refine iff_of_false ?_ fun h => absurd h.1 (not_lt.mpr htimeout)
    rw [if_pos htimeout]
    rintro ⟨a, between, h, -⟩
    cases h
  rw [if_neg htimeout, observe_getTransaction]
  dsimp only
  constructor
  · rintro ⟨found, between, hfound, hchecked⟩
    split at hfound
    · rename_i found' _ between' hsearch
      cases hfound
      split at hsearch
      · cases hsearch
      · rename_i envelope henvelope
        obtain ⟨hsearch, hsends⟩ := Prod.ext_iff.mp hsearch
        have hsends := (Prod.ext_iff.mp hsends).2
        split at hchecked
        · cases hchecked
        · rename_i hvalid
          cases hchecked
          refine ⟨not_le.mp htimeout, envelope, ⟨henvelope, searchTransaction_eq_ok.mp hsearch,
            not_not.mp hvalid⟩, ?_⟩
          rw [List.append_assoc] at hsends
          exact hsends.symm
    · cases hfound
  · rintro ⟨-, envelope, ⟨henvelope, hfind, hvalid⟩, rfl⟩
    refine ⟨tx, sends ++ [.entropy, .deliverFiltered peer envelope], ?_, ?_⟩
    · rw [henvelope]
      dsimp only
      rw [searchTransaction_eq_ok.mpr hfind, List.append_assoc]
      rfl
    · rw [if_neg (not_not.mpr hvalid)]
      rfl

/-! ## The operations -/

/-- What the orderers and the first peer do for an endorsed transaction to be committed: an orderer
takes its envelope, and the peer gives it as valid within the timeout. With the requests that are
sent meanwhile. -/
def CommitsThrough (requestor : User) (channel : Channel) (peers : List Peer)
    (orderers : List Orderer) (timeout : Int) (tx : EndorsedTX) (sends sends' : List Request) :
    Prop :=
  ∃ envelope tried orderer rest, buildEndorsedTxEnvelope rt tx requestor = .ok envelope ∧
    orderers = tried ++ orderer :: rest ∧ TakenAfter network envelope sends tried orderer ∧
    ∃ peer others seek filteredTx, peers = peer :: others ∧ 0 < timeout ∧
      let committed := sends ++ tried.map (.broadcast · envelope) ++ [.broadcast orderer envelope]
      CommitSeen rt network requestor (some channel) peer tx.txId committed seek filteredTx ∧
        sends' = committed ++ [.entropy, .deliverFiltered peer seek]

/-- What the parties do for a generated transaction to be returned: every peer endorses it, and it
is committed. -/
def RunsThrough (requestor : User) (channel : Channel) (peers : List Peer) (orderers : List Orderer)
    (timeout : Int) (generatedTx : GeneratedTX) (sends : List Request) (tx : EndorsedTX)
    (sends' : List Request) : Prop :=
  EndorsedByAll network peers generatedTx sends tx ∧
    CommitsThrough rt network requestor channel peers orderers timeout tx
      (sends ++ [.processProposals generatedTx.signedProposal peers]) sends'

/-- **A commit with its wait returns** when it is taken and seen. -/
theorem observe_commitTxAndWait_eq_ok {requestor : User} {channel : Channel} {peers : List Peer}
    {orderers : List Orderer} {timeout : Int} {tx : EndorsedTX} {sends sends' : List Request} :
    Coro.observe network (commitTxAndWait rt requestor channel peers orderers tx timeout) () sends =
        (.ok (), (), sends') ↔
      CommitsThrough rt network requestor channel peers orderers timeout tx sends sends' := by
  simp only [commitTxAndWait, commitTx, Coro.bind_eq, observe_bind_eq_ok, observe_ofExcept_eq_ok]
  constructor
  · rintro ⟨response, between, ⟨envelope, _, ⟨henvelope, rfl⟩, hbroadcast⟩, hwait⟩
    obtain ⟨tried, orderer, rest, horderers, htaken, rfl⟩ :=
      (observe_broadcastToOrderers_returns_iff network _ _ _ _ _).mp ⟨response, hbroadcast⟩
    cases peers with
    | nil => cases hwait
    | cons peer others =>
        obtain ⟨filteredTx, _, hcheck, hret⟩ := (observe_bind_eq_ok network).mp hwait
        cases hret
        obtain ⟨htimeout, seek, hseen, rfl⟩ := (observe_checkTransaction_eq_ok rt network).mp hcheck
        exact ⟨envelope, tried, orderer, rest, henvelope, horderers, htaken, peer, others, seek,
          filteredTx, rfl, htimeout, hseen, rfl⟩
  · rintro ⟨envelope, tried, orderer, rest, henvelope, horderers, htaken, peer, others, seek,
      filteredTx, rfl, htimeout, hseen, rfl⟩
    obtain ⟨response, hbroadcast⟩ := (observe_broadcastToOrderers_returns_iff network envelope
      tx.txId _ _ _).mpr ⟨tried, orderer, rest, horderers, htaken, rfl⟩
    refine ⟨response, _, ⟨envelope, sends, ⟨henvelope, rfl⟩, hbroadcast⟩, ?_⟩
    refine (observe_bind_eq_ok network).mpr ⟨filteredTx, _, ?_, rfl⟩
    exact (observe_checkTransaction_eq_ok rt network).mpr ⟨htimeout, seek, hseen, rfl⟩

/-- **Proposing, checking, committing and waiting** return when everything runs through. -/
theorem observe_proposeAndCommit_eq_ok {requestor : User} {channel : Channel} {peers : List Peer}
    {orderers : List Orderer} {timeout : Int} {generatedTx : GeneratedTX} {msg : String}
    {tx : EndorsedTX} {sends sends' : List Request} :
    Coro.observe network (do
        let endorsedTx ← proposeTx peers generatedTx
        Coro.ofExcept (raiseTxProposalError endorsedTx msg)
        commitTxAndWait rt requestor channel peers orderers endorsedTx timeout
        return endorsedTx) () sends = (.ok tx, (), sends') ↔
      RunsThrough rt network requestor channel peers orderers timeout generatedTx sends tx
        sends' := by
  -- The check of the proposal belongs to it.
  have hsplit : Coro.observe network (do
        let endorsedTx ← proposeTx peers generatedTx
        Coro.ofExcept (raiseTxProposalError endorsedTx msg)
        commitTxAndWait rt requestor channel peers orderers endorsedTx timeout
        return endorsedTx) () sends =
      Coro.observe network (do
        let endorsedTx ← proposeChecked peers generatedTx msg
        commitTxAndWait rt requestor channel peers orderers endorsedTx timeout
        return endorsedTx) () sends := by
    simp only [proposeChecked, Coro.bind_eq, Coro.pure_eq, Coro.observe_bind, Coro.observe_ofExcept,
      Coro.observe_ret]
    rcases Coro.observe network (proposeTx peers generatedTx) () sends with ⟨e | endorsed, ⟨⟩, between⟩
    · rfl
    · rcases hraise : raiseTxProposalError endorsed msg with e | ⟨⟩ <;> simp only [hraise]
  rw [hsplit]
  simp only [Coro.bind_eq, observe_bind_eq_ok, observe_proposeChecked_eq_ok]
  constructor
  · rintro ⟨endorsed, _, ⟨-, hendorsed, rfl⟩, _, _, hcommit, hret⟩
    cases hret
    exact ⟨hendorsed, (observe_commitTxAndWait_eq_ok rt network).mp hcommit⟩
  · rintro ⟨hendorsed, hcommit⟩
    refine ⟨tx, _, ⟨?_, hendorsed, rfl⟩, (), sends',
      (observe_commitTxAndWait_eq_ok rt network).mpr hcommit, rfl⟩
    obtain ⟨_, _, _, _, -, -, -, peer, others, _, _, rfl, -⟩ := hcommit
    exact List.cons_ne_nil peer others

/-- **When the operations that commit return.** For every network, `invoke` and
`instantiate_chaincode` return a transaction exactly when it was generated and everything runs
through, and they have sent exactly the requests that this takes. -/
theorem committing_operations_return_iff (requestor : User) (peers : List Peer)
    (orderers : List Orderer) (channel : Channel) (timeout : Int) (sends : List Request)
    (tx : EndorsedTX) (sends' : List Request) :
    (∀ ccName fcn args transientMap,
      Coro.observe network (invoke rt requestor peers orderers channel ccName fcn args timeout
          transientMap) () sends = (.ok tx, (), sends') ↔
        ∃ generatedTx between,
          Coro.observe network (generateCcTx rt requestor ccName channel fcn args transientMap) ()
            sends = (.ok generatedTx, (), between) ∧
          RunsThrough rt network requestor channel peers orderers timeout generatedTx between tx
            sends') ∧
    ∀ case order order' ccSpec endorsementPolicy upgrade,
      Coro.observe network (instantiateChaincode rt case order order' requestor peers orderers
          channel ccSpec endorsementPolicy upgrade timeout) () sends = (.ok tx, (), sends') ↔
        ∃ generatedTx between,
          Coro.observe network (generateInstantiateCcTx rt case order order' requestor ccSpec channel
            endorsementPolicy upgrade) () sends = (.ok generatedTx, (), between) ∧
          RunsThrough rt network requestor channel peers orderers timeout generatedTx between tx
            sends' := by
  refine ⟨fun ccName fcn args transientMap => ?_, fun case order order' ccSpec policy upgrade => ?_⟩
  · rw [invoke, Coro.bind_eq, observe_bind_eq_ok]
    simp only [observe_proposeAndCommit_eq_ok]
  · rw [instantiateChaincode, Coro.bind_eq, observe_bind_eq_ok]
    simp only [observe_proposeAndCommit_eq_ok]

end Snakeskin
