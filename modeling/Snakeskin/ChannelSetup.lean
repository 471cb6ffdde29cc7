import Snakeskin.BlockRoundTrip
import Snakeskin.OperationOutcomes
import Snakeskin.SignedMessages

/-! # Setting up channels

A channel is created by one broadcast of a signed config update, and peers join it one after the
other. This file follows both operations through whatever the network answers: what is sent, in
which order, and how far a run gets before it stops. -/

namespace Snakeskin

open Wire

variable (rt : Runtime) (network : Network)

/-! ## Joining one peer -/

/-- The proposal of an origin block to a peer. -/
structure PeerJoin where
  peer : Peer
  block : RawBlock
  /-- The transaction that carries the block. -/
  generatedTx : GeneratedTX
  /-- What was sent before the proposal. -/
  before : List Request

namespace PeerJoin

/-- The request that proposes the block. -/
def request (join : PeerJoin) : Request :=
  .processProposals join.generatedTx.signedProposal [join.peer]

/-- The block is one that was read from an orderer of the list after all that was asked for before,
and the proposal carries it. -/
def Proposed (requestor : User) (orderers : List Orderer) (channel : Channel) (asked : List Request)
    (join : PeerJoin) : Prop :=
  ProposesJoin rt join.generatedTx.signedProposal join.block.asProto ∧
    .ok (some join.block) ∈ originAnswers rt network requestor channel asked orderers ∧
    asked <+: join.before

/-- The peer endorses the proposal. -/
def Endorsed (join : PeerJoin) : Prop :=
  ∃ tx, EndorsedByAll network [join.peer] join.generatedTx join.before tx

end PeerJoin

/-- A proposal and its check return when the peers endorse, also where what is endorsed is not
used. -/
theorem observe_proposeAndRaise_eq_ok {peers : List Peer} {generatedTx : GeneratedTX} {msg : String}
    {sends sends' : List Request} :
    Coro.observe network (do
        let endorsedTx ← proposeTx peers generatedTx
        Coro.ofExcept (raiseTxProposalError endorsedTx msg) : Async Unit Unit) () sends =
        (.ok (), (), sends') ↔
      peers ≠ [] ∧ (∃ tx, EndorsedByAll network peers generatedTx sends tx) ∧
        sends' = sends ++ [.processProposals generatedTx.signedProposal peers] := by
  constructor
  · intro h
    obtain ⟨tx, between, hproposed, hraise⟩ := (observe_bind_eq_ok network).mp h
    have hchecked : Coro.observe network (proposeChecked peers generatedTx msg) () sends =
        (.ok tx, (), sends') :=
      (observe_bind_eq_ok network).mpr
        ⟨tx, between, hproposed, (observe_bind_eq_ok network).mpr ⟨(), sends', hraise, rfl⟩⟩
    obtain ⟨hpeers, hendorsed, hsends⟩ := (observe_proposeChecked_eq_ok network).mp hchecked
    exact ⟨hpeers, ⟨tx, hendorsed⟩, hsends⟩
  · rintro ⟨hpeers, ⟨tx, hendorsed⟩, hsends⟩
    have hchecked : Coro.observe network (proposeChecked peers generatedTx msg) () sends =
        (.ok tx, (), sends') := (observe_proposeChecked_eq_ok network).mpr ⟨hpeers, hendorsed, hsends⟩
    obtain ⟨tx', between, hproposed, h⟩ := (observe_bind_eq_ok network).mp hchecked
    obtain ⟨⟨⟩, _, hraise, hret⟩ := (observe_bind_eq_ok network).mp h
    cases hret
    exact (observe_bind_eq_ok network).mpr ⟨tx, between, hproposed, hraise⟩

/-- The loop over the orderers ends with a block only when one of them gives it, by induction on
their answers. -/
theorem mem_of_foldOrigins {answers : List (Except Exc (Option RawBlock))}
    {block : Option RawBlock} {connError connError' : Option Exc} {b : RawBlock}
    (h : foldOrigins block connError answers = .ok (some b, connError')) :
    block = some b ∨ .ok (some b) ∈ answers := by
  induction answers generalizing block connError with
  | nil =>
      cases h
      exact .inl rfl
  | cons answer answers ih =>
      cases answer with
      | ok found =>
          obtain hfound | hmem := ih h
          · cases found with
            | none => exact .inl hfound
            | some found =>
                cases hfound
                exact .inr List.mem_cons_self
          · exact .inr (List.mem_cons_of_mem _ hmem)
      | error e =>
          rw [foldOrigins] at h
          split at h
          · exact (ih h).imp_right (List.mem_cons_of_mem _)
          · cases h

variable {rt}

/-- **One peer joins** with a block that an orderer gave, if the peer endorses it; or else nothing
is proposed and the operation raises. -/
theorem observe_joinChannel_cases (hrt : rt.RoundTrip) (requestor : User) (orderers : List Orderer)
    (channel : Channel) (peer : Peer) (sends : List Request) :
    let outcome := Coro.observe network (joinChannel rt requestor orderers channel peer) () sends
    ∃ between, NoProposal between ∧
      ((∃ e, outcome = (.error e, (), sends ++ between)) ∨
        ∃ join : PeerJoin, join.peer = peer ∧
          join.Proposed rt network requestor orderers channel sends ∧
          join.before = sends ++ between ∧ outcome.2.2 = join.before ++ [join.request] ∧
          (outcome.1 = .ok () ↔ join.Endorsed network)) := by
  intro outcome
  by_cases horderers : orderers = []
  · refine ⟨[], fun q hq => (by cases hq), .inl
      ⟨.valueError "Must provide at least one orderer", ?_⟩⟩
    show Coro.observe network (joinChannel rt requestor orderers channel peer) () sends = _
    rw [joinChannel, if_pos horderers, List.append_nil]
    rfl
  obtain ⟨between, hbetween, hloop⟩ :=
    observe_originLoop rt network requestor channel none none orderers sends
  have houtcome : outcome = _ := congrArg (Coro.observe network · () sends)
    (if_neg horderers : joinChannel rt requestor orderers channel peer = _)
  rw [Coro.bind_eq, Coro.observe_bind, hloop] at houtcome
  cases hfold : foldOrigins none none
      (originAnswers rt network requestor channel sends orderers) with
  | error e =>
      rw [hfold] at houtcome
      exact ⟨between, hbetween, .inl ⟨e, houtcome⟩⟩
  | ok found =>
      rw [hfold] at houtcome
      obtain ⟨found, connError⟩ := found
      cases connError with
      | some e => exact ⟨between, hbetween, .inl ⟨e, houtcome⟩⟩
      | none =>
          cases found with
          | none => exact ⟨between, hbetween, .inl ⟨_, houtcome⟩⟩
          | some block =>
              -- A block was found without a connection error, and is proposed.
              obtain ⟨generatedTx, hproposes, hgenerated⟩ :=
                observe_generateJoinTx network hrt requestor block (sends ++ between)
              have hmem := (mem_of_foldOrigins hfold).resolve_left (fun h => by cases h)
              change outcome = Coro.observe network (Coro.bind (generateJoinTx rt requestor block) _)
                () (sends ++ between) at houtcome
              rw [Coro.observe_bind, hgenerated] at houtcome
              let join : PeerJoin :=
                ⟨peer, block, generatedTx, sends ++ between ++ [.entropy]⟩
              have hbefore : join.before = sends ++ (between ++ [.entropy]) :=
                List.append_assoc _ _ _
              refine ⟨between ++ [.entropy], ?_, .inr ⟨join, rfl,
                ⟨hproposes, hmem, hbefore ▸ List.prefix_append _ _⟩, hbefore, ?_, ?_⟩⟩
              · intro q hq
                rcases List.mem_append.mp hq with hq | hq
                · exact hbetween q hq
                · rw [List.mem_singleton.mp hq]
                  exact id
              · rw [houtcome]
                exact (sends_bind_ofExcept network _ _ _).trans
                  (sends_proposeTx network (List.cons_ne_nil peer []) generatedTx _)
              · constructor
                · intro hok
                  have hall : outcome = (.ok (), (), outcome.2.2) := Prod.ext hok rfl
                  exact ((observe_proposeAndRaise_eq_ok network).mp (houtcome.symm.trans hall)).2.1
                · intro hendorsed
                  exact congrArg Prod.fst (houtcome.trans ((observe_proposeAndRaise_eq_ok network).mpr
                    ⟨List.cons_ne_nil peer [], hendorsed, rfl⟩))

/-! ## Joining the peers of a list -/

/-- Where no request is a proposal, none is kept. -/
theorem filter_isProposal_of_noProposal {requests : List Request} (h : NoProposal requests) :
    requests.filter Request.isProposal = [] := by
  refine List.filter_eq_nil_iff.mpr fun q hq hproposal => ?_
  cases q with
  | processProposals proposal peers => exact h _ hq trivial
  | entropy => cases hproposal
  | broadcast orderer envelope => cases hproposal
  | deliverFiltered peer envelope => cases hproposal
  | deliver orderer envelope => cases hproposal

variable (rt) in
/-- The peers join one after the other: each is proposed a block that was read after all that was
sent for those before it. -/
def JoinedInTurn (requestor : User) (orderers : List Orderer) (channel : Channel) :
    List Request → List PeerJoin → Prop
  | _, [] => True
  | asked, join :: joins => join.Proposed rt network requestor orderers channel asked ∧
      JoinedInTurn requestor orderers channel (join.before ++ [join.request]) joins

/-- How far a run over some peers gets: all of them are proposed their blocks and endorse them; or
those before some peer do, and that peer is proposed nothing or does not endorse. -/
def JoinsUntil (peers : List Peer) (joins : List PeerJoin) : Except Exc Unit → Prop
  | .ok () => joins.map (·.peer) = peers ∧ ∀ join ∈ joins, join.Endorsed network
  | .error _ => ∃ done last failing rest, joins = done ++ last ∧
      peers = done.map (·.peer) ++ failing :: rest ∧ (∀ join ∈ done, join.Endorsed network) ∧
      (last = [] ∨ ∃ join, last = [join] ∧ join.peer = failing ∧ ¬ join.Endorsed network)

variable {network} in
/-- A peer that joins is put before those that follow. -/
theorem JoinsUntil.cons {peers : List Peer} {joins : List PeerJoin} {result : Except Exc Unit}
    {join : PeerJoin} (hjoin : join.Endorsed network) (h : JoinsUntil network peers joins result) :
    JoinsUntil network (join.peer :: peers) (join :: joins) result := by
  cases result with
  | ok _ =>
      obtain ⟨rfl, hendorsed⟩ := h
      exact ⟨rfl, List.forall_mem_cons.mpr ⟨hjoin, hendorsed⟩⟩
  | error e =>
      obtain ⟨done, last, failing, rest, rfl, rfl, hdone, hlast⟩ := h
      exact ⟨join :: done, last, failing, rest, rfl, rfl, List.forall_mem_cons.mpr ⟨hjoin, hdone⟩,
        hlast⟩

/-- **A run over some peers**: in whatever way it ends, the proposals that it sends are those of
blocks that orderers gave, to one peer at a time and in the order of the list, and it stops at the
first peer that does not join; by induction on the peers. -/
theorem observe_joinLoop_run (hrt : rt.RoundTrip) (requestor : User) (orderers : List Orderer)
    (channel : Channel) (peers : List Peer) (sends : List Request) :
    let outcome :=
      Coro.observe network (Gateway.joinLoop rt requestor orderers channel peers) () sends
    ∃ joins added, outcome.2.2 = sends ++ added ∧
      added.filter Request.isProposal = joins.map PeerJoin.request ∧
      JoinedInTurn rt network requestor orderers channel sends joins ∧
      (∀ join ∈ joins, join.before ++ [join.request] <+: outcome.2.2) ∧
      JoinsUntil network peers joins outcome.1 := by
  induction peers generalizing sends with
  | nil => exact ⟨[], [], (List.append_nil _).symm, rfl, trivial, fun _ h => (by cases h), rfl,
      fun _ h => (by cases h)⟩
  | cons peer peers ih =>
      intro outcome
      have houtcome : outcome = _ := Coro.observe_bind network
        (joinChannel rt requestor orderers channel peer) _ () sends
      obtain ⟨between, hbetween, hjoined⟩ :=
        observe_joinChannel_cases network hrt requestor orderers channel peer sends
      rcases hjoin : Coro.observe network (joinChannel rt requestor orderers channel peer) () sends with
        ⟨result, ⟨⟩, sends'⟩
      rw [hjoin] at houtcome hjoined
      obtain ⟨e, heq⟩ | ⟨join, rfl, hproposed, hbefore, hsends, hendorsed⟩ := hjoined
      · -- Nothing is proposed to this peer, and the run stops.
        cases heq
        rw [houtcome]
        exact ⟨[], between, rfl, filter_isProposal_of_noProposal hbetween, trivial,
          fun _ h => (by cases h), [], [], peer, peers, rfl, rfl, fun _ h => (by cases h), .inl rfl⟩
      · dsimp only at hsends
        subst hsends
        have hrequest : (between ++ [join.request]).filter Request.isProposal = [join.request] := by
          rw [List.filter_append, filter_isProposal_of_noProposal hbetween]
          rfl
        rcases result with e | ⟨⟩
        · -- The peer does not endorse, and the run stops.
          rw [houtcome]
          refine ⟨[join], between ++ [join.request], ?_, hrequest, ⟨hproposed, trivial⟩,
            fun j hj => ?_, [], [join], join.peer, peers, rfl, rfl, fun _ h => (by cases h),
            .inr ⟨join, rfl, rfl, fun h => ?_⟩⟩
          · rw [hbefore, List.append_assoc]
          · rw [List.mem_singleton.mp hj]
          · cases hendorsed.mpr h
        · obtain ⟨joins, added, hadded, hproposals, hjoins, hwithin, huntil⟩ :=
            ih (join.before ++ [join.request])
          rw [houtcome]
          refine ⟨join :: joins, between ++ [join.request] ++ added, ?_, ?_, ⟨hproposed, hjoins⟩,
            List.forall_mem_cons.mpr ⟨⟨added, hadded.symm⟩, hwithin⟩, huntil.cons (hendorsed.mp rfl)⟩
          · dsimp only
            rw [hadded, hbefore]
            simp only [List.append_assoc]
          · rw [List.filter_append, hrequest, hproposals]
            rfl

/-- **Joining the peers of a gateway.** Without a channel or a requestor nothing is sent. Otherwise
the peers given, or else the endorsing peers, are joined one after the other: in whatever way the
run ends, its proposals are those of blocks that orderers gave, to one peer at a time and in order,
each after what was sent before it, and it stops at the first peer that does not join. -/
theorem gateway_joinChannel_run (hrt : rt.RoundTrip) (gateway : Gateway) (peers : Option (List Peer))
    (sends : List Request) :
    let outcome := Coro.observe network (gateway.joinChannel rt peers) () sends
    match gateway.channelAndRequestor with
    | .error e => outcome = (.error e, (), sends)
    | .ok (channel, requestor) =>
        ∃ joins added, outcome.2.2 = sends ++ added ∧
          added.filter Request.isProposal = joins.map PeerJoin.request ∧
          JoinedInTurn rt network requestor gateway.orderers channel sends joins ∧
          (∀ join ∈ joins, join.before ++ [join.request] <+: outcome.2.2) ∧
          JoinsUntil network ((givenPeers peers).getD gateway.endorsingPeers) joins outcome.1 := by
  dsimp only
  rw [Gateway.joinChannel]
  rcases gateway.channelAndRequestor with e | ⟨channel, requestor⟩
  · rfl
  · exact observe_joinLoop_run network hrt requestor gateway.orderers channel _ sends

/-! ## Creating a channel -/

/-- A broadcast sends the envelope to some first orderers of the list, and nothing else. -/
theorem sends_broadcastToOrderers (envelope : Envelope) (orderers : List Orderer) (txId : String)
    (sends : List Request) :
    ∃ tried, tried <+: orderers ∧
      (Coro.observe network (broadcastToOrderers envelope orderers txId) () sends).2.2 =
        sends ++ tried.map (.broadcast · envelope) := by
  by_cases horderers : orderers = []
  · subst horderers
    exact ⟨[], List.prefix_rfl, (List.append_nil _).symm⟩
  obtain ⟨-, e, hobserve⟩ | ⟨-, stream, -, tried, orderer, rest, -, -, -, rfl, -, -, hobserve⟩ :=
    broadcastToOrderers_cases network envelope txId horderers sends
  · exact ⟨orderers, List.prefix_rfl, by rw [hobserve]⟩
  · refine ⟨tried ++ [orderer], ⟨rest, by simp⟩, ?_⟩
    rw [hobserve, List.map_append, ← List.append_assoc]
    rfl

variable (rt) in
/-- An envelope carries a config update with one signature, by a user. -/
def CarriesUpdate (requestor : User) (nonce configUpdate : Bytes) (envelope : Envelope) : Prop :=
  envelope.BoundTo rt requestor nonce ∧ ∃ payload configtx signature,
    envelope.parsedPayload rt = some payload ∧
    rt.fromString ConfigUpdateEnvelope payload.data = some configtx ∧
    configtx.configUpdate = configUpdate ∧ configtx.signatures = [signature] ∧
    signature.BoundTo rt requestor nonce configUpdate

/-- The config update of a file is the one that was written into it, whatever the signatures that
were written beside it. -/
theorem channelConfigUpdate_of_written (hrt : rt.RoundTrip) {envelope : Envelope} {payload : Payload}
    {configtx : ConfigUpdateEnvelope} (hpayload : envelope.payload = rt.serializeToString payload)
    (hdata : payload.data = rt.serializeToString configtx) :
    channelConfigUpdate rt (rt.serializeToString envelope) = .ok configtx.configUpdate := by
  rw [channelConfigUpdate, parse_serializeToString hrt, ok_bind, hpayload,
    parse_serializeToString hrt, ok_bind, hdata, parse_serializeToString hrt]
  rfl

section Creation

variable {readFile : String → Except OSError Bytes} {requestor : User} {orderers : List Orderer}
  {channel : Channel} {txFilePath : String} {sends : List Request}

/-- A submission is observed to draw a nonce, to build its envelope and to broadcast it. -/
theorem observe_submitConfigUpdate (configUpdate : Bytes) :
    Coro.observe network (submitConfigUpdate rt requestor orderers channel configUpdate) () sends =
      let drawn : Bytes × Timestamp := network sends .entropy
      let txContext := txContextFromUser rt requestor drawn.1
      match buildConfigUpdateEnvelope rt channel txContext requestor configUpdate drawn.2 with
      | .error e => (.error e, (), sends ++ [.entropy])
      | .ok envelope =>
          let broadcast := Coro.observe network (broadcastToOrderers envelope orderers txContext.txId)
            () (sends ++ [.entropy])
          (broadcast.1.map fun _ => (), broadcast.2) := by
  show Coro.observe network (Coro.bind (Coro.ofExcept (buildConfigUpdateEnvelope rt channel _ requestor
    configUpdate _)) _) () _ = _
  rw [Coro.observe_bind, Coro.observe_ofExcept]
  dsimp only
  cases buildConfigUpdateEnvelope rt channel _ requestor configUpdate _ with
  | error e => rfl
  | ok envelope =>
      dsimp only
      rw [Coro.bind_eq, Coro.observe_bind]
      generalize Coro.observe network (broadcastToOrderers envelope orderers _) () _ = broadcast
      rcases broadcast with ⟨e | response, ⟨⟩, sends'⟩ <;> rfl

/-- **Creating a channel.** When the file cannot be read or parsed nothing is sent. Otherwise what
is broadcast goes to the orderers given, and carries the config update of the file, byte for byte,
with the one signature of the requestor; and the operation returns exactly when an orderer takes it
after those before it could not be reached. -/
theorem createChannel_run (hrt : rt.RoundTrip) (hsuite : requestor.cryptoSuite.Correct) :
    let outcome := Coro.observe network
      (createChannel rt readFile requestor orderers channel txFilePath) () sends
    let drawn : Bytes × Timestamp := network sends .entropy
    match readConfigUpdate rt readFile txFilePath with
    | .error e => outcome = (.error e, (), sends)
    | .ok configUpdate =>
        (∀ orderer envelope, .broadcast orderer envelope ∈ outcome.2.2.drop sends.length →
          orderer ∈ orderers ∧ CarriesUpdate rt requestor drawn.1 configUpdate envelope) ∧
        ∀ sends', outcome = (.ok (), (), sends') ↔
          ∃ envelope tried orderer rest,
            buildConfigUpdateEnvelope rt channel (txContextFromUser rt requestor drawn.1) requestor
              configUpdate drawn.2 = .ok envelope ∧
            orderers = tried ++ orderer :: rest ∧
            TakenAfter network envelope (sends ++ [.entropy]) tried orderer ∧
            sends' = sends ++ [.entropy] ++ tried.map (.broadcast · envelope) ++
              [.broadcast orderer envelope] := by
  intro outcome drawn
  have houtcome : outcome = _ := Coro.observe_bind network
    (Coro.ofExcept (readConfigUpdate rt readFile txFilePath) : FileAsync Bytes) _ () sends
  rw [Coro.observe_ofExcept] at houtcome
  cases hread : readConfigUpdate rt readFile txFilePath with
  | error e =>
      rw [hread] at houtcome
      exact houtcome
  | ok configUpdate =>
      rw [hread] at houtcome
      dsimp only at houtcome
      rw [Coro.observe_mapError, observe_submitConfigUpdate] at houtcome
      dsimp only at houtcome ⊢
      cases hbuild : buildConfigUpdateEnvelope rt channel (txContextFromUser rt requestor drawn.1)
          requestor configUpdate drawn.2 with
      | error e =>
          rw [hbuild] at houtcome
          rw [houtcome]
          refine ⟨fun orderer envelope h => by simp at h, fun sends' => ?_⟩
          refine iff_of_false (fun h => by cases h) ?_
          rintro ⟨_, _, _, _, h, -⟩
          cases h
      | ok envelope =>
          rw [hbuild] at houtcome
          dsimp only at houtcome
          obtain ⟨tried, htried, hsent⟩ := sends_broadcastToOrderers network envelope orderers
            (txContextFromUser rt requestor drawn.1).txId (sends ++ [.entropy])
          have hreturns := observe_broadcastToOrderers_returns_iff network envelope
            (txContextFromUser rt requestor drawn.1).txId orderers (sends ++ [.entropy])
          generalize Coro.observe network (broadcastToOrderers envelope orderers _) () _ = broadcast
            at houtcome hsent hreturns
          obtain ⟨result, ⟨⟩, sent⟩ := broadcast
          dsimp only at hsent
          constructor
          · intro orderer envelope' h
            rw [houtcome] at h
            dsimp only at h
            rw [hsent, List.append_assoc, List.drop_left] at h
            obtain hentropy | hmem := List.mem_cons.mp h
            · cases hentropy
            · obtain ⟨o, ho, heq⟩ := List.mem_map.mp hmem
              cases heq
              obtain ⟨hbound, payload, configtx, signature, hpayload, hconfigtx, hupdate, hsignatures,
                hsigned⟩ := buildConfigUpdateEnvelope_boundTo hrt hsuite hbuild
              exact ⟨htried.subset ho, hbound, payload, configtx, signature, hpayload, hconfigtx,
                hupdate, hsignatures, hupdate ▸ hsigned⟩
          · intro sends'
            have hok : outcome = (.ok (), (), sends') ↔
                ∃ response, (result, (), sent) = ((.ok response, (), sends') :
                  Except Exc (Option BroadcastResponse) × Unit × List Request) := by
              rw [houtcome]
              cases result <;> simp [Except.mapError, Except.map]
            rw [hok, hreturns]
            constructor
            · rintro ⟨tried, orderer, rest, horderers, htaken, hsends⟩
              exact ⟨envelope, tried, orderer, rest, rfl, horderers, htaken, hsends⟩
            · rintro ⟨_, tried, orderer, rest, heq, horderers, htaken, hsends⟩
              cases heq
              exact ⟨tried, orderer, rest, horderers, htaken, hsends⟩

end Creation

/-- A channel transaction with an update and a signature of somebody. -/
def channelTransaction (rt : Runtime) (configUpdate : Bytes) : Bytes :=
  rt.serializeToString ({
    payload := rt.serializeToString ({
      data := rt.serializeToString ({
        configUpdate, signatures := [{ signature := [1] }] } : ConfigUpdateEnvelope) } : Payload) } :
    Envelope)

/-- The update of a channel transaction reaches the second of two orderers, signed by the requestor
alone. -/
theorem createChannel_run_failover :
    ∃ envelope, (Coro.observe (failoverNetwork "down" "busy") (createChannel (wireRuntime id)
        (fun _ => .ok (channelTransaction (wireRuntime id) [4, 2])) keyedUser
        [{ endpoint := "down" }, { endpoint := "ready" }] ⟨"channel"⟩ "channel.tx") () []).2.2 =
        [.entropy, .broadcast { endpoint := "down" } envelope,
          .broadcast { endpoint := "ready" } envelope] ∧
      CarriesUpdate (wireRuntime id) keyedUser [9] [4, 2] envelope := by
  obtain ⟨envelope, hsent⟩ : ∃ envelope, (Coro.observe (failoverNetwork "down" "busy")
      (createChannel (wireRuntime id) (fun _ => .ok (channelTransaction (wireRuntime id) [4, 2]))
        keyedUser [{ endpoint := "down" }, { endpoint := "ready" }] ⟨"channel"⟩ "channel.tx") ()
      []).2.2 = [.entropy, .broadcast { endpoint := "down" } envelope,
        .broadcast { endpoint := "ready" } envelope] := ⟨_, rfl⟩
  refine ⟨envelope, hsent, ?_⟩
  have hread : readConfigUpdate (wireRuntime id)
      (fun _ => .ok (channelTransaction (wireRuntime id) [4, 2])) "channel.tx" = .ok [4, 2] := by
    let configtx : ConfigUpdateEnvelope := {
      configUpdate := [4, 2], signatures := [{ signature := [1] }] }
    let payload : Payload := { data := (wireRuntime id).serializeToString configtx }
    let written : Envelope := { payload := (wireRuntime id).serializeToString payload }
    have hpayload : written.payload = (wireRuntime id).serializeToString payload := rfl
    have hdata : payload.data = (wireRuntime id).serializeToString configtx := rfl
    have hupdate : channelConfigUpdate (wireRuntime id) (channelTransaction (wireRuntime id) [4, 2]) =
        .ok [4, 2] := channelConfigUpdate_of_written (wireRuntime_roundTrip id) hpayload hdata
    rw [readConfigUpdate]
    show (channelConfigUpdate (wireRuntime id) (channelTransaction (wireRuntime id) [4, 2])).mapError
      Sum.inr = _
    rw [hupdate]
    rfl
  have hrun := @createChannel_run (wireRuntime id) (failoverNetwork "down" "busy")
    (fun _ => .ok (channelTransaction (wireRuntime id) [4, 2])) keyedUser
    [{ endpoint := "down" }, { endpoint := "ready" }] ⟨"channel"⟩ "channel.tx" []
    (wireRuntime_roundTrip id) keyedSuite_correct
  simp only [hread] at hrun
  refine (hrun.1 { endpoint := "ready" } envelope ?_).2
  rw [hsent]
  simp

/-- The peers of a gateway, both of which are to join. -/
def twoPeers : List Peer := [{ endpoint := "peer0:7051" }, { endpoint := "peer1:7051" }]

/-- Two peers join, one after the other. -/
theorem gateway_joinChannel_run_twoPeers :
    let gateway : Gateway := {
      endorsingPeers := twoPeers
      orderers := [closingOrderer, readyOrderer]
      channel := some ⟨"channel"⟩
      requestor := some keyedUser }
    ∃ joins : List PeerJoin, joins.map (·.peer) = twoPeers ∧
      (∀ join ∈ joins, join.Endorsed originNetwork) ∧
      ((Coro.observe originNetwork (gateway.joinChannel (wireRuntime id) none) () []).2.2.filter
        Request.isProposal) = joins.map PeerJoin.request := by
  intro gateway
  have hreturns : (Coro.observe originNetwork (gateway.joinChannel (wireRuntime id) none) () []).1 =
      .ok () := by decide +kernel
  obtain ⟨joins, added, hadded, hproposals, -, -, huntil⟩ :=
    gateway_joinChannel_run originNetwork (wireRuntime_roundTrip id) gateway none []
  rw [hreturns] at huntil
  obtain ⟨hpeers, hendorsed⟩ := huntil
  refine ⟨joins, hpeers, hendorsed, ?_⟩
  rw [hadded]
  exact hproposals

end Snakeskin
