import Snakeskin.HighLevelPaths

/-! # Broadcasts to several orderers

What `broadcast_to_orderers` makes of the streams of the orderers, whatever they are. The failover
is first reduced to a function of the streams, `failover`, which is then compared with what a caller
expects: an acknowledgement behind every commit, and no orderer left out. -/

namespace Snakeskin

open Wire

variable (rt : Runtime) (network : Network)

/-! ## Streams of an orderer -/

/-- The stream fails with a gRPC error before its first response. -/
def Stream.isConnectionFailure : Stream BroadcastResponse → Bool
  | ⟨[], .rpcError _⟩ => true
  | _ => false

/-- The stream closes without a response. -/
def Stream.isSilent : Stream BroadcastResponse → Bool
  | ⟨[], .closed⟩ => true
  | _ => false

/-- The first response of the stream has status 200. -/
def Stream.accepts (stream : Stream BroadcastResponse) : Bool :=
  stream.responses.head?.any (·.status = 200)

/-- The first response of the stream has another status. -/
def Stream.refuses (stream : Stream BroadcastResponse) : Bool :=
  stream.responses.head?.any (·.status ≠ 200)

/-- The streams of the orderers of a list, each asked after all those before it. -/
def orderersStreams (envelope : Envelope) :
    List Request → List Orderer → List (Stream BroadcastResponse)
  | _, [] => []
  | sends, orderer :: orderers =>
      network sends (.broadcast orderer envelope) ::
        orderersStreams envelope (sends ++ [.broadcast orderer envelope]) orderers

@[simp] theorem length_orderersStreams (envelope : Envelope) (sends : List Request)
    (orderers : List Orderer) :
    (orderersStreams network envelope sends orderers).length = orderers.length := by
  induction orderers generalizing sends with
  | nil => rfl
  | cons orderer orderers ih => exact congrArg (· + 1) (ih _)

/-- A stream of the list is that of an orderer asked after those before it. -/
theorem orderersStreams_eq_append {envelope : Envelope} {sends : List Request}
    {orderers : List Orderer} {before after : List (Stream BroadcastResponse)}
    {stream : Stream BroadcastResponse}
    (h : orderersStreams network envelope sends orderers = before ++ stream :: after) :
    ∃ tried orderer rest, orderers = tried ++ orderer :: rest ∧ tried.length = before.length ∧
      stream = network (sends ++ tried.map (.broadcast · envelope)) (.broadcast orderer envelope) := by
  induction before generalizing sends orderers with
  | nil =>
      cases orderers with
      | nil => cases h
      | cons orderer orderers =>
          cases h
          exact ⟨[], orderer, orderers, rfl, rfl, by rw [List.map_nil, List.append_nil]⟩
  | cons first before ih =>
      cases orderers with
      | nil => cases h
      | cons orderer orderers =>
          obtain ⟨-, h⟩ := List.cons.inj h
          obtain ⟨tried, orderer', rest, rfl, hlength, hstream⟩ := ih h
          refine ⟨orderer :: tried, orderer', rest, rfl, congrArg (· + 1) hlength, ?_⟩
          rw [hstream, List.map_cons, List.append_assoc, List.singleton_append]

/-! ## The failover as a function of the streams -/

/-- What the failover makes of a list of streams: its result, and how many of the streams it
opens. -/
def failover (txId : String) :
    Exc → List (Stream BroadcastResponse) → Except Exc (Option BroadcastResponse) × Nat
  | error, [] => (.error error, 0)
  | _, stream :: streams =>
      match firstBroadcastResponse txId stream with
      | .error (.blockchainConnectionError code details) =>
          let rest := failover txId (.blockchainConnectionError code details) streams
          (rest.1, rest.2 + 1)
      | result => (result, 1)

/-- A stream that fails raises a connection error. -/
theorem firstBroadcastResponse_of_failure (txId : String) {stream : Stream BroadcastResponse}
    (h : stream.isConnectionFailure = true) :
    ∃ e : RpcError, firstBroadcastResponse txId stream = .error e.toExc := by
  obtain ⟨_ | ⟨response, responses⟩, ending⟩ := stream
  · cases ending with
    | rpcError e => exact ⟨e, rfl⟩
    | closed => cases h
    | cancelled => cases h
  · cases h

/-- Nothing else raises a connection error. -/
theorem firstBroadcastResponse_ne_connectionError (txId : String)
    {stream : Stream BroadcastResponse} (h : stream.isConnectionFailure = false)
    (code : Int) (details : String) :
    firstBroadcastResponse txId stream ≠ .error (.blockchainConnectionError code details) := by
  obtain ⟨_ | ⟨response, responses⟩, ending⟩ := stream
  · cases ending with
    | rpcError e => cases h
    | closed => exact fun heq => by cases heq
    | cancelled => exact fun heq => by cases heq
  · rw [firstBroadcastResponse]
    dsimp only
    by_cases hstatus : response.status ≠ 200
    · rw [if_pos hstatus]
      exact fun heq => by cases heq
    · rw [if_neg hstatus]
      exact fun heq => by cases heq

/-- Anything but a connection failure is final: the rest of the streams are not opened. -/
theorem failover_cons_of_final (txId : String) (error : Exc) {stream : Stream BroadcastResponse}
    (streams : List (Stream BroadcastResponse)) (h : stream.isConnectionFailure = false) :
    failover txId error (stream :: streams) = (firstBroadcastResponse txId stream, 1) := by
  have hne := firstBroadcastResponse_ne_connectionError txId h
  rw [failover]
  split
  · rename_i code details heq
    exact absurd heq (hne code details)
  · rfl

/-- The failover skips the streams that fail, and what follows decides. -/
theorem failover_of_failures (txId : String) (error : Exc)
    {failures : List (Stream BroadcastResponse)} (streams : List (Stream BroadcastResponse))
    (h : ∀ s ∈ failures, s.isConnectionFailure = true) :
    ∃ error', failover txId error (failures ++ streams) =
      ((failover txId error' streams).1, failures.length + (failover txId error' streams).2) := by
  induction failures generalizing error with
  | nil => exact ⟨error, by simp⟩
  | cons stream failures ih =>
      obtain ⟨e, he⟩ := firstBroadcastResponse_of_failure txId (h stream List.mem_cons_self)
      obtain ⟨error', hrest⟩ := ih e.toExc fun s hmem => h s (List.mem_cons_of_mem _ hmem)
      refine ⟨error', ?_⟩
      rw [List.cons_append, failover, he, RpcError.toExc]
      dsimp only
      rw [← RpcError.toExc, hrest, List.length_cons]
      simp only [Nat.add_right_comm]

/-- A broadcast to one orderer is observed to read the first response of its stream. -/
theorem observe_broadcastToOrderer (envelope : Envelope) (orderer : Orderer) (txId : String)
    (sends : List Request) :
    Coro.observe network (broadcastToOrderer envelope orderer txId) () sends =
      (firstBroadcastResponse txId (network sends (.broadcast orderer envelope)), (),
        sends ++ [.broadcast orderer envelope]) :=
  Coro.observe_ofExcept network _ () _

/-- The loop over the orderers is observed to do what the failover makes of their streams, by
induction on the orderers. -/
theorem observe_broadcastLoop (envelope : Envelope) (txId : String) (error : Exc)
    (orderers : List Orderer) (sends : List Request) :
    Coro.observe network (broadcastLoop envelope txId error orderers) () sends =
      let outcome := failover txId error (orderersStreams network envelope sends orderers)
      (outcome.1, (), sends ++ (orderers.take outcome.2).map (.broadcast · envelope)) := by
  induction orderers generalizing error sends with
  | nil => simp [broadcastLoop, orderersStreams, failover]
  | cons orderer orderers ih =>
      rw [broadcastLoop, Coro.observe_tryCatch, observe_broadcastToOrderer, orderersStreams]
      cases hstream : Stream.isConnectionFailure
          (network sends (.broadcast orderer envelope) : Stream BroadcastResponse) with
      | true =>
          -- A connection failure: the rest of the loop runs with one more broadcast made.
          obtain ⟨e, hfirst⟩ := firstBroadcastResponse_of_failure txId hstream
          simp only [hfirst, RpcError.toExc, ih, failover, List.take_succ_cons, List.map_cons,
            List.append_assoc, List.singleton_append]
      | false =>
          have hne := firstBroadcastResponse_ne_connectionError txId hstream
          rw [failover_cons_of_final txId error _ hstream]
          rcases hfirst : firstBroadcastResponse txId
            (network sends (.broadcast orderer envelope) : Stream BroadcastResponse) with e | response
          · cases e with
            | blockchainConnectionError code details => exact absurd hfirst (hne code details)
            | _ => rfl
          · rfl

/-- A broadcast to some orderers is the loop over them, which never raises what it starts from. -/
theorem broadcastToOrderers_of_ne_nil (envelope : Envelope) (txId : String)
    {orderers : List Orderer} (horderers : orderers ≠ []) :
    broadcastToOrderers envelope orderers txId =
      broadcastLoop envelope txId (.valueError "error referenced before assignment") orderers := by
  cases orderers with
  | nil => exact absurd rfl horderers
  | cons orderer orderers => rfl

/-- What decides a broadcast: either all the streams fail, every orderer is asked and an error
raised; or the first stream that does not fail, that of an orderer asked after those before it,
decides. -/
theorem broadcastToOrderers_cases (envelope : Envelope) (txId : String) {orderers : List Orderer}
    (horderers : orderers ≠ []) (sends : List Request) :
    (∀ s ∈ orderersStreams network envelope sends orderers, s.isConnectionFailure = true) ∧
      (∃ e, Coro.observe network (broadcastToOrderers envelope orderers txId) () sends =
        (.error e, (), sends ++ orderers.map (.broadcast · envelope))) ∨
    ∃ failures stream after tried orderer rest,
      orderersStreams network envelope sends orderers = failures ++ stream :: after ∧
      (∀ s ∈ failures, s.isConnectionFailure = true) ∧ stream.isConnectionFailure = false ∧
      orderers = tried ++ orderer :: rest ∧ rest.length = after.length ∧
      stream = network (sends ++ tried.map (.broadcast · envelope)) (.broadcast orderer envelope) ∧
      Coro.observe network (broadcastToOrderers envelope orderers txId) () sends =
        (firstBroadcastResponse txId stream, (),
          sends ++ tried.map (.broadcast · envelope) ++ [.broadcast orderer envelope]) := by
  rw [broadcastToOrderers_of_ne_nil envelope txId horderers, observe_broadcastLoop]
  set streams := orderersStreams network envelope sends orderers with hstreams
  have hlength : streams.length = orderers.length := length_orderersStreams network _ _ _
  rcases hdeciding : streams.find? (fun s => !s.isConnectionFailure) with _ | stream
  · -- All the streams fail.
    have hfailures : ∀ s ∈ streams, s.isConnectionFailure = true := by
      simpa using List.find?_eq_none.mp hdeciding
    obtain ⟨error, hfailover⟩ := failover_of_failures txId
      (.valueError "error referenced before assignment") [] hfailures
    rw [List.append_nil] at hfailover
    refine .inl ⟨hfailures, error, ?_⟩
    rw [hfailover, failover, Nat.add_zero, hlength]
    dsimp only
    rw [List.take_length]
  · obtain ⟨hstream, failures, after, hsplit, hfailures⟩ :=
      List.find?_eq_some_iff_append.mp hdeciding
    have hstream : stream.isConnectionFailure = false := by simpa using hstream
    have hfailures : ∀ s ∈ failures, s.isConnectionFailure = true := by simpa using hfailures
    obtain ⟨tried, orderer, rest, rfl, htried, hanswer⟩ := orderersStreams_eq_append network hsplit
    obtain ⟨error, hfailover⟩ := failover_of_failures txId
      (.valueError "error referenced before assignment") (stream :: after) hfailures
    refine .inr ⟨failures, stream, after, tried, orderer, rest, hsplit, hfailures, hstream, rfl, ?_,
      hanswer, ?_⟩
    · simp only [hsplit, List.length_append, List.length_cons] at hlength
      omega
    · rw [hsplit, hfailover, failover_cons_of_final txId error after hstream, ← htried]
      dsimp only
      rw [List.take_length_add_append, List.take_succ_cons, List.take_zero, List.map_append,
        List.append_assoc]
      rfl

/-! ## Acknowledgements -/

/-- The response has status 200 and was received from an orderer of the list, by the time the
requests have gone from `sends` to `sends'`. -/
def Acknowledged (envelope : Envelope) (orderers : List Orderer) (sends sends' : List Request)
    (response : BroadcastResponse) : Prop :=
  response.status = 200 ∧ ∃ orderer ∈ orderers, ∃ tried, sends <+: tried ∧
    tried ++ [.broadcast orderer envelope] <+: sends' ∧
    response ∈ Stream.responses
      (network tried (.broadcast orderer envelope) : Stream BroadcastResponse)

/-- The first stream that does not fail, when there is one, does not close without a response. -/
def NoSilentOrdererReached (envelope : Envelope) (orderers : List Orderer)
    (sends : List Request) : Prop :=
  ∀ stream ∈ (orderersStreams network envelope sends orderers).find? (!·.isConnectionFailure),
    stream.isSilent = false

/-- A stream that does not fail returns nothing when it is silent, an acceptance when it is not, and
otherwise raises. -/
theorem firstBroadcastResponse_eq_ok {txId : String} {stream : Stream BroadcastResponse}
    {result : Option BroadcastResponse} :
    firstBroadcastResponse txId stream = .ok result ↔
      stream.isSilent = true ∧ result = none ∨
      ∃ response, stream.responses.head? = some response ∧ response.status = 200 ∧
        result = some response := by
  obtain ⟨_ | ⟨response, responses⟩, ending⟩ := stream
  · cases ending <;> simp [firstBroadcastResponse, Stream.isSilent, eq_comm]
  · simp only [firstBroadcastResponse, Stream.isSilent]
    split <;> simp_all [eq_comm]

/-- Whatever is returned is an acknowledgement: what `broadcast_to_orderers` and `commit_tx` are to
return. -/
def OnlyAcknowledged (envelope : Envelope) (orderers : List Orderer) (sends : List Request)
    (outcome : Except Exc (Option BroadcastResponse) × Unit × List Request) : Prop :=
  ∀ result, outcome.1 = .ok result → ∃ response, result = some response ∧
    Acknowledged network envelope orderers sends outcome.2.2 response

/-- A broadcast returns only acknowledgements if and only if no silent orderer decides it. -/
theorem onlyAcknowledged_broadcastToOrderers_iff (envelope : Envelope) (txId : String)
    (orderers : List Orderer) (sends : List Request) :
    OnlyAcknowledged network envelope orderers sends
        (Coro.observe network (broadcastToOrderers envelope orderers txId) () sends) ↔
      NoSilentOrdererReached network envelope orderers sends := by
  by_cases horderers : orderers = []
  · subst horderers
    exact ⟨fun _ _ h => (by cases h), fun _ _ h => (by cases h)⟩
  obtain ⟨hfailures, e, hobserve⟩ | ⟨failures, stream, after, tried, orderer, rest, hsplit, hfailures,
    hstream, horderers', -, hanswer, hobserve⟩ :=
    broadcastToOrderers_cases network envelope txId horderers sends
  · -- The broadcast raises, and there is no stream that does not fail.
    rw [hobserve]
    refine ⟨fun _ stream h => ?_, fun _ _ h => (by cases h)⟩
    rw [List.find?_eq_none.mpr (by simpa using hfailures)] at h
    cases h
  have hdeciding : (orderersStreams network envelope sends orderers).find?
      (!·.isConnectionFailure) = some stream :=
    List.find?_eq_some_iff_append.mpr
      ⟨by simpa using hstream, failures, after, hsplit, by simpa using hfailures⟩
  rw [hobserve, NoSilentOrdererReached, hdeciding]
  constructor
  · rintro hacknowledged _ ⟨⟩
    by_contra hsilent
    obtain ⟨response, hnone, -⟩ := hacknowledged none
      (firstBroadcastResponse_eq_ok.mpr (.inl ⟨by simpa using hsilent, rfl⟩))
    cases hnone
  · intro hspoken result hresult
    obtain ⟨hsilent, -⟩ | ⟨response, hhead, hstatus, rfl⟩ := firstBroadcastResponse_eq_ok.mp hresult
    · rw [hspoken stream rfl] at hsilent
      cases hsilent
    · refine ⟨response, rfl, hstatus, orderer, ?_, _, List.prefix_append _ _, List.prefix_rfl, ?_⟩
      · rw [horderers']
        exact List.mem_append_right _ List.mem_cons_self
      · rw [hanswer] at hhead
        exact List.mem_of_mem_head? hhead

/-- A commit of an endorsed transaction is observed to broadcast its envelope. -/
theorem observe_commitTx {requestor : User} {endorsedTx : EndorsedTX} {envelope : Envelope}
    (h : buildEndorsedTxEnvelope rt endorsedTx requestor = .ok envelope) (orderers : List Orderer)
    (sends : List Request) :
    Coro.observe network (commitTx rt requestor orderers endorsedTx) () sends =
      Coro.observe network (broadcastToOrderers envelope orderers endorsedTx.txId) () sends := by
  rw [commitTx, h]
  rfl

/-- **A commit is reported on an acknowledgement, but for silent orderers.** Whether a broadcast, a
commit of an endorsed transaction, and the submit operation of a builder return only on a response
of status 200 from an orderer of the list depends on one thing: the first orderer whose stream does
not fail must not close it without a response. -/
theorem commit_acknowledged_iff :
    (∀ envelope txId orderers sends,
      OnlyAcknowledged network envelope orderers sends
          (Coro.observe network (broadcastToOrderers envelope orderers txId) () sends) ↔
        NoSilentOrdererReached network envelope orderers sends) ∧
    (∀ requestor orderers endorsedTx envelope sends,
      buildEndorsedTxEnvelope rt endorsedTx requestor = .ok envelope →
      (OnlyAcknowledged network envelope orderers sends
          (Coro.observe network (commitTx rt requestor orderers endorsedTx) () sends) ↔
        NoSilentOrdererReached network envelope orderers sends)) ∧
    ∀ (builder : GatewayTXBuilder) (s : BuilderState (List Operation)) requestor endorsedTx envelope
        sends,
      builder.gateway.requestor = some requestor → s.endorsedTx = some endorsedTx →
      buildEndorsedTxEnvelope rt endorsedTx requestor = .ok envelope →
      let commit := Coro.observe network
        (commitTx rt requestor builder.gateway.orderers endorsedTx) () sends
      ((∀ s' sends', Coro.observe network (builder.submit rt) s sends = (.ok (), s', sends') →
          s'.committed = true ∧ ∃ response, commit.1 = .ok (some response) ∧
            Acknowledged network envelope builder.gateway.orderers sends sends' response) ↔
        NoSilentOrdererReached network envelope builder.gateway.orderers sends) := by
  have hcommit : ∀ requestor orderers endorsedTx envelope sends,
      buildEndorsedTxEnvelope rt endorsedTx requestor = .ok envelope →
      (OnlyAcknowledged network envelope orderers sends
          (Coro.observe network (commitTx rt requestor orderers endorsedTx) () sends) ↔
        NoSilentOrdererReached network envelope orderers sends) := by
    intro requestor orderers endorsedTx envelope sends henvelope
    rw [observe_commitTx rt network henvelope]
    exact onlyAcknowledged_broadcastToOrderers_iff network envelope endorsedTx.txId orderers sends
  refine ⟨onlyAcknowledged_broadcastToOrderers_iff network, hcommit, ?_⟩
  intro builder s requestor endorsedTx envelope sends hrequestor hs henvelope
  rw [← hcommit requestor builder.gateway.orderers endorsedTx envelope sends henvelope,
    OnlyAcknowledged, observe_submit rt network builder hrequestor hs sends]
  -- The operation returns exactly when the commit does, whatever the commit returns.
  rcases Coro.observe network (commitTx rt requestor builder.gateway.orderers endorsedTx) () sends
    with ⟨e | result, ⟨⟩, sends'⟩
  · exact ⟨fun _ _ h => (by cases h), fun _ _ _ h => (by cases h)⟩
  · constructor
    · rintro h _ ⟨⟩
      obtain ⟨-, response, hresponse, hacknowledged⟩ := h _ _ rfl
      exact ⟨response, Except.ok.inj hresponse, hacknowledged⟩
    · rintro h s' sends' ⟨⟩
      obtain ⟨response, rfl, hacknowledged⟩ := h result rfl
      exact ⟨rfl, response, rfl, hacknowledged⟩

/-- An orderer that closes its stream without a response has a commit returned that nobody
acknowledged. -/
theorem commit_unacknowledged_silent :
    ¬ OnlyAcknowledged endorsingNetwork {} [{ endpoint := "orderer:7050" }] []
      (Coro.observe endorsingNetwork
        (broadcastToOrderers {} [{ endpoint := "orderer:7050" }] "tx") () []) := by
  intro h
  obtain ⟨response, hnone, -⟩ := h none rfl
  cases hnone

/-- A network in which the orderer at an endpoint fails, another refuses, and any other accepts. -/
def failoverNetwork (failing refusing : String) : Network
  | _, .entropy => ([9], {})
  | _, .processProposals _ _ => ⟨fun _ => .ok { response := { status := 200 } }, fun _ => 0⟩
  | _, .broadcast orderer _ =>
      if orderer.endpoint = failing then ⟨[], .rpcError ⟨14, "unavailable"⟩⟩
      else if orderer.endpoint = refusing then ⟨[{ status := 503 }], .closed⟩
      else ⟨[{ status := 200 }], .closed⟩
  | _, .deliverFiltered _ _ => ⟨[], .closed⟩
  | _, .deliver _ _ => ⟨[], .closed⟩

/-- The keyed user's commit, acknowledged by the orderer after one that fails. -/
theorem commit_acknowledged_keyedUser :
    ∃ tx envelope,
      buildGeneratedTx (wireRuntime id) keyedUser "cc" [[1]] (some ⟨"channel"⟩) none [9] {} = .ok tx ∧
      buildEndorsedTxEnvelope (wireRuntime id) (endorsedFrom tx [{}]) keyedUser = .ok envelope ∧
      let orderers : List Orderer := [{ endpoint := "down" }, { endpoint := "ready" }]
      OnlyAcknowledged (failoverNetwork "down" "busy") envelope orderers []
        (Coro.observe (failoverNetwork "down" "busy")
          (commitTx (wireRuntime id) keyedUser orderers (endorsedFrom tx [{}])) () []) := by
  refine ⟨_, _, rfl, rfl, ((commit_acknowledged_iff (wireRuntime id)
    (failoverNetwork "down" "busy")).2.1 keyedUser _ _ _ [] rfl).mpr ?_⟩
  rintro stream ⟨⟩
  rfl

/-! ## Complete failover -/

/-- The failover a caller expects of the orderers of a list. -/
structure FailoverComplete (envelope : Envelope) (orderers : List Orderer) (sends : List Request)
    (outcome : Except Exc (Option BroadcastResponse) × Unit × List Request) : Prop where
  /-- The orderers are asked one at a time, in the order of the list. -/
  inOrder : ∃ tried, tried <+: orderers ∧
    outcome.2.2 = sends ++ tried.map (.broadcast · envelope)
  /-- The answer of the first orderer that accepts is returned. -/
  returnsFirst : ∀ stream ∈ (orderersStreams network envelope sends orderers).find? (·.accepts),
    outcome.1 = .ok stream.responses.head?
  /-- An error means that every orderer was asked and that none accepts. -/
  raisesLast : ∀ e, outcome.1 = .error e →
    outcome.2.2 = sends ++ orderers.map (.broadcast · envelope) ∧
      ∀ stream ∈ orderersStreams network envelope sends orderers, stream.accepts = false

/-- Every stream fails before its first response or has one. -/
def AnswersOrFails (envelope : Envelope) (orderers : List Orderer) (sends : List Request) : Prop :=
  ∀ stream ∈ orderersStreams network envelope sends orderers,
    stream.isConnectionFailure = true ∨ stream.responses ≠ []

/-- An orderer that refuses is the last of the list or comes after one that accepts. -/
def RefusalsLast (envelope : Envelope) (orderers : List Orderer) (sends : List Request) : Prop :=
  ∀ before stream after,
    orderersStreams network envelope sends orderers = before ++ stream :: after →
    stream.refuses = true → after = [] ∨ ∃ s ∈ before, s.accepts = true

/-- A stream that fails has no response to accept or to refuse with. -/
theorem Stream.responses_of_isConnectionFailure {stream : Stream BroadcastResponse}
    (h : stream.isConnectionFailure = true) : stream.accepts = false ∧ stream.refuses = false := by
  obtain ⟨_ | ⟨response, responses⟩, ending⟩ := stream
  · exact ⟨rfl, rfl⟩
  · cases h

/-- The first response of a stream decides: it is returned when it accepts, and raised when it
refuses. -/
theorem firstBroadcastResponse_of_responses (txId : String) {stream : Stream BroadcastResponse}
    (h : stream.responses ≠ []) :
    stream.accepts = true ∧ stream.refuses = false ∧
        firstBroadcastResponse txId stream = .ok stream.responses.head? ∨
      stream.accepts = false ∧ stream.refuses = true ∧
        ∃ e, firstBroadcastResponse txId stream = .error e := by
  obtain ⟨_ | ⟨response, responses⟩, ending⟩ := stream
  · exact absurd rfl h
  · by_cases hstatus : response.status = 200
    · left
      simp [Stream.accepts, Stream.refuses, firstBroadcastResponse, hstatus]
    · right
      simp [Stream.accepts, Stream.refuses, firstBroadcastResponse, hstatus]

section Deciding

variable {network} {envelope : Envelope} {orderers : List Orderer} {sends : List Request}
  {failures after : List (Stream BroadcastResponse)} {stream : Stream BroadcastResponse}

/-- Where no stream is accepted there is no first one that is. -/
theorem not_mem_find?_accepts {streams : List (Stream BroadcastResponse)}
    (h : ∀ s ∈ streams, s.accepts = false) : stream ∉ streams.find? (·.accepts) := by
  rw [List.find?_eq_none.mpr fun s hs => by simp [h s hs]]
  exact Option.not_mem_none _

/-- Where no stream refuses, refusals come last. -/
theorem refusalsLast_of_no_refusal
    (h : ∀ s ∈ orderersStreams network envelope sends orderers, s.refuses = false) :
    RefusalsLast network envelope orderers sends := by
  intro before s rest hsplit hrefuses
  rw [h s (hsplit ▸ List.mem_append_right _ List.mem_cons_self)] at hrefuses
  cases hrefuses

/-- After streams that fail, one that accepts: what refuses comes after it. -/
theorem refusalsLast_of_accepts
    (hsplit : orderersStreams network envelope sends orderers = failures ++ stream :: after)
    (hskipped : ∀ s ∈ failures, s.accepts = false ∧ s.refuses = false)
    (haccepts : stream.accepts = true) (hrefuses : stream.refuses = false) :
    RefusalsLast network envelope orderers sends := by
  intro before s rest hsplit' hs
  obtain hmem | ⟨-, rfl, -⟩ | ⟨between, rfl, -⟩ :=
    List.append_cons_eq_append_cons (hsplit'.symm.trans hsplit)
  · rw [(hskipped s hmem).2] at hs
    cases hs
  · rw [hrefuses] at hs
    cases hs
  · exact .inr ⟨stream, List.mem_append_right _ List.mem_cons_self, haccepts⟩

/-- After streams that fail, one that refuses: refusals come last when it is the last stream. -/
theorem refusalsLast_iff_of_refuses
    (hsplit : orderersStreams network envelope sends orderers = failures ++ stream :: after)
    (hskipped : ∀ s ∈ failures, s.accepts = false ∧ s.refuses = false)
    (hrefuses : stream.refuses = true) :
    RefusalsLast network envelope orderers sends ↔ after = [] := by
  constructor
  · intro hlast
    obtain hafter | ⟨s, hs, hsaccepts⟩ := hlast failures stream after hsplit hrefuses
    · exact hafter
    · rw [(hskipped s hs).1] at hsaccepts
      cases hsaccepts
  · rintro rfl before s rest hsplit' hs
    obtain hmem | ⟨-, -, hrest⟩ | ⟨between, -, hafter⟩ :=
      List.append_cons_eq_append_cons (hsplit'.symm.trans hsplit)
    · rw [(hskipped s hmem).2] at hs
      cases hs
    · exact .inl hrest
    · exact absurd hafter.symm (List.append_ne_nil_of_right_ne_nil _ (List.cons_ne_nil _ _))

end Deciding

/-- **Failover is complete, but for early refusals.** Among orderers that fail, refuse or accept,
the failover asks them in order, returns the answer of the first that accepts and raises only when
all have been asked and none accepts, if and only if no orderer refuses while there are others left
and none has accepted. -/
theorem failoverComplete_iff (envelope : Envelope) (txId : String) {orderers : List Orderer}
    (horderers : orderers ≠ []) {sends : List Request}
    (hanswers : AnswersOrFails network envelope orderers sends) :
    FailoverComplete network envelope orderers sends
        (Coro.observe network (broadcastToOrderers envelope orderers txId) () sends) ↔
      RefusalsLast network envelope orderers sends := by
  obtain ⟨hfailures, e, hobserve⟩ | ⟨failures, stream, after, tried, orderer, rest, hsplit, hfailures,
    hstream, rfl, hrest, -, hobserve⟩ :=
    broadcastToOrderers_cases network envelope txId horderers sends
  · -- All the orderers fail: all have been asked, and there is no refusal.
    have hnone : ∀ s ∈ orderersStreams network envelope sends orderers,
        s.accepts = false ∧ s.refuses = false :=
      fun s hs => Stream.responses_of_isConnectionFailure (hfailures s hs)
    rw [hobserve]
    refine iff_of_true ⟨⟨orderers, List.prefix_rfl, rfl⟩, fun s hs => ?_, fun _ _ => ⟨rfl, ?_⟩⟩
      (refusalsLast_of_no_refusal fun s hs => (hnone s hs).2)
    · exact absurd hs (not_mem_find?_accepts fun s hs => (hnone s hs).1)
    · exact fun s hs => (hnone s hs).1
  have hresponses : stream.responses ≠ [] :=
    (hanswers stream (hsplit ▸ List.mem_append_right _ List.mem_cons_self)).resolve_left
      (by simp [hstream])
  have hskipped : ∀ s ∈ failures, s.accepts = false ∧ s.refuses = false :=
    fun s hs => Stream.responses_of_isConnectionFailure (hfailures s hs)
  have hinOrder : tried ++ [orderer] <+: tried ++ orderer :: rest :=
    ⟨rest, by rw [List.append_assoc, List.singleton_append]⟩
  rw [hobserve]
  obtain ⟨haccepts, hrefuses, hfirst⟩ | ⟨haccepts, hrefuses, e, hfirst⟩ :=
    firstBroadcastResponse_of_responses txId hresponses
  · -- The orderer accepts, and it is the first that does.
    have hfind : (orderersStreams network envelope sends (tried ++ orderer :: rest)).find?
        (·.accepts) = some stream :=
      List.find?_eq_some_iff_append.mpr ⟨haccepts, failures, after, hsplit, fun s hs => by
        simp [(hskipped s hs).1]⟩
    rw [hfirst]
    refine iff_of_true ⟨⟨_, hinOrder, by simp⟩, fun s hs => ?_, fun _ h => (by cases h)⟩
      (refusalsLast_of_accepts hsplit hskipped haccepts hrefuses)
    rw [hfind] at hs
    cases hs
    rfl
  · -- The orderer refuses: the error is right only when it is the last.
    rw [hfirst, refusalsLast_iff_of_refuses hsplit hskipped hrefuses]
    constructor
    · intro hcomplete
      obtain ⟨hsends, -⟩ := hcomplete.raisesLast e rfl
      have hlength := congrArg List.length hsends
      simp only [List.length_append, List.length_map, List.length_cons, List.length_nil] at hlength
      exact List.eq_nil_of_length_eq_zero (by omega)
    · rintro rfl
      obtain rfl : rest = [] := List.eq_nil_of_length_eq_zero hrest
      have hnone : ∀ s ∈ orderersStreams network envelope sends (tried ++ [orderer]),
          s.accepts = false := by
        intro s hs
        rw [hsplit, List.mem_append, List.mem_singleton] at hs
        obtain hs | rfl := hs
        · exact (hskipped s hs).1
        · exact haccepts
      refine ⟨⟨_, hinOrder, by simp⟩, fun s hs => ?_, fun _ _ => ⟨by simp, hnone⟩⟩
      exact absurd hs (not_mem_find?_accepts hnone)

/-- An orderer that refuses keeps the next one, which would accept, from being asked. -/
theorem failover_incomplete_refused :
    let orderers : List Orderer := [{ endpoint := "busy" }, { endpoint := "ready" }]
    let network := failoverNetwork "down" "busy"
    AnswersOrFails network {} orderers [] ∧
      ¬ FailoverComplete network {} orderers []
        (Coro.observe network (broadcastToOrderers {} orderers "tx") () []) := by
  have hstreams : orderersStreams (failoverNetwork "down" "busy") {} []
      [{ endpoint := "busy" }, { endpoint := "ready" }] =
      [⟨[{ status := 503 }], .closed⟩, ⟨[{ status := 200 }], .closed⟩] := rfl
  refine ⟨?_, fun h => ?_⟩
  · intro stream hstream
    rw [hstreams, List.mem_pair] at hstream
    rcases hstream with rfl | rfl
    all_goals exact .inr (List.cons_ne_nil _ _)
  · have hreturns := h.returnsFirst ⟨[{ status := 200 }], .closed⟩ rfl
    cases hreturns

/-- After an orderer that fails, one that accepts is asked. -/
theorem failoverComplete_failing :
    let orderers : List Orderer := [{ endpoint := "down" }, { endpoint := "ready" }]
    let network := failoverNetwork "down" "busy"
    FailoverComplete network {} orderers []
      (Coro.observe network (broadcastToOrderers {} orderers "tx") () []) := by
  have hstreams : orderersStreams (failoverNetwork "down" "busy") {} []
      [{ endpoint := "down" }, { endpoint := "ready" }] =
      [⟨[], .rpcError ⟨14, "unavailable"⟩⟩, ⟨[{ status := 200 }], .closed⟩] := rfl
  refine (failoverComplete_iff (failoverNetwork "down" "busy") {} "tx" (by simp) ?_).mpr ?_
  · intro stream hstream
    rw [hstreams, List.mem_pair] at hstream
    rcases hstream with rfl | rfl
    · exact .inl rfl
    · exact .inr (List.cons_ne_nil _ _)
  · intro before stream after hsplit hrefuses
    have hmem : stream ∈ [⟨[], .rpcError ⟨14, "unavailable"⟩⟩, ⟨[{ status := 200 }], .closed⟩] :=
      hstreams ▸ hsplit ▸ List.mem_append_right _ List.mem_cons_self
    rw [List.mem_pair] at hmem
    rcases hmem with rfl | rfl
    all_goals cases hrefuses

end Snakeskin
