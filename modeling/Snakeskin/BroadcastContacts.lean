import Snakeskin.Broadcasts

/-! # The orderers that a broadcast contacts

An orderer that has answered may have ordered the transaction, so no other may be sent it in the
same broadcast. This file says whom a broadcast contacts, and what came of each of them. -/

namespace Snakeskin

open Wire

variable (network : Network)

/-- The streams of a list of orderers are those of its first part, and then those of the rest. -/
theorem orderersStreams_append (envelope : Envelope) (sends : List Request)
    (tried rest : List Orderer) :
    orderersStreams network envelope sends (tried ++ rest) =
      orderersStreams network envelope sends tried ++
        orderersStreams network envelope (sends ++ tried.map (.broadcast · envelope)) rest := by
  induction tried generalizing sends with
  | nil => rw [List.map_nil, List.append_nil, List.nil_append, orderersStreams, List.nil_append]
  | cons orderer tried ih =>
      have hrest := ih (sends ++ [.broadcast orderer envelope])
      rw [List.append_assoc, List.singleton_append] at hrest
      exact congrArg (List.cons _) hrest

/-- A stream that fails has an error in place of a first response. -/
theorem Stream.eq_of_isConnectionFailure {stream : Stream BroadcastResponse}
    (h : stream.isConnectionFailure = true) : ∃ e : RpcError, stream = ⟨[], .rpcError e⟩ := by
  obtain ⟨_ | ⟨response, responses⟩, ending⟩ := stream
  · cases ending with
    | rpcError e => exact ⟨e, rfl⟩
    | closed => cases h
    | cancelled => cases h
  · cases h

/-- When all the streams fail, the error of the last one is raised, by induction on the streams. -/
theorem failover_of_all_failures (txId : String) (error : Exc)
    {streams : List (Stream BroadcastResponse)} (hne : streams ≠ [])
    (h : ∀ s ∈ streams, s.isConnectionFailure = true) :
    ∃ e : RpcError, streams.getLast? = some ⟨[], .rpcError e⟩ ∧
      (failover txId error streams).1 = .error e.toExc := by
  induction streams generalizing error with
  | nil => exact absurd rfl hne
  | cons first rest ih =>
      obtain ⟨e, rfl⟩ := Stream.eq_of_isConnectionFailure (h first List.mem_cons_self)
      rcases rest with _ | ⟨second, rest⟩
      · exact ⟨e, rfl, rfl⟩
      · obtain ⟨e', hlast, hfailover⟩ := ih e.toExc (List.cons_ne_nil _ _)
          fun s hmem => h s (List.mem_cons_of_mem _ hmem)
        exact ⟨e', hlast, hfailover⟩

/-- Streams that all fail give no response. -/
theorem countP_responses_of_failures {streams : List (Stream BroadcastResponse)}
    (h : ∀ s ∈ streams, s.isConnectionFailure = true) : streams.countP (·.responses ≠ []) = 0 := by
  rw [List.countP_eq_zero]
  intro s hs
  obtain ⟨e, rfl⟩ := Stream.eq_of_isConnectionFailure (h s hs)
  simp

/-- When all the orderers of a list fail, a broadcast raises the error of the last one. -/
theorem broadcastToOrderers_of_failures {envelope : Envelope} (txId : String)
    {orderers : List Orderer} (horderers : orderers ≠ []) {sends : List Request}
    (hfailures : ∀ s ∈ orderersStreams network envelope sends orderers,
      s.isConnectionFailure = true) :
    ∃ last : RpcError,
      (orderersStreams network envelope sends orderers).getLast? = some ⟨[], .rpcError last⟩ ∧
      (Coro.observe network (broadcastToOrderers envelope orderers txId) () sends).1 =
        .error last.toExc := by
  have hne : orderersStreams network envelope sends orderers ≠ [] := by
    rw [← List.length_pos_iff, length_orderersStreams]
    exact List.length_pos_iff.mpr horderers
  obtain ⟨last, hlast, hraised⟩ := failover_of_all_failures txId
    (.valueError "error referenced before assignment") hne hfailures
  refine ⟨last, hlast, ?_⟩
  rw [broadcastToOrderers_of_ne_nil envelope txId horderers, observe_broadcastLoop]
  exact hraised

/-- How one broadcast contacts the orderers of a list: one after the other, and none after an
answer. -/
structure SingleAcceptance (envelope : Envelope) (orderers : List Orderer) (sends : List Request)
    (outcome : Except Exc (Option BroadcastResponse) × Unit × List Request)
    (tried : List Orderer) : Prop where
  /-- The orderers contacted are the first ones of the list. -/
  contacted : tried <+: orderers
  /-- Each is sent the envelope once, in the order of the list, and nothing else is sent. -/
  sent : outcome.2.2 = sends ++ tried.map (.broadcast · envelope)
  /-- All but the last one failed before giving any response. -/
  failed : ∀ stream ∈ (orderersStreams network envelope sends tried).dropLast,
    ∃ e, stream = ⟨[], .rpcError e⟩
  /-- No more than one of them gave a response. -/
  consumed : (orderersStreams network envelope sends tried).countP (·.responses ≠ []) ≤ 1
  /-- A connection error is that of the last orderer of the list. -/
  connectionError : ∀ code details,
    outcome.1 = .error (.blockchainConnectionError code details) →
    tried = orderers ∧
      (orderersStreams network envelope sends orderers).getLast? =
        some ⟨[], .rpcError ⟨code, details⟩⟩

/-- **No double acceptance within one broadcast.** Whatever the streams of the orderers: the
orderers contacted are a prefix of the list, each contacted once and in order; all but the last of
them failed without a response, so at most one response is consumed; and a connection error is
raised only when the whole list was contacted, and is that of its last orderer. -/
theorem broadcast_single_acceptance (envelope : Envelope) (orderers : List Orderer) (txId : String)
    (sends : List Request) :
    ∃ tried, SingleAcceptance network envelope orderers sends
      (Coro.observe network (broadcastToOrderers envelope orderers txId) () sends) tried := by
  by_cases horderers : orderers = []
  · subst horderers
    exact ⟨[], List.prefix_rfl, (List.append_nil _).symm, fun _ h => (by cases h), Nat.zero_le _,
      fun _ _ h => (by cases h)⟩
  obtain ⟨hfailures, e, hobserve⟩ | ⟨failures, stream, after, tried, orderer, rest, hsplit, hfailures,
    hstream, rfl, hrest, -, hobserve⟩ :=
    broadcastToOrderers_cases network envelope txId horderers sends
  · -- All the orderers fail: all are contacted, and the error is that of the last.
    obtain ⟨last, hlast, hraised⟩ :=
      broadcastToOrderers_of_failures network txId horderers hfailures
    have herror : (.error e : Except Exc (Option BroadcastResponse)) = .error last.toExc :=
      (congrArg Prod.fst hobserve).symm.trans hraised
    refine ⟨orderers, List.prefix_rfl, by rw [hobserve], fun s hs => ?_, ?_, fun code details h => ?_⟩
    · exact Stream.eq_of_isConnectionFailure (hfailures s (List.mem_of_mem_dropLast hs))
    · rw [countP_responses_of_failures hfailures]
      exact Nat.zero_le _
    · rw [hobserve, herror] at h
      cases h
      exact ⟨rfl, hlast⟩
  · -- The first orderer that does not fail is the last one contacted.
    have hstreams : orderersStreams network envelope sends (tried ++ [orderer]) =
        failures ++ [stream] := by
      rw [orderersStreams_append] at hsplit ⊢
      obtain ⟨rfl, hcons⟩ := List.append_inj' hsplit (by simp [hrest])
      rw [orderersStreams] at hcons
      rw [orderersStreams, orderersStreams, (List.cons.inj hcons).1]
    refine ⟨tried ++ [orderer], ⟨rest, by simp⟩, by simp [hobserve], fun s hs => ?_, ?_,
      fun code details h => ?_⟩
    · rw [hstreams, List.dropLast_concat] at hs
      exact Stream.eq_of_isConnectionFailure (hfailures s hs)
    · rw [hstreams, List.countP_append, countP_responses_of_failures hfailures, Nat.zero_add]
      exact List.countP_le_length
    · rw [hobserve] at h
      exact absurd h (firstBroadcastResponse_ne_connectionError txId hstream code details)

end Snakeskin
