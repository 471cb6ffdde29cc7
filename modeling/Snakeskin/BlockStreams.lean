import Snakeskin.CommitWait

/-! # Block streams

`stream_blocks` of the three event hubs, as a reader of a range of blocks sees it: the seek request,
the stream that the Deliver service answers it with, and what the generator makes of its
responses. -/

namespace Snakeskin

open Wire

variable (rt : Runtime)

/-! ## The hubs -/

/-- The number of `common.Status.SUCCESS`. -/
def SUCCESS : Int32 := 200

/-- The blocks of a stream of whole blocks. -/
def streamRawBlocks (stream : Stream BlockDeliverResponse) : Yielded RawBlock :=
  streamBlocks BlockDeliverResponse.getStatus
    (fun resp => .ok (RawBlock.fromProto resp.getBlock)) stream.ending stream.responses

/-- Stream blocks from the service behind a hub: its envelope opens the stream, and `yields` is how
the hub reads it. -/
def EventHub.streamBlocks {ρ β : Type} (hub : EventHub) (deliver : Envelope → Stream ρ)
    (yields : Stream ρ → Yielded β) (start stop : Option Int) (behavior : SeekBehavior)
    (nonce : Bytes) (timestamp : Timestamp) : Yielded β :=
  match hub.getConnectionEnvelope rt behavior start stop nonce timestamp with
  | .error e => ⟨[], some e⟩
  | .ok envelope => yields (deliver envelope)

/-- Stream blocks from the peer. -/
def PeerEvents.streamBlocks (requestor : User) (channel : Option Channel) (peer : Peer)
    (deliver : Envelope → Stream BlockDeliverResponse) (start stop : Option Int)
    (behavior : SeekBehavior) (nonce : Bytes) (timestamp : Timestamp) : Yielded RawBlock :=
  (peerEvents requestor channel peer).streamBlocks rt deliver streamRawBlocks start stop behavior
    nonce timestamp

/-- Stream filtered blocks from the peer. -/
def PeerFilteredEvents.streamBlocks (requestor : User) (channel : Option Channel) (peer : Peer)
    (deliverFiltered : Envelope → Stream DeliverResponse) (start stop : Option Int)
    (behavior : SeekBehavior) (nonce : Bytes) (timestamp : Timestamp) : Yielded FilteredBlock :=
  (peerFilteredEvents requestor channel peer).streamBlocks rt deliverFiltered streamFilteredBlocks
    start stop behavior nonce timestamp

/-- Stream blocks from the orderer. -/
def OrdererEvents.streamBlocks (requestor : User) (channel : Option Channel) (orderer : Orderer)
    (deliver : Envelope → Stream BlockDeliverResponse) (start stop : Option Int)
    (behavior : SeekBehavior) (nonce : Bytes) (timestamp : Timestamp) : Yielded RawBlock :=
  (ordererEvents requestor channel orderer).streamBlocks rt deliver streamRawBlocks start stop
    behavior nonce timestamp

/-! ## What the generator yields -/

section Generator

variable {ρ β : Type} {status : ρ → Int32} {pullBlock : ρ → Except Exc β}

/-- Responses that hold blocks are yielded one by one, and the rest of the stream follows. -/
theorem streamBlocks_append {responses : List ρ} {blocks : List β}
    (h : List.Forall₂ (fun resp block => status resp = 0 ∧ pullBlock resp = .ok block) responses blocks)
    (ending : StreamEnd) (rest : List ρ) :
    streamBlocks status pullBlock ending (responses ++ rest) =
      ⟨blocks ++ (streamBlocks status pullBlock ending rest).blocks,
        (streamBlocks status pullBlock ending rest).error⟩ := by
  induction h with
  | nil => rfl
  | cons hresp _ ih =>
      obtain ⟨hstatus, hblock⟩ := hresp
      rw [List.cons_append, streamBlocks, if_neg (not_not.mpr hstatus), hblock, ih]
      rfl

end Generator

/-- A status other than zero keeps the stream from ending without an error. -/
theorem error_streamBlocks_ne_none {ρ β : Type} {status : ρ → Int32} {pullBlock : ρ → Except Exc β}
    (ending : StreamEnd) {responses : List ρ} (h : ∃ resp ∈ responses, status resp ≠ 0) :
    (streamBlocks status pullBlock ending responses).error ≠ none := by
  induction responses with
  | nil =>
      obtain ⟨resp, hmem, -⟩ := h
      cases hmem
  | cons first rest ih =>
      rw [streamBlocks]
      by_cases hfirst : status first ≠ 0
      · rw [if_pos hfirst]
        exact Option.some_ne_none _
      · rw [if_neg hfirst]
        cases pullBlock first with
        | error e => exact Option.some_ne_none _
        | ok block =>
            obtain ⟨resp, hmem, hstatus⟩ := h
            obtain rfl | hmem := List.mem_cons.mp hmem
            · exact absurd hstatus hfirst
            · exact ih ⟨resp, hmem, hstatus⟩

/-! ## Bounded ranges -/

/-- The numbers of a range of blocks. -/
def blockRange (start stop : Nat) : List Nat := List.range' start (stop + 1 - start)

/-- What is relied on of a Deliver service: a bounded range is answered with its blocks, a status of
success, and the end of the stream. -/
def ServesRanges {ρ B : Type} (deliver : Envelope → Stream ρ) (ledger : Nat → B) (block : B → ρ)
    (status : Int32 → ρ) : Prop :=
  ∀ envelope start stop behavior,
    envelope.seekInfo rt = some {
      start := some (.specified ⟨start⟩), stop := some (.specified ⟨stop⟩), behavior } →
    start ≤ stop →
    deliver envelope =
      ⟨(blockRange start.toNat stop.toNat).map (fun n => block (ledger n)) ++ [status SUCCESS], .closed⟩

/-- The stream of a bounded range ends cleanly: its blocks are yielded, once each and in order, and
nothing is raised. -/
def EndsCleanly {β : Type} (yielded : Yielded β) (blocks : List β) : Prop :=
  yielded.blocks = blocks ∧ yielded.error = none

/-- What raises a `BlockRetrievalError` is a status other than success. -/
def RaisesOnFailureOnly {β : Type} (yielded : Yielded β) : Prop :=
  ∀ msg status, yielded.error = some (.blockRetrievalError msg status) → status ≠ some SUCCESS

variable {rt}

/-- A position of a seek request that is built is within the range of its field. -/
theorem buildSeekPosition_some {n : Int} {position : SeekPosition}
    (h : buildSeekPosition (some n) = .ok position) :
    position = .specified ⟨UInt64.ofNat n.toNat⟩ ∧ (UInt64.ofNat n.toNat).toNat = n.toNat := by
  obtain ⟨number, hnumber, h⟩ := bind_eq_ok.mp h
  cases h
  rw [uint64Field] at hnumber
  split at hnumber
  · rename_i hrange
    cases hnumber
    refine ⟨rfl, ?_⟩
    rw [UInt64.toNat_ofNat', Nat.mod_eq_of_lt (by omega)]
  · cases hnumber

/-- A hub reads a bounded range as the stream of its blocks, a status of success, and the end. -/
theorem EventHub.streamBlocks_of_servesRanges (hrt : rt.RoundTrip) {ρ β B : Type} (hub : EventHub)
    {deliver : Envelope → Stream ρ} {ledger : Nat → B} {block : B → ρ} {status : Int32 → ρ}
    (hserves : ServesRanges rt deliver ledger block status) (yields : Stream ρ → Yielded β)
    {start stop : Int} (hle : start ≤ stop) {behavior : SeekBehavior} {nonce : Bytes}
    {timestamp : Timestamp} {envelope : Envelope}
    (henvelope : hub.getConnectionEnvelope rt behavior (some start) (some stop) nonce timestamp =
      .ok envelope) :
    hub.streamBlocks rt deliver yields (some start) (some stop) behavior nonce timestamp =
      yields ⟨(blockRange start.toNat stop.toNat).map (fun n => block (ledger n)) ++
        [status SUCCESS], .closed⟩ := by
  obtain ⟨info, hinfo, hseek⟩ := seekInfo_of_getConnectionEnvelope hrt henvelope
  obtain ⟨seekStart, hstart, hinfo⟩ := bind_eq_ok.mp hinfo
  obtain ⟨seekStop, hstop, hinfo⟩ := bind_eq_ok.mp hinfo
  cases hinfo
  obtain ⟨rfl, hstartNat⟩ := buildSeekPosition_some hstart
  obtain ⟨rfl, hstopNat⟩ := buildSeekPosition_some hstop
  have hrange : UInt64.ofNat start.toNat ≤ UInt64.ofNat stop.toNat := by
    rw [UInt64.le_iff_toNat_le, hstartNat, hstopNat]
    exact Int.toNat_le_toNat hle
  rw [EventHub.streamBlocks, henvelope]
  dsimp only
  rw [hserves envelope _ _ _ hseek hrange, hstartNat, hstopNat]

/-- Whole blocks followed by a status of success are yielded, and the status raises. -/
theorem streamRawBlocks_range (ledger : Nat → BlockProto) (range : List Nat) :
    streamRawBlocks ⟨range.map (fun n => .block (ledger n)) ++ [.status SUCCESS], .closed⟩ =
      ⟨range.map (fun n => RawBlock.fromProto (ledger n)),
        some (.blockRetrievalError "Failed to retrieve block" (some SUCCESS))⟩ := by
  have hblocks : List.Forall₂ (fun (resp : BlockDeliverResponse) (block : RawBlock) =>
      resp.getStatus = 0 ∧ (.ok (RawBlock.fromProto resp.getBlock) : Except Exc RawBlock) = .ok block)
      (range.map fun n => .block (ledger n)) (range.map fun n => RawBlock.fromProto (ledger n)) := by
    rw [List.forall₂_map_left_iff, List.forall₂_map_right_iff, List.forall₂_same]
    exact fun n _ => ⟨rfl, rfl⟩
  rw [streamRawBlocks, streamBlocks_append hblocks, streamBlocks_of_status (by decide)]
  rw [List.append_nil]
  rfl

/-- Filtered blocks that convert, followed by a status of success, are yielded, and the status
raises. -/
theorem streamFilteredBlocks_range (ledger : Nat → FilteredBlockProto) {range : List Nat}
    {blocks : List FilteredBlock}
    (h : List.Forall₂ (fun n block => FilteredBlock.fromProto (ledger n) = .ok block) range blocks) :
    streamFilteredBlocks ⟨range.map (fun n => .filteredBlock (ledger n)) ++ [.status SUCCESS],
        .closed⟩ =
      ⟨blocks, some (.blockRetrievalError "Failed to retrieve block" (some SUCCESS))⟩ := by
  have hblocks : List.Forall₂ (fun (resp : DeliverResponse) (block : FilteredBlock) =>
      resp.getStatus = 0 ∧ FilteredBlock.fromProto resp.getFilteredBlock = .ok block)
      (range.map fun n => .filteredBlock (ledger n)) blocks := by
    rw [List.forall₂_map_left_iff]
    exact h.imp fun n block hblock => ⟨rfl, hblock⟩
  rw [streamFilteredBlocks, streamBlocks_append hblocks, streamBlocks_of_status (by decide)]
  rw [List.append_nil]
  rfl

/-- A stream that raises for a status of success does not end cleanly, and raises where it should
not. -/
theorem violates_of_raises_success {β : Type} {yielded : Yielded β} (blocks : List β)
    (hraised : yielded.error =
      some (.blockRetrievalError "Failed to retrieve block" (some SUCCESS))) :
    ¬ EndsCleanly yielded blocks ∧ ¬ RaisesOnFailureOnly yielded :=
  ⟨fun h => Option.some_ne_none _ (hraised.symm.trans h.2), fun h => h _ _ hraised rfl⟩

/-- **A bounded stream never ends cleanly.** Over a service that answers a bounded range with its
blocks and a status of success, each of the three hubs yields the blocks of the range, once each and
in order, and then raises a retrieval error for that very status. -/
theorem bounded_stream_raises (hrt : rt.RoundTrip) (requestor : User) (channel : Option Channel)
    {start stop : Int} (hle : start ≤ stop) (behavior : SeekBehavior) (nonce : Bytes)
    (timestamp : Timestamp) :
    let range := blockRange start.toNat stop.toNat
    let raised : Option Exc := some (.blockRetrievalError "Failed to retrieve block" (some SUCCESS))
    (∀ peer deliver ledger envelope,
      ServesRanges rt deliver ledger BlockDeliverResponse.block .status →
      (peerEvents requestor channel peer).getConnectionEnvelope rt behavior (some start) (some stop)
        nonce timestamp = .ok envelope →
      let yielded := PeerEvents.streamBlocks rt requestor channel peer deliver (some start)
        (some stop) behavior nonce timestamp
      let blocks := range.map fun n => RawBlock.fromProto (ledger n)
      yielded = ⟨blocks, raised⟩ ∧ ¬ EndsCleanly yielded blocks ∧ ¬ RaisesOnFailureOnly yielded) ∧
    (∀ peer deliverFiltered ledger envelope,
      ServesRanges rt deliverFiltered ledger DeliverResponse.filteredBlock .status →
      (peerFilteredEvents requestor channel peer).getConnectionEnvelope rt behavior (some start)
        (some stop) nonce timestamp = .ok envelope →
      let yielded := PeerFilteredEvents.streamBlocks rt requestor channel peer deliverFiltered
        (some start) (some stop) behavior nonce timestamp
      (∀ blocks, ¬ EndsCleanly yielded blocks) ∧
        ∀ blocks, List.Forall₂ (fun n block => FilteredBlock.fromProto (ledger n) = .ok block) range
          blocks →
        yielded = ⟨blocks, raised⟩ ∧ ¬ RaisesOnFailureOnly yielded) ∧
    ∀ orderer deliver ledger envelope,
      ServesRanges rt deliver ledger BlockDeliverResponse.block .status →
      (ordererEvents requestor channel orderer).getConnectionEnvelope rt behavior (some start)
        (some stop) nonce timestamp = .ok envelope →
      let yielded := OrdererEvents.streamBlocks rt requestor channel orderer deliver (some start)
        (some stop) behavior nonce timestamp
      let blocks := range.map fun n => RawBlock.fromProto (ledger n)
      yielded = ⟨blocks, raised⟩ ∧ ¬ EndsCleanly yielded blocks ∧ ¬ RaisesOnFailureOnly yielded := by
  refine ⟨?_, ?_, ?_⟩
  · intro peer deliver ledger envelope hserves henvelope
    have hyields : PeerEvents.streamBlocks rt requestor channel peer deliver (some start) (some stop)
        behavior nonce timestamp = _ :=
      (EventHub.streamBlocks_of_servesRanges hrt _ hserves streamRawBlocks hle henvelope).trans
        (streamRawBlocks_range ledger _)
    exact ⟨hyields, violates_of_raises_success _ (congrArg Yielded.error hyields)⟩
  · intro peer deliverFiltered ledger envelope hserves henvelope yielded
    have hstream : yielded = _ :=
      EventHub.streamBlocks_of_servesRanges hrt _ hserves streamFilteredBlocks hle henvelope
    refine ⟨fun blocks hclean => ?_, fun blocks hblocks => ?_⟩
    · -- A block that does not convert ends the stream before its status does.
      rw [hstream] at hclean
      refine error_streamBlocks_ne_none _ ⟨.status SUCCESS, ?_, by decide⟩ hclean.2
      exact List.mem_append_right _ (List.mem_singleton_self _)
    · have hyields := hstream.trans (streamFilteredBlocks_range ledger hblocks)
      exact ⟨hyields, (violates_of_raises_success [] (congrArg Yielded.error hyields)).2⟩
  · intro orderer deliver ledger envelope hserves henvelope
    have hyields : OrdererEvents.streamBlocks rt requestor channel orderer deliver (some start)
        (some stop) behavior nonce timestamp = _ :=
      (EventHub.streamBlocks_of_servesRanges hrt _ hserves streamRawBlocks hle henvelope).trans
        (streamRawBlocks_range ledger _)
    exact ⟨hyields, violates_of_raises_success _ (congrArg Yielded.error hyields)⟩

/-- A service that answers bounded ranges, and closes any other stream at once. -/
def rangeService {ρ B : Type} (ledger : Nat → B) (block : B → ρ) (status : Int32 → ρ)
    (envelope : Envelope) : Stream ρ :=
  match envelope.seekInfo (wireRuntime id) with
  | some { start := some (.specified start), stop := some (.specified stop), .. } =>
      ⟨(blockRange start.number.toNat stop.number.toNat).map (fun n => block (ledger n)) ++
        [status SUCCESS], .closed⟩
  | _ => ⟨[], .closed⟩

/-- It serves ranges. -/
theorem rangeService_servesRanges {ρ B : Type} (ledger : Nat → B) (block : B → ρ)
    (status : Int32 → ρ) :
    ServesRanges (wireRuntime id) (rangeService ledger block status) ledger block status := by
  intro envelope start stop behavior hseek _
  rw [rangeService, hseek]

/-- The ledger whose blocks carry their number. -/
def numberedLedger (n : Nat) : BlockProto := { header := { number := UInt64.ofNat n } }

/-- The keyed user reads two blocks from the peer, and gets both before the error. -/
theorem bounded_stream_raises_keyedUser :
    (PeerEvents.streamBlocks (wireRuntime id) keyedUser (some ⟨"channel"⟩) { endpoint := "peer:7051" }
      (rangeService numberedLedger BlockDeliverResponse.block .status) (some 3) (some 4)
      .blockUntilReady [9] {}).blocks =
      [RawBlock.fromProto (numberedLedger 3), RawBlock.fromProto (numberedLedger 4)] :=
  congrArg Yielded.blocks ((bounded_stream_raises (wireRuntime_roundTrip id) keyedUser
    (some ⟨"channel"⟩) (show (3 : Int) ≤ 4 by decide) .blockUntilReady [9] {}).1
    { endpoint := "peer:7051" } _ numberedLedger _
    (rangeService_servesRanges numberedLedger _ _) rfl).1

/-- Its stream does not end cleanly, and what it raises is a retrieval error with a status of
success. -/
theorem bounded_stream_uncleanly_ended :
    let yielded := PeerEvents.streamBlocks (wireRuntime id) keyedUser (some ⟨"channel"⟩)
      { endpoint := "peer:7051" } (rangeService numberedLedger BlockDeliverResponse.block .status)
      (some 3) (some 4) .blockUntilReady [9] {}
    ¬ EndsCleanly yielded [RawBlock.fromProto (numberedLedger 3),
      RawBlock.fromProto (numberedLedger 4)] ∧ ¬ RaisesOnFailureOnly yielded := by
  have hraised : (PeerEvents.streamBlocks (wireRuntime id) keyedUser (some ⟨"channel"⟩)
      { endpoint := "peer:7051" } (rangeService numberedLedger BlockDeliverResponse.block .status)
      (some 3) (some 4) .blockUntilReady [9] {}).error =
      some (.blockRetrievalError "Failed to retrieve block" (some SUCCESS)) := by
    decide +kernel
  exact violates_of_raises_success _ hraised

end Snakeskin
