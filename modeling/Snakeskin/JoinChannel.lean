import Snakeskin.BlockStreams

/-! # Joining a channel

`join_channel` of `operations.py`: the origin block is read from the orderers, one after the other,
and proposed to the peer. This file says what the loop over the orderers makes of their answers, and
when a peer joins with a block that any of them can give. -/

namespace Snakeskin

open Wire

variable (rt : Runtime)

/-! ## The operation -/

/-- Whether an exception is a `ConnectionError`. -/
def Exc.isConnectionError : Exc → Bool
  | .blockchainConnectionError _ _ => true
  | _ => false

/-- What a loop that leaves a generator at its first item sees of it: the item, nothing, or the
exception raised in its place. -/
def firstYielded {β : Type} (yielded : Yielded β) : Except Exc (Option β) :=
  match yielded.blocks, yielded.error with
  | block :: _, _ => .ok (some block)
  | [], some e => .error e
  | [], none => .ok none

/-- The first block of the range from zero to zero, as the event hub of an orderer streams it. -/
def originBlock (requestor : User) (channel : Channel) (orderer : Orderer) :
    Async Unit (Option RawBlock) := do
  let envelope ← (ordererEvents requestor (some channel) orderer).drawConnectionEnvelope rt
    .blockUntilReady (some 0) (some 0)
  let stream : Stream BlockDeliverResponse ← Coro.request (Request.deliver orderer envelope)
  Coro.ofExcept (firstYielded (streamRawBlocks stream))

/-- The loop over the orderers, with the block and the connection error of the orderers so far. -/
def originLoop (requestor : User) (channel : Channel) (block : Option RawBlock)
    (connError : Option Exc) : List Orderer → Async Unit (Option RawBlock × Option Exc)
  | [] => return (block, connError)
  | orderer :: orderers =>
      let round : Async Unit (Option RawBlock × Option Exc) :=
        -- A stream without a block leaves the variable as it was.
        (originBlock rt requestor channel orderer).bind fun found => Coro.ret (found.or block, connError)
      (round.tryCatch fun err =>
        if err.isConnectionError then Coro.ret (block, some err) else Coro.raise err).bind
          fun (block, connError) => originLoop requestor channel block connError orderers

/-- The message for a peer that refuses to join. -/
def joinMessage (channel : Channel) (peer : Peer) : String :=
  "Failed to join peer " ++ peer.name.getD "None" ++ " to channel " ++ channel.name

/-- Generates the transaction that hands a block to a peer. It is not for the channel, which the
peer has not joined yet. -/
def generateJoinTx (requestor : User) (block : RawBlock) : Async Unit GeneratedTX := do
  let name ← Coro.ofExcept (encodeProtoBytes "JoinChain")
  let (nonce, timestamp) : Bytes × Timestamp ← Coro.request Request.entropy
  Coro.ofExcept (buildGeneratedTx rt requestor "cscc" [name, rt.serializeToString block.asProto] none
    none nonce timestamp)

/-- Proposes a block to a peer that is to join a channel. -/
def proposeJoin (requestor : User) (channel : Channel) (peer : Peer) (block : RawBlock) :
    Async Unit Unit := do
  let generatedTx ← generateJoinTx rt requestor block
  let endorsedTx ← proposeTx [peer] generatedTx
  Coro.ofExcept (raiseTxProposalError endorsedTx (joinMessage channel peer))

/-- A high-level operation that joins a peer to a channel, with the origin block that the orderers
give. -/
def joinChannel (requestor : User) (orderers : List Orderer) (channel : Channel) (peer : Peer) :
    Async Unit Unit :=
  if orderers = [] then Coro.raise (.valueError "Must provide at least one orderer")
  else do
    let (block, connError) ← originLoop rt requestor channel none none orderers
    -- A connection error counts even where another orderer has given the block.
    match connError, block with
    | some e, _ => Coro.raise e
    | none, none =>
        Coro.raise (.blockRetrievalError "Could not retrieve channel origin block from orderer" none)
    | none, some block => proposeJoin rt requestor channel peer block

/-! ## What the orderers answer -/

variable (network : Network)

/-- What is read from each orderer of a list, when all of them are asked in order. -/
def originAnswers (requestor : User) (channel : Channel) :
    List Request → List Orderer → List (Except Exc (Option RawBlock))
  | _, [] => []
  | sends, orderer :: orderers =>
      let read := Coro.observe network (originBlock rt requestor channel orderer) () sends
      read.1 :: originAnswers requestor channel read.2.2 orderers

/-- What the loop makes of the answers. -/
def foldOrigins (block : Option RawBlock) (connError : Option Exc) :
    List (Except Exc (Option RawBlock)) → Except Exc (Option RawBlock × Option Exc)
  | [] => .ok (block, connError)
  | .ok found :: answers => foldOrigins (found.or block) connError answers
  | .error e :: answers =>
      if e.isConnectionError then foldOrigins block (some e) answers else .error e

/-- No request of the list is a proposal. -/
def NoProposal (requests : List Request) : Prop := ∀ q ∈ requests, ¬ Event.IsProposal (.inl q)

/-- Reading from an orderer is observed to draw a nonce, to open one stream with the envelope made
of it, and to give the first item of that stream. -/
theorem observe_originBlock (requestor : User) (channel : Channel) (orderer : Orderer)
    (sends : List Request) :
    Coro.observe network (originBlock rt requestor channel orderer) () sends =
      let drawn : Bytes × Timestamp := network sends .entropy
      match (ordererEvents requestor (some channel) orderer).getConnectionEnvelope rt
        .blockUntilReady (some 0) (some 0) drawn.1 drawn.2 with
      | .error e => (.error e, (), sends ++ [.entropy])
      | .ok envelope =>
          (firstYielded (streamRawBlocks
              (network (sends ++ [.entropy]) (.deliver orderer envelope))),
            (), sends ++ [.entropy] ++ [.deliver orderer envelope]) := by
  have hdraws : connectionDraws .blockUntilReady (some 0) (some 0) = [.entropy] := by decide
  rw [originBlock, Coro.bind_eq, Coro.observe_bind, observe_drawConnectionEnvelope, hdraws]
  dsimp only
  cases (ordererEvents requestor (some channel) orderer).getConnectionEnvelope rt .blockUntilReady
    (some 0) (some 0) _ _ with
  | error e => rfl
  | ok envelope =>
      exact Coro.observe_ofExcept network (firstYielded (streamRawBlocks
        (network (sends ++ [.entropy]) (.deliver orderer envelope)))) () _

/-- It sends no proposal. -/
theorem noProposal_originBlock (requestor : User) (channel : Channel) (orderer : Orderer)
    (sends : List Request) :
    ∃ between, NoProposal between ∧
      (Coro.observe network (originBlock rt requestor channel orderer) () sends).2.2 =
        sends ++ between := by
  rw [observe_originBlock]
  dsimp only
  cases (ordererEvents requestor (some channel) orderer).getConnectionEnvelope rt .blockUntilReady
    (some 0) (some 0) _ _ with
  | error e => exact ⟨[.entropy], by simp [NoProposal, Event.IsProposal], rfl⟩
  | ok envelope =>
      exact ⟨[.entropy, .deliver orderer envelope], by simp [NoProposal, Event.IsProposal], by simp⟩

/-- The loop over the orderers folds their answers and sends no proposal, by induction on the
orderers. -/
theorem observe_originLoop (requestor : User) (channel : Channel) (block : Option RawBlock)
    (connError : Option Exc) (orderers : List Orderer) (sends : List Request) :
    ∃ between, NoProposal between ∧
      Coro.observe network (originLoop rt requestor channel block connError orderers) () sends =
        (foldOrigins block connError (originAnswers rt network requestor channel sends orderers), (),
          sends ++ between) := by
  induction orderers generalizing block connError sends with
  | nil => exact ⟨[], by simp [NoProposal], by rw [List.append_nil]; rfl⟩
  | cons orderer orderers ih =>
      obtain ⟨read, hread, hsends⟩ := noProposal_originBlock rt network requestor channel orderer sends
      rw [originLoop, Coro.observe_bind, Coro.observe_tryCatch, Coro.observe_bind, originAnswers]
      generalize Coro.observe network (originBlock rt requestor channel orderer) () sends = outcome
        at hsends
      obtain ⟨answer, ⟨⟩, sends'⟩ := outcome
      obtain rfl : sends' = sends ++ read := hsends
      have hcons : ∀ {between}, NoProposal between → NoProposal (read ++ between) :=
        fun hbetween q hq => (List.mem_append.mp hq).elim (hread q) (hbetween q)
      cases answer with
      | ok found =>
          obtain ⟨between, hbetween, hrest⟩ := ih (found.or block) connError (sends ++ read)
          refine ⟨read ++ between, hcons hbetween, ?_⟩
          rw [List.append_assoc] at hrest
          exact hrest
      | error e =>
          -- Only a connection error sends the loop to the next orderer.
          by_cases he : e.isConnectionError = true
          · obtain ⟨between, hbetween, hrest⟩ := ih block (some e) (sends ++ read)
            refine ⟨read ++ between, hcons hbetween, ?_⟩
            rw [List.append_assoc] at hrest
            dsimp only
            rw [if_pos he, foldOrigins, if_pos he]
            exact hrest
          · refine ⟨read, hread, ?_⟩
            dsimp only
            rw [if_neg he, foldOrigins, if_neg he]
            rfl

/-! ## What the loop makes of the answers -/

/-- Without an error the loop ends with the last block delivered, or with the one it began with; by
induction on the answers. -/
theorem foldOrigins_of_readable {answers : List (Except Exc (Option RawBlock))}
    (h : ∀ a ∈ answers, ∃ found, a = .ok found) (block : Option RawBlock) (connError : Option Exc) :
    ∃ found, foldOrigins block connError answers = .ok (found, connError) ∧
      ((∃ b, found = some b ∧ .ok (some b) ∈ answers) ∨
        found = block ∧ ∀ b, .ok (some b) ∉ answers) := by
  induction answers generalizing block with
  | nil => exact ⟨block, rfl, .inr ⟨rfl, fun _ hmem => (by cases hmem)⟩⟩
  | cons answer answers ih =>
      obtain ⟨first, rfl⟩ := h answer List.mem_cons_self
      obtain ⟨found, hfold, hfound⟩ := ih (fun a ha => h a (List.mem_cons_of_mem _ ha)) (first.or block)
      refine ⟨found, hfold, ?_⟩
      obtain ⟨b, rfl, hmem⟩ | ⟨rfl, hnone⟩ := hfound
      · exact .inl ⟨b, rfl, List.mem_cons_of_mem _ hmem⟩
      · cases first with
        | some b => exact .inl ⟨b, rfl, List.mem_cons_self⟩
        | none =>
            refine .inr ⟨rfl, fun b hmem => ?_⟩
            obtain hb | hb := List.mem_cons.mp hmem
            · cases hb
            · exact hnone b hb

/-- A connection error is not forgotten, by induction on the answers. -/
theorem foldOrigins_of_connError (answers : List (Except Exc (Option RawBlock)))
    (block : Option RawBlock) (e : Exc) :
    (∃ e', foldOrigins block (some e) answers = .error e') ∨
      ∃ found e', foldOrigins block (some e) answers = .ok (found, some e') := by
  induction answers generalizing block e with
  | nil => exact .inr ⟨block, e, rfl⟩
  | cons answer answers ih =>
      cases answer with
      | ok found => exact ih _ e
      | error e' =>
          rw [foldOrigins]
          by_cases he : e'.isConnectionError = true
          · rw [if_pos he]
            exact ih block e'
          · rw [if_neg he]
            exact .inl ⟨e', rfl⟩

/-- An error among the answers is raised or kept, by induction on the answers. -/
theorem foldOrigins_of_error {answers : List (Except Exc (Option RawBlock))}
    (h : ∃ e, .error e ∈ answers) (block : Option RawBlock) (connError : Option Exc) :
    (∃ e, foldOrigins block connError answers = .error e) ∨
      ∃ found e, foldOrigins block connError answers = .ok (found, some e) := by
  induction answers generalizing block with
  | nil =>
      obtain ⟨e, hmem⟩ := h
      cases hmem
  | cons answer answers ih =>
      obtain ⟨e, hmem⟩ := h
      cases answer with
      | ok found =>
          obtain hfirst | hrest := List.mem_cons.mp hmem
          · cases hfirst
          · exact ih ⟨e, hrest⟩ _
      | error e' =>
          rw [foldOrigins]
          by_cases he : e'.isConnectionError = true
          · rw [if_pos he]
            exact foldOrigins_of_connError answers block e'
          · rw [if_neg he]
            exact .inl ⟨e', rfl⟩

/-! ## The proposal to the peer -/

/-- The proposal invokes `JoinChain` of `cscc` with an argument that parses to the block. -/
def ProposesJoin (proposal : SignedProposal) (block : BlockProto) : Prop :=
  ∃ p payload spec name arg,
    rt.fromString Proposal proposal.proposalBytes = some p ∧
    rt.fromString ChaincodeProposalPayload p.payload = some payload ∧
    rt.fromString ChaincodeInvocationSpec payload.input = some ⟨some spec⟩ ∧
    spec.chaincodeId.map (·.name) = some "cscc" ∧ spec.input.map (·.args) = some [name, arg] ∧
    encodeProtoBytes "JoinChain" = .ok name ∧ rt.fromString BlockProto arg = some block

/-- A transaction that is not for a channel is always generated. -/
theorem exists_buildGeneratedTx (requestor : User) (ccName : String) (args : List Bytes)
    (nonce : Bytes) (timestamp : Timestamp) :
    ∃ header, buildGeneratedTx rt requestor ccName args none none nonce timestamp =
      .ok (generatedWith rt requestor ccName args none nonce header) := by
  have hname : encodeProtoStr "" = .ok "" := by decide
  rw [buildGeneratedTx_eq, buildHeader]
  dsimp only [Option.map_none, Option.getD_none]
  rw [hname]
  exact ⟨_, rfl⟩

/-- A proposal to some peers is observed to send it to them, once. -/
theorem sends_proposeTx {peers : List Peer} (hpeers : peers ≠ []) (generatedTx : GeneratedTX)
    (sends : List Request) :
    (Coro.observe network (proposeTx peers generatedTx) () sends).2.2 =
      sends ++ [.processProposals generatedTx.signedProposal peers] := by
  rw [proposeTx, if_neg hpeers]
  show (Coro.observe network (Coro.bind (Coro.ofExcept (gather _)) _) () _).2.2 = _
  rw [Coro.observe_bind, Coro.observe_ofExcept]
  cases gather _ with
  | error e => rfl
  | ok responses => rfl

/-- A check at the end of an operation sends nothing. -/
theorem sends_bind_ofExcept {α β : Type} (c : Async Unit α) (check : α → Except Exc β)
    (sends : List Request) :
    (Coro.observe network (c.bind fun a => Coro.ofExcept (check a)) () sends).2.2 =
      (Coro.observe network c () sends).2.2 := by
  rw [Coro.observe_bind]
  rcases Coro.observe network c () sends with ⟨e | a, ⟨⟩, sends'⟩
  · rfl
  · exact congrArg (·.2.2) (Coro.observe_ofExcept network (check a) () sends')

variable {rt} in
/-- The transaction that hands over a block is generated after one draw, and its proposal carries
the block. -/
theorem observe_generateJoinTx (hrt : rt.RoundTrip) (requestor : User) (block : RawBlock)
    (sends : List Request) :
    ∃ generatedTx, ProposesJoin rt generatedTx.signedProposal block.asProto ∧
      Coro.observe network (generateJoinTx rt requestor block) () sends =
        (.ok generatedTx, (), sends ++ [.entropy]) := by
  obtain ⟨name, hname⟩ : ∃ name, encodeProtoBytes "JoinChain" = .ok name := ⟨_, rfl⟩
  let args := [name, rt.serializeToString block.asProto]
  obtain ⟨header, hgenerated⟩ := exists_buildGeneratedTx rt requestor "cscc" args
    (network sends .entropy : Bytes × Timestamp).1 (network sends .entropy : Bytes × Timestamp).2
  refine ⟨generatedWith rt requestor "cscc" args none (network sends .entropy : Bytes × Timestamp).1
    header, ?_, ?_⟩
  · exact ⟨invocationProposal rt header "cscc" args (∅ : TransientMap).toFinmap, _, {
      type := ChaincodeSpecProto.GOLANG, chaincodeId := some { name := "cscc" }
      input := some { args } }, name, _, hrt _, hrt _, hrt _, rfl, rfl, hname, hrt _⟩
  · rw [generateJoinTx, hname, ← hgenerated]
    exact Coro.observe_ofExcept (N := Note) network (buildGeneratedTx rt requestor "cscc" args none
      none (network sends .entropy : Bytes × Timestamp).1
      (network sends .entropy : Bytes × Timestamp).2) () _

variable {rt} in
/-- **The proposal of a block** goes to the peer alone, once. -/
theorem observe_proposeJoin (hrt : rt.RoundTrip) (requestor : User) (channel : Channel) (peer : Peer)
    (block : RawBlock) (sends : List Request) :
    ∃ signed, ProposesJoin rt signed block.asProto ∧
      (Coro.observe network (proposeJoin rt requestor channel peer block) () sends).2.2 =
        sends ++ [.entropy, .processProposals signed [peer]] := by
  obtain ⟨generatedTx, hproposes, hgenerated⟩ :=
    observe_generateJoinTx network hrt requestor block sends
  refine ⟨generatedTx.signedProposal, hproposes, ?_⟩
  have hproposed := sends_proposeTx network (List.cons_ne_nil peer []) generatedTx
    (sends ++ [.entropy])
  rw [List.append_assoc, List.singleton_append] at hproposed
  rw [proposeJoin, ← hproposed, Coro.bind_eq, Coro.observe_bind, hgenerated]
  exact sends_bind_ofExcept network _ _ _

/-! ## Joining with any origin -/

/-- What a caller expects of the orderers that are asked for the origin block, given what can be
read from each: if any of them can give a block, the peer is sent one proposal, with a block that
one of them gave, and what then happens is up to the peer. -/
def JoinsWithAny (requestor : User) (channel : Channel) (peer : Peer) (sends : List Request)
    (answers : List (Except Exc (Option RawBlock)))
    (outcome : Except Exc Unit × Unit × List Request) : Prop :=
  (∃ block, .ok (some block) ∈ answers) →
    ∃ block between signed, .ok (some block) ∈ answers ∧ NoProposal between ∧
      outcome.2.2 = sends ++ between ++ [.entropy, .processProposals signed [peer]] ∧
      ProposesJoin rt signed block.asProto ∧
      outcome =
        Coro.observe network (proposeJoin rt requestor channel peer block) () (sends ++ between)

variable {rt} in
/-- **When a peer joins with a block that any orderer can give**: if and only if no orderer gives a
block, or nothing goes wrong with any of them. -/
theorem joinsWithAny_iff (hrt : rt.RoundTrip) (requestor : User) {orderers : List Orderer}
    (horderers : orderers ≠ []) (channel : Channel) (peer : Peer) (sends : List Request) :
    let answers := originAnswers rt network requestor channel sends orderers
    JoinsWithAny rt network requestor channel peer sends answers
        (Coro.observe network (joinChannel rt requestor orderers channel peer) () sends) ↔
      (∀ block, .ok (some block) ∉ answers) ∨ ∀ a ∈ answers, ∃ found, a = .ok found := by
  intro answers
  obtain ⟨between, hbetween, hloop⟩ : ∃ between, NoProposal between ∧
      Coro.observe network (originLoop rt requestor channel none none orderers) () sends =
        (foldOrigins none none answers, (), sends ++ between) :=
    observe_originLoop rt network requestor channel none none orderers sends
  -- The request for the proposal is not among those for the blocks.
  have hnot : ∀ signed before, sends ++ between ≠
      sends ++ before ++ [.entropy, .processProposals signed [peer]] := by
    intro signed before h
    rw [List.append_assoc] at h
    have hmem : .processProposals signed [peer] ∈ between := by
      rw [List.append_cancel_left h]
      simp
    exact hbetween _ hmem trivial
  rw [joinChannel, if_neg horderers, Coro.bind_eq, Coro.observe_bind, hloop]
  by_cases hreadable : ∀ a ∈ answers, ∃ found, a = .ok found
  · -- The loop ends with the last block, if there is one.
    obtain ⟨found, hfold, hfound⟩ := foldOrigins_of_readable hreadable none none
    refine iff_of_true (fun ⟨block', hblock'⟩ => ?_) (.inr hreadable)
    obtain ⟨block, rfl, hblock⟩ | ⟨-, hnone⟩ := hfound
    · obtain ⟨signed, hsigned, hsends⟩ :=
        observe_proposeJoin network hrt requestor channel peer block (sends ++ between)
      rw [hfold]
      exact ⟨block, between, signed, hblock, hbetween, hsends, hsigned, rfl⟩
    · exact absurd hblock' (hnone block')
  · -- An error is raised, after the loop at the latest, and no proposal is sent.
    have herror : ∃ e, .error e ∈ answers := by
      by_contra hnone
      refine hreadable fun a ha => ?_
      cases a with
      | ok found => exact ⟨found, rfl⟩
      | error e => exact absurd ⟨e, ha⟩ hnone
    have herrors := foldOrigins_of_error herror none none
    refine ⟨fun hjoins => .inl fun block hblock => ?_, ?_⟩
    · obtain ⟨-, before, signed, -, -, hsends, -⟩ := hjoins ⟨block, hblock⟩
      obtain ⟨e, hfold⟩ | ⟨found, e, hfold⟩ := herrors
      · rw [hfold] at hsends
        exact hnot signed before hsends
      · rw [hfold] at hsends
        exact hnot signed before hsends
    · rintro (hnone | hall) ⟨block, hblock⟩
      · exact absurd hblock (hnone block)
      · exact absurd hall hreadable

/-! ## An orderer that cannot be reached -/

/-- An orderer that has the origin block. -/
def readyOrderer : Orderer := { endpoint := "ready:7050" }

/-- An orderer that closes its streams at once. -/
def closingOrderer : Orderer := { endpoint := "closing:7050" }

/-- An orderer that cannot be reached. -/
def downOrderer : Orderer := { endpoint := "down:7050" }

/-- A network with these orderers, and a peer that joins. -/
def originNetwork : Network
  | _, .entropy => ([9], {})
  | _, .processProposals _ _ => ⟨fun _ => .ok { response := { status := 200 } }, fun _ => 0⟩
  | _, .broadcast _ _ => ⟨[], .closed⟩
  | _, .deliverFiltered _ _ => ⟨[], .closed⟩
  | _, .deliver orderer _ =>
      if orderer = readyOrderer then ⟨[.block {}], .closed⟩
      else if orderer = closingOrderer then ⟨[], .closed⟩
      else ⟨[], .rpcError ⟨14, "unavailable"⟩⟩

/-- The keyed user joins a peer to a channel. -/
def joinWith (orderers : List Orderer) : Except Exc Unit × Unit × List Request :=
  Coro.observe originNetwork (joinChannel (wireRuntime id) keyedUser orderers ⟨"channel"⟩
    { endpoint := "peer:7051" }) () []

/-- The answers of the orderers to it. -/
def answersOf (orderers : List Orderer) : List (Except Exc (Option RawBlock)) :=
  originAnswers (wireRuntime id) originNetwork keyedUser ⟨"channel"⟩ [] orderers

/-- The first orderer gives the origin block and the second cannot be reached: the error of the
second is raised, and the peer is not asked to join. -/
theorem join_raises_despite_origin :
    let orderers := [readyOrderer, downOrderer]
    answersOf orderers = [.ok (some (RawBlock.fromProto {})),
      .error (.blockchainConnectionError 14 "unavailable")] ∧
    (joinWith orderers).1 = .error (.blockchainConnectionError 14 "unavailable") ∧
    (∀ signed peers, .processProposals signed peers ∉ (joinWith orderers).2.2) ∧
    ¬ JoinsWithAny (wireRuntime id) originNetwork keyedUser ⟨"channel"⟩ { endpoint := "peer:7051" } []
      (answersOf orderers) (joinWith orderers) := by
  have hnone : ∀ signed peers,
      .processProposals signed peers ∉ (joinWith [readyOrderer, downOrderer]).2.2 := by
    intro signed peers hmem
    obtain ⟨e₁, e₂, hsends⟩ : ∃ e₁ e₂, (joinWith [readyOrderer, downOrderer]).2.2 =
        [.entropy, .deliver readyOrderer e₁, .entropy, .deliver downOrderer e₂] := ⟨_, _, rfl⟩
    rw [hsends] at hmem
    simp at hmem
  refine ⟨by decide +kernel, by decide +kernel, hnone, fun hjoins => ?_⟩
  obtain ⟨block, between, signed, -, -, hsends, -⟩ := hjoins ⟨RawBlock.fromProto {}, by decide +kernel⟩
  refine hnone signed [{ endpoint := "peer:7051" }] ?_
  rw [hsends]
  simp

/-- The first orderer closes its stream and the second gives the block: the peer is asked to join
with it. -/
theorem joinsWithAny_iff_closing :
    JoinsWithAny (wireRuntime id) originNetwork keyedUser ⟨"channel"⟩ { endpoint := "peer:7051" } []
      (answersOf [closingOrderer, readyOrderer]) (joinWith [closingOrderer, readyOrderer]) := by
  have hread : ∀ a ∈ answersOf [closingOrderer, readyOrderer], a.toOption.isSome = true := by
    decide +kernel
  refine (joinsWithAny_iff originNetwork (wireRuntime_roundTrip id) keyedUser (List.cons_ne_nil _ _)
    ⟨"channel"⟩ { endpoint := "peer:7051" } []).mpr (.inr fun a ha => ?_)
  have hsome := hread a ha
  cases a with
  | ok found => exact ⟨found, rfl⟩
  | error e => cases hsome

end Snakeskin
