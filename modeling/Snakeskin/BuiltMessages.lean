import Snakeskin.Transact

/-! # What the builders build

One lemma for each builder of `factories.py`, saying everything about the message it returns. Later
proofs cite these lemmas and do not unfold the builders. -/

namespace Snakeskin

open Wire

variable (rt : Runtime)

/-! ## Headers and envelopes -/

/-- The signature header that `buildHeader` and `buildConfigUpdateEnvelope` make of a context. -/
def TXContext.signatureHeader (txContext : TXContext) : SignatureHeader where
  creator := rt.serializeToString txContext.identity
  nonce := txContext.nonce

variable {rt}

/-- A header carries the serialised channel header, with the type, the transaction id, the epoch,
the channel, the certificate hash and the extension it was built for, and the serialised signature
header of the context. -/
theorem buildHeader_cases {txContext : TXContext} {channel : Option Channel}
    {extension tlsCert : Option Bytes} {txType : TransactionType} {timestamp : Timestamp}
    {header : Header}
    (h : buildHeader rt txContext channel extension txType tlsCert timestamp = .ok header) :
    ∃ channelHeader : ChannelHeader,
      channelHeader.type = txType.value ∧ channelHeader.txId = txContext.txId ∧
      channelHeader.epoch = txContext.epoch ∧
      encodeProtoStr ((channel.map (·.name)).getD "") = .ok channelHeader.channelId ∧
      buildTlsCertHash rt tlsCert = .ok channelHeader.tlsCertHash ∧
      channelHeader.extension = (given extension).getD [] ∧
      header = {
        channelHeader := rt.serializeToString channelHeader
        signatureHeader := rt.serializeToString (txContext.signatureHeader rt) } := by
  obtain ⟨channelId, hname, h⟩ := bind_eq_ok.mp h
  obtain ⟨tlsCertHash, hcert, h⟩ := bind_eq_ok.mp h
  -- Once the channel name and the certificate are converted nothing can fail any more.
  cases h
  exact ⟨_, rfl, rfl, rfl, hname, hcert, rfl, rfl⟩

/-- An envelope wraps a payload made of the header of the context and the data. -/
theorem buildEnvelope_cases {requestor : User} {txContext : TXContext} {data : Bytes}
    {channel : Option Channel} {tlsCert extension : Option Bytes} {txType : TransactionType}
    {timestamp : Timestamp} {envelope : Envelope}
    (h : buildEnvelope rt requestor txContext data channel tlsCert extension txType timestamp =
      .ok envelope) :
    ∃ header, buildHeader rt txContext channel extension txType tlsCert timestamp = .ok header ∧
      envelope = wrapTransaction rt requestor { header := some header, data } := by
  obtain ⟨header, hheader, h⟩ := bind_eq_ok.mp h
  cases h
  exact ⟨header, hheader, rfl⟩

/-! ## Endorsed transactions -/

variable (rt) in
/-- The action payload of an endorsed transaction whose first response is given. -/
def EndorsedTX.actionPayload (tx : EndorsedTX) (first : ProposalResponse) :
    ChaincodeActionPayload where
  action := some {
    proposalResponsePayload := first.payload
    endorsements := tx.peerResponses.map (·.endorsement) }
  chaincodeProposalPayload := tx.proposal.payload

variable (rt) in
/-- The transaction that carries an action payload. -/
def EndorsedTX.transaction (tx : EndorsedTX) (first : ProposalResponse) : Transaction where
  actions := [{
    header := tx.header.signatureHeader
    payload := rt.serializeToString (tx.actionPayload first) }]

variable (rt) in
/-- With at least one response an endorsed transaction always gets its envelope. -/
theorem buildEndorsedTxEnvelope_of_cons {tx : EndorsedTX} {first : ProposalResponse}
    {rest : List ProposalResponse} (h : tx.peerResponses = first :: rest) (requestor : User) :
    buildEndorsedTxEnvelope rt tx requestor = .ok (wrapTransaction rt requestor {
      header := some tx.header
      data := rt.serializeToString (tx.transaction rt first) }) := by
  unfold buildEndorsedTxEnvelope EndorsedTX.transaction EndorsedTX.actionPayload
  simp only [h]
  rfl

/-- An envelope is only made of an endorsed transaction with a first response. -/
theorem buildEndorsedTxEnvelope_cases {tx : EndorsedTX} {requestor : User} {envelope : Envelope}
    (h : buildEndorsedTxEnvelope rt tx requestor = .ok envelope) :
    ∃ first rest, tx.peerResponses = first :: rest ∧
      envelope = wrapTransaction rt requestor {
        header := some tx.header
        data := rt.serializeToString (tx.transaction rt first) } := by
  cases hrs : tx.peerResponses with
  | nil =>
      unfold buildEndorsedTxEnvelope at h
      rw [hrs] at h
      cases h
  | cons first rest =>
      rw [buildEndorsedTxEnvelope_of_cons rt hrs] at h
      cases h
      exact ⟨first, rest, rfl, rfl⟩

/-! ## Generated transactions -/

/-- Entering the items of a dictionary changes the map and nothing else. -/
theorem setTransientMap_eq (payload : ChaincodeProposalPayload) (transientMap : TransientMap) :
    setTransientMap payload transientMap =
      { payload with
        transientMap := transientMap.entries.foldl (fun m item => m.insert item.1 item.2)
          payload.transientMap } := by
  unfold setTransientMap
  generalize transientMap.entries = entries
  induction entries generalizing payload with
  | nil => rfl
  | cons item entries ih =>
      rw [List.foldl_cons, ih]
      rfl

/-- Looking up a key after the items of a list of entries were entered: the entry of the list
counts. -/
theorem lookup_foldl_insert_entries (entries : List (Sigma fun _ : String => Bytes))
    (hnodup : entries.NodupKeys) (m : BytesMap) (key : String) :
    (entries.foldl (fun m item => m.insert item.1 item.2) m).lookup key =
      (entries.dlookup key).or (m.lookup key) := by
  induction entries generalizing m with
  | nil => simp
  | cons item entries ih =>
      rw [List.foldl_cons, ih hnodup.tail]
      rcases eq_or_ne key item.1 with rfl | hne
      · -- The key stands once in the list, so no later entry overwrites this one.
        have hlater : entries.dlookup item.1 = none :=
          List.dlookup_eq_none.mpr (List.nodupKeys_cons.mp hnodup).1
        rw [hlater, Finmap.lookup_insert, List.dlookup_cons_eq]
        rfl
      · rw [Finmap.lookup_insert_of_ne _ hne, List.dlookup_cons_ne _ _ hne]

/-- Entered into an empty map, the items of a dictionary make up the map of the dictionary. -/
theorem foldl_insert_entries (transientMap : TransientMap) :
    transientMap.entries.foldl (fun (m : BytesMap) item => m.insert item.1 item.2) ∅ =
      transientMap.toFinmap := by
  apply Finmap.ext_lookup
  intro key
  rw [lookup_foldl_insert_entries _ transientMap.nodupKeys, Finmap.lookup_empty,
    Finmap.lookup_toFinmap, Option.or_none, AList.lookup]

variable (rt) in
/-- The payload of an invocation, without transient data. -/
def invocationPayload (ccName : String) (args : List Bytes) : ChaincodeProposalPayload where
  input := rt.serializeToString ({
    chaincodeSpec := some {
      type := ChaincodeSpecProto.GOLANG
      chaincodeId := some { name := ccName }
      input := some { args } } } : ChaincodeInvocationSpec)

/-- The header extension of an invocation. -/
def invocationExtension (ccName : String) : ChaincodeHeaderExtension where
  chaincodeId := some { name := ccName }

variable (rt) in
/-- The proposal of an invocation with a header and a transient map. -/
def invocationProposal (header : Header) (ccName : String) (args : List Bytes)
    (transientMap : BytesMap) : Proposal where
  header := rt.serializeToString header
  payload := rt.serializeToString { invocationPayload rt ccName args with transientMap }

/-- An empty transient map is as good as none: the signed proposal is that of the map entered into
the payload. -/
theorem transientProposal_eq (header : Header) (ccName : String) (args : List Bytes)
    (transientMap : Option TransientMap) :
    (match transientMap.filter (·.entries ≠ []) with
      | some transientMap => ({
          header := rt.serializeToString header
          payload := rt.serializeToString
            (setTransientMap (invocationPayload rt ccName args) transientMap) } : Proposal)
      | none => invocationProposal rt header ccName args ∅) =
    invocationProposal rt header ccName args (transientMap.getD ∅).toFinmap := by
  cases transientMap with
  | none => rfl
  | some transientMap =>
      by_cases hentries : transientMap.entries = []
      · -- A dictionary without items is false to Python, so it is as if none were given.
        have hempty : transientMap = ∅ := AList.ext hentries
        rw [hempty]
        rfl
      · -- The items are entered into the empty map of a payload that is otherwise the same.
        rw [Option.filter_some_pos (by simpa using hentries)]
        show Proposal.mk _ _ _ = _
        rw [setTransientMap_eq]
        show Proposal.mk _ (rt.serializeToString (ChaincodeProposalPayload.mk _ _)) _ = _
        rw [show (invocationPayload rt ccName args).transientMap = ∅ from rfl, foldl_insert_entries]
        rfl

variable (rt) in
/-- The transaction that `buildGeneratedTx` makes around a header. -/
def generatedWith (requestor : User) (ccName : String) (args : List Bytes)
    (transientMap : Option TransientMap) (nonce : Bytes) (header : Header) : GeneratedTX :=
  let signed := rt.serializeToString
    (invocationProposal rt header ccName args (transientMap.getD ∅).toFinmap)
  { txContext := txContextFromUser rt requestor nonce
    proposal := invocationProposal rt header ccName args ∅
    signedProposal := { proposalBytes := signed, signature := sign requestor signed }
    header }

/-- **What `buildGeneratedTx` builds**: the header is the only part that can fail, and it does not
depend on the arguments or on the transient map. -/
theorem buildGeneratedTx_eq (requestor : User) (ccName : String) (args : List Bytes)
    (channel : Option Channel) (transientMap : Option TransientMap) (nonce : Bytes)
    (timestamp : Timestamp) :
    buildGeneratedTx rt requestor ccName args channel transientMap nonce timestamp =
      (buildHeader rt (txContextFromUser rt requestor nonce) channel
        (some (rt.serializeToString (invocationExtension ccName))) .endorserTransaction none
        timestamp).map (generatedWith rt requestor ccName args transientMap nonce) := by
  show (buildHeader rt (txContextFromUser rt requestor nonce) channel
    (some (rt.serializeToString (invocationExtension ccName))) .endorserTransaction none
    timestamp >>= fun header => Except.ok _) = _
  cases buildHeader rt (txContextFromUser rt requestor nonce) channel
      (some (rt.serializeToString (invocationExtension ccName))) .endorserTransaction none
      timestamp with
  | error e => rfl
  | ok header =>
      -- Everything after the header is a function of it; only the signed proposal has the map in it.
      show Except.ok _ = Except.ok _
      rw [generatedWith, ← transientProposal_eq]
      rfl

/-- A generated transaction is made around the header built for its context. -/
theorem buildGeneratedTx_cases {requestor : User} {ccName : String} {args : List Bytes}
    {channel : Option Channel} {transientMap : Option TransientMap} {nonce : Bytes}
    {timestamp : Timestamp} {tx : GeneratedTX}
    (h : buildGeneratedTx rt requestor ccName args channel transientMap nonce timestamp = .ok tx) :
    ∃ header,
      buildHeader rt (txContextFromUser rt requestor nonce) channel
        (some (rt.serializeToString (invocationExtension ccName))) .endorserTransaction none
        timestamp = .ok header ∧
      tx = generatedWith rt requestor ccName args transientMap nonce header := by
  rw [buildGeneratedTx_eq] at h
  cases hheader : buildHeader rt (txContextFromUser rt requestor nonce) channel
      (some (rt.serializeToString (invocationExtension ccName))) .endorserTransaction none
      timestamp with
  | error e =>
      rw [hheader] at h
      cases h
  | ok header =>
      rw [hheader] at h
      cases h
      exact ⟨header, rfl, rfl⟩

end Snakeskin
