import Snakeskin.Decoded

/-! # Blocks round trip

A decoded block is serialised from the inside out, level by level, into a raw block, and the decoder
reads back what was serialised. There is one encoder and one lemma for each decoder. -/

namespace Snakeskin

open Wire

variable (rt : Runtime)

/-! ## Encoders -/

/-- The bytes of a signature header. -/
def DecodedSignatureHeader.encode (header : DecodedSignatureHeader) : Bytes :=
  rt.serializeToString ({
    creator := rt.serializeToString header.creator
    nonce := header.nonce } : SignatureHeader)

/-- The protobuf of a header. -/
def DecodedHeader.encode (header : DecodedHeader) : Header where
  channelHeader := rt.serializeToString header.channelHeader
  signatureHeader := header.signatureHeader.encode rt

/-- The protobuf of a config signature. -/
def DecodedConfigUpdateSignature.encode (s : DecodedConfigUpdateSignature) : ConfigSignature where
  signatureHeader := s.signatureHeader.encode rt
  signature := s.signature

/-- The bytes of a config update envelope. -/
def DecodedConfigUpdateEnvelope.encode (envelope : DecodedConfigUpdateEnvelope) : Bytes :=
  rt.serializeToString ({
    configUpdate := rt.serializeToString envelope.configUpdate
    signatures := envelope.signatures.map (·.encode rt) } : ConfigUpdateEnvelope)

/-- The bytes of a config, in an envelope with its last update. -/
def DecodedConfig.encode (config : DecodedConfig) : Bytes :=
  let payload : Payload := {
    header := some (config.lastUpdate.payload.header.encode rt)
    data := config.lastUpdate.payload.data.encode rt }
  rt.serializeToString ({
    config := some config.config
    lastUpdate := some {
      payload := rt.serializeToString payload
      signature := config.lastUpdate.signature } } : ConfigEnvelope)

/-- The protobuf of an endorsement. -/
def DecodedEndorsement.encode (e : DecodedEndorsement) : Endorsement where
  endorser := rt.serializeToString e.endorser
  signature := e.signature

/-- The protobuf of a transaction action. -/
def DecodedTransactionAction.encode (action : DecodedTransactionAction) : TransactionAction where
  header := action.header.encode rt
  payload := rt.serializeToString ({
    chaincodeProposalPayload := rt.serializeToString action.payload.chaincodeProposalPayload
    action := some {
      proposalResponsePayload := rt.serializeToString action.payload.action.proposalResponsePayload
      endorsements := action.payload.action.endorsements.map (·.encode rt) } } :
    ChaincodeActionPayload)

/-- The bytes of a transaction. -/
def DecodedTransactionBody.encode (body : DecodedTransactionBody) : Bytes :=
  rt.serializeToString ({ actions := body.actions.map (·.encode rt) } : Transaction)

/-- The bytes of payload data. -/
def DecodedPayloadData.encode : DecodedPayloadData → Bytes
  | .config c => c.encode rt
  | .configUpdate envelope => envelope.encode rt
  | .transaction body => body.encode rt
  | .bytes data => data

/-- The bytes of a transaction in its envelope. -/
def DecodedTX.encode (tx : DecodedTX) : Bytes :=
  let payload : Payload := {
    header := some (tx.payload.header.encode rt)
    data := tx.payload.data.encode rt }
  rt.serializeToString ({
    payload := rt.serializeToString payload
    signature := tx.signature } : Envelope)

/-- The protobuf of a signature of the block metadata. -/
def DecodedMetadataSignature.encode (s : DecodedMetadataSignature) : MetadataSignature where
  signatureHeader := s.signatureHeader.encode rt
  signature := s.signatures

/-- The slots of the block metadata: the three that are decoded, and those after them. -/
def DecodedBlockMetadata.encode (blockMetadata : DecodedBlockMetadata) (further : List Bytes) :
    List Bytes :=
  let signatures : Metadata := {
    value := blockMetadata.signatures.value
    signatures := blockMetadata.signatures.signatures.map (·.encode rt) }
  let lastConfig : Metadata := {
    value := rt.serializeToString blockMetadata.lastConfig.value
    signatures := blockMetadata.lastConfig.signatures.map (·.encode rt) }
  rt.serializeToString signatures :: rt.serializeToString lastConfig ::
    blockMetadata.transactionsFilter :: further

/-! ## Structured blocks -/

/-- Payload data of the kind that the decoder makes for a type. -/
def DecodedPayloadData.IsOf : TransactionType → DecodedPayloadData → Prop
  | .config, data => ∃ c, data = .config c
  | .configUpdate, data => ∃ envelope, data = .configUpdate envelope
  | .endorserTransaction, data => ∃ body, data = .transaction body
  | _, data => ∃ raw, data = .bytes raw

/-- A transaction of a declared type, with the payload data of that type. -/
def DecodedTX.WellTyped (tx : DecodedTX) : Prop :=
  ∃ type : TransactionType, tx.payload.header.channelHeader.type = type.value ∧
    tx.payload.data.IsOf type

/-- A structured block: its transactions are well typed, and its metadata has the three slots that
are decoded and any number of further ones. -/
structure StructuredBlock where
  block : DecodedBlock
  furtherSlots : List Bytes
  wellTyped : ∀ tx ∈ block.transactions, tx.WellTyped

/-- The raw block of a structured block. -/
def StructuredBlock.encode (b : StructuredBlock) : RawBlock where
  header := b.block.header
  data := { data := b.block.transactions.map (·.encode rt) }
  metadata := { metadata := b.block.metadata.encode rt b.furtherSlots }

/-! ## Each decoder undoes its encoder -/

variable {rt}

/-- What was serialised parses. -/
theorem parse_serializeToString (hrt : rt.RoundTrip) {α : Type} [MessageCodec α] (m : α) :
    rt.parse α (rt.serializeToString m) = .ok m := by
  rw [Runtime.parse, hrt]

/-- Signature headers round trip. -/
theorem DecodedSignatureHeader.decode_encode (hrt : rt.RoundTrip) (header : DecodedSignatureHeader) :
    decode rt (header.encode rt) = .ok header := by
  rw [decode, encode, parse_serializeToString hrt, ok_bind, parse_serializeToString hrt, ok_bind]
  rfl

/-- Headers round trip. -/
theorem DecodedHeader.decode_encode (hrt : rt.RoundTrip) (header : DecodedHeader) :
    decode rt (header.encode rt) = .ok header := by
  rw [decode, encode, parse_serializeToString hrt, ok_bind,
    DecodedSignatureHeader.decode_encode hrt, ok_bind]
  rfl

/-- Config signatures round trip. -/
theorem DecodedConfigUpdateSignature.decode_encode (hrt : rt.RoundTrip)
    (s : DecodedConfigUpdateSignature) : decode rt (s.encode rt) = .ok s := by
  rw [decode, encode, DecodedSignatureHeader.decode_encode hrt, ok_bind]
  rfl

/-- Config update envelopes round trip. -/
theorem DecodedConfigUpdateEnvelope.decode_encode (hrt : rt.RoundTrip)
    (envelope : DecodedConfigUpdateEnvelope) : decode rt (envelope.encode rt) = .ok envelope := by
  have hsignatures := mapM_map_eq_ok fun s (_ : s ∈ envelope.signatures) =>
    DecodedConfigUpdateSignature.decode_encode hrt s
  rw [decode, encode, parse_serializeToString hrt, ok_bind, parse_serializeToString hrt, ok_bind,
    hsignatures, ok_bind]
  rfl

/-- Configs round trip. -/
theorem DecodedConfig.decode_encode (hrt : rt.RoundTrip) (config : DecodedConfig) :
    decode rt (config.encode rt) = .ok config := by
  rw [decode, encode, parse_serializeToString hrt, ok_bind]
  dsimp only [Option.getD_some]
  rw [parse_serializeToString hrt, ok_bind]
  dsimp only [Option.getD_some]
  rw [DecodedHeader.decode_encode hrt, ok_bind, DecodedConfigUpdateEnvelope.decode_encode hrt, ok_bind]
  rfl

/-- Endorsements round trip. -/
theorem DecodedEndorsement.decode_encode (hrt : rt.RoundTrip) (e : DecodedEndorsement) :
    decode rt (e.encode rt) = .ok e := by
  rw [decode, encode, parse_serializeToString hrt, ok_bind]
  rfl

/-- Transaction actions round trip. -/
theorem DecodedTransactionAction.decode_encode (hrt : rt.RoundTrip)
    (action : DecodedTransactionAction) : decode rt (action.encode rt) = .ok action := by
  have hendorsements := mapM_map_eq_ok
    fun e (_ : e ∈ action.payload.action.endorsements) => DecodedEndorsement.decode_encode hrt e
  rw [decode, encode, parse_serializeToString hrt, ok_bind, DecodedSignatureHeader.decode_encode hrt,
    ok_bind]
  dsimp only [Option.getD_some]
  rw [parse_serializeToString hrt, ok_bind, hendorsements, ok_bind, parse_serializeToString hrt,
    ok_bind]
  rfl

/-- Transactions round trip. -/
theorem DecodedTransactionBody.decode_encode (hrt : rt.RoundTrip) (body : DecodedTransactionBody) :
    decode rt (body.encode rt) = .ok body := by
  have hactions := mapM_map_eq_ok fun action (_ : action ∈ body.actions) =>
    DecodedTransactionAction.decode_encode hrt action
  rw [decode, encode, parse_serializeToString hrt, ok_bind, hactions, ok_bind]
  rfl

/-- Payload data of the kind of a type round trip under that type. -/
theorem DecodedPayloadData.decode_encode (hrt : rt.RoundTrip) {type : TransactionType}
    {data : DecodedPayloadData} (h : data.IsOf type) : decode rt type (data.encode rt) = .ok data := by
  cases type with
  | config =>
      obtain ⟨c, rfl⟩ := h
      rw [decode, encode, DecodedConfig.decode_encode hrt, ok_bind]
      rfl
  | configUpdate =>
      obtain ⟨envelope, rfl⟩ := h
      rw [decode, encode, DecodedConfigUpdateEnvelope.decode_encode hrt, ok_bind]
      rfl
  | endorserTransaction =>
      obtain ⟨body, rfl⟩ := h
      rw [decode, encode, DecodedTransactionBody.decode_encode hrt, ok_bind]
      rfl
  | message | ordererTransaction | deliverSeekInfo | chaincodePackage | peerAdminOperation
  | tokenTransaction =>
      -- The data of every other type are left as they are.
      obtain ⟨raw, rfl⟩ := h
      rfl

/-- Well-typed transactions round trip. -/
theorem DecodedTX.decode_encode (hrt : rt.RoundTrip) {tx : DecodedTX} (h : tx.WellTyped) :
    decode rt (tx.encode rt) = .ok tx := by
  obtain ⟨type, htype, hdata⟩ := h
  have hvalue : TransactionType.ofValue tx.payload.header.channelHeader.type = .ok type := by
    rw [htype, TransactionType.ofValue_value]
  rw [decode, encode, parse_serializeToString hrt, ok_bind, parse_serializeToString hrt, ok_bind]
  dsimp only [Option.getD_some]
  rw [DecodedHeader.decode_encode hrt, ok_bind, hvalue, ok_bind,
    DecodedPayloadData.decode_encode hrt hdata, ok_bind]
  rfl

/-- Metadata signatures round trip. -/
theorem DecodedMetadataSignature.decode_encode (hrt : rt.RoundTrip) (s : DecodedMetadataSignature) :
    decode rt (s.encode rt) = .ok s := by
  rw [decode, encode, DecodedSignatureHeader.decode_encode hrt, ok_bind]
  rfl

/-- The metadata round trip, whatever the further slots hold. -/
theorem DecodedBlockMetadata.decode_encode (hrt : rt.RoundTrip) (blockMetadata : DecodedBlockMetadata)
    (further : List Bytes) : decode rt (blockMetadata.encode rt further) = .ok blockMetadata := by
  have hsignatures := mapM_map_eq_ok fun s (_ : s ∈ blockMetadata.signatures.signatures) =>
    DecodedMetadataSignature.decode_encode hrt s
  have hlastConfig := mapM_map_eq_ok fun s (_ : s ∈ blockMetadata.lastConfig.signatures) =>
    DecodedMetadataSignature.decode_encode hrt s
  -- Each slot is read at its own index.
  have hslots : ∀ a b c : Bytes, itemAt (a :: b :: c :: further) SIGNATURES = .ok a ∧
      itemAt (a :: b :: c :: further) LAST_CONFIG = .ok b ∧
      itemAt (a :: b :: c :: further) TRANSACTIONS_FILTER = .ok c :=
    fun a b c => ⟨rfl, rfl, rfl⟩
  rw [decode, encode, (hslots _ _ _).2.1, ok_bind, parse_serializeToString hrt, ok_bind,
    parse_serializeToString hrt, ok_bind, (hslots _ _ _).1, ok_bind, parse_serializeToString hrt,
    ok_bind, hsignatures, ok_bind, hlastConfig, ok_bind, (hslots _ _ _).2.2, ok_bind]
  rfl

/-- **The block decoder undoes the encoding of the whole format.** -/
theorem decode_encode_block (hrt : rt.RoundTrip) (b : StructuredBlock) :
    DecodedBlock.decode rt (b.encode rt) = .ok b.block := by
  have htransactions := mapM_map_eq_ok fun tx (htx : tx ∈ b.block.transactions) =>
    DecodedTX.decode_encode hrt (b.wellTyped tx htx)
  rw [DecodedBlock.decode, StructuredBlock.encode, htransactions, ok_bind,
    DecodedBlockMetadata.decode_encode hrt, ok_bind]
  rfl

/-- A block with a config, a transaction of one action with two endorsements, and an opaque message;
its metadata has a fourth slot. -/
def mixedBlock : StructuredBlock where
  block :=
    let signatureHeader : DecodedSignatureHeader := ⟨{ mspid := "Org1MSP", idBytes := [1] }, [9]⟩
    let header (type : TransactionType) (txId : String) : DecodedHeader :=
      ⟨{ type := type.value, txId }, signatureHeader⟩
    let group : ConfigGroup := { version := 1, groups := [("Application", { modPolicy := "Admins" })] }
    let lastUpdate : DecodedConfigLastUpdateEnvelope := {
      payload := {
        header := header .configUpdate ""
        data := {
          configUpdate := { channelId := "channel", writeSet := some group }
          signatures := [⟨signatureHeader, [7]⟩] } }
      signature := [8] }
    let action : DecodedTransactionAction := {
      header := signatureHeader
      payload := {
        action := {
          proposalResponsePayload := { proposalHash := [2] }
          endorsements := [⟨{ mspid := "Org1MSP" }, [3]⟩, ⟨{ mspid := "Org2MSP" }, [4]⟩] }
        chaincodeProposalPayload := { input := [5] } } }
    { header := { number := 4 }
      data := [
        ⟨[10], header .config "a", .config ⟨{ sequence := 2, channelGroup := some group }, lastUpdate⟩⟩,
        ⟨[11], header .endorserTransaction "b", .transaction ⟨[action]⟩⟩,
        ⟨[12], header .message "c", .bytes [13]⟩]
      metadata := {
        signatures := ⟨[⟨[14], signatureHeader⟩], [15]⟩
        lastConfig := ⟨[⟨[16], signatureHeader⟩], { index := 3 }⟩
        transactionsFilter := [0, 254, 0] } }
  furtherSlots := [[17]]
  wellTyped tx htx := by
    simp only [DecodedBlock.transactions, List.mem_cons, List.not_mem_nil, or_false] at htx
    rcases htx with rfl | rfl | rfl
    · exact ⟨.config, rfl, _, rfl⟩
    · exact ⟨.endorserTransaction, rfl, _, rfl⟩
    · exact ⟨.message, rfl, _, rfl⟩

/-- It round trips over the wire format. -/
theorem decode_encode_mixedBlock :
    DecodedBlock.decode (wireRuntime id) (mixedBlock.encode (wireRuntime id)) = .ok mixedBlock.block ∧
      mixedBlock.block.transactions.map (·.txId) = ["a", "b", "c"] :=
  ⟨decode_encode_block (wireRuntime_roundTrip id) mixedBlock, rfl⟩

end Snakeskin
