import Snakeskin.Library.TextEncoding
import Snakeskin.TransientData

/-! # The caller's text on the wire

A channel name goes through Latin-1 and back through UTF-8, and a function name and its arguments
stop after Latin-1, while a reader takes every text on the wire for UTF-8. This file says what each
of the helpers does to a text, what `generateCcTx` then puts on the wire, and for which calls that
is the text the caller gave. -/

namespace Snakeskin

open Wire

/-! ## The helpers -/

/-- Latin-1 writes the code points of a text, and refuses a text with a code point that is too
large. -/
theorem encodeProtoBytes_eq_ok (val : String) (bytes : Bytes) :
    encodeProtoBytes val = .ok bytes ↔ IsLatin1 val ∧ codePoints val = bytes := by
  refine mapM_eq_ok_iff fun c byte => ?_
  split
  · next hc => simp [hc]
  · next hc => simp [hc]

/-- A proto string is the text whose UTF-8 bytes are the code points of the text given. -/
theorem encodeProtoStr_eq_ok {val s : String} :
    encodeProtoStr val = .ok s ↔ IsLatin1 val ∧ encodeString s = codePoints val := by
  rw [encodeProtoStr, bind_eq_ok]
  constructor
  · rintro ⟨bytes, hbytes, hs⟩
    obtain ⟨hlatin1, rfl⟩ := (encodeProtoBytes_eq_ok _ _).mp hbytes
    refine ⟨hlatin1, decodeString_eq_some_iff.mp ?_⟩
    unfold decodeUtf8 at hs
    split at hs
    · next heq => exact Except.ok.inj hs ▸ heq
    · cases hs
  · rintro ⟨hlatin1, hs⟩
    refine ⟨codePoints val, (encodeProtoBytes_eq_ok _ _).mpr ⟨hlatin1, rfl⟩, ?_⟩
    rw [decodeUtf8, decodeString_eq_some_iff.mpr hs]

/-- A proto string is the text given exactly for ASCII texts. -/
theorem encodeProtoStr_eq_self_iff {val : String} : encodeProtoStr val = .ok val ↔ IsAscii val := by
  rw [encodeProtoStr_eq_ok, encodeString_eq_codePoints_iff]
  exact ⟨fun h => h.2, fun h => ⟨h.isLatin1, h⟩⟩

/-- Code points are read back as the texts they came from exactly for ASCII texts. -/
theorem mapM_decodeString_codePoints {texts : List String} :
    (texts.map codePoints).mapM decodeString = some texts ↔ ∀ s ∈ texts, IsAscii s := by
  induction texts with
  | nil => simp
  | cons s texts ih =>
      have hs : decodeString (codePoints s) = some s ↔ IsAscii s := by
        rw [decodeString_eq_some_iff, encodeString_eq_codePoints_iff]
      rw [List.map_cons, List.mapM_cons, List.forall_mem_cons, ← hs, ← ih]
      cases decodeString (codePoints s) with
      | none => simp
      | some t => cases (texts.map codePoints).mapM decodeString <;> simp

/-! ## Reading the wire -/

variable (rt : Runtime)

/-- The channel that a header names: the `channel_id` of its channel header. -/
def Header.channelId (header : Header) : Option String := do
  let channelHeader ← rt.fromString ChannelHeader header.channelHeader
  return channelHeader.channelId

/-- The channel that a proposal names. -/
def Proposal.channelId (proposal : Proposal) : Option String := do
  let header ← rt.fromString Header proposal.header
  header.channelId rt

/-- The byte arguments in the `ChaincodeInput` of a proposal. -/
def Proposal.inputArgs (proposal : Proposal) : Option (List Bytes) := do
  let payload ← rt.fromString ChaincodeProposalPayload proposal.payload
  let invocation ← rt.fromString ChaincodeInvocationSpec payload.input
  let spec ← invocation.chaincodeSpec
  let input ← spec.input
  return input.args

/-- The arguments of a proposal read as UTF-8. -/
def Proposal.inputTexts (proposal : Proposal) : Option (List String) := do
  let args ← proposal.inputArgs rt
  args.mapM decodeString

/-- A proposal carries a channel name and the texts of a call. -/
def Proposal.Carries (name : String) (texts : List String) (proposal : Proposal) : Prop :=
  proposal.channelId rt = some name ∧ proposal.inputTexts rt = some texts

/-- The texts of a call: the function name and the arguments. -/
def callTexts (fcn : String) (args : Option (List String)) : List String := fcn :: args.getD []

/-- The caller's text is not altered: whenever `generateCcTx` returns a transaction, its header
names the channel of the call, and its proposals, the signed one included, carry the name of the
channel and the texts of the call. Text that cannot be carried is refused, since nothing else is
returned. -/
def TextUnaltered (network : Network) (w : World Unit) (requestor : User) (ccName : String)
    (channel : Channel) (fcn : String) (args : Option (List String))
    (transientMap : Option TransientMap) : Prop :=
  ∀ tx, (Coro.run network
      (generateCcTx rt requestor ccName channel fcn args transientMap) w).1 = .ok tx →
    tx.header.channelId rt = some channel.name ∧
    tx.proposal.Carries rt channel.name (callTexts fcn args) ∧
    ∃ signed, tx.signedProposal.proposal rt = some signed ∧
      signed.Carries rt channel.name (callTexts fcn args)

/-- A call is refused for its text: some text of it is not in Latin-1, or the code points of the
channel name, taken as bytes, are not valid UTF-8. -/
def RefusedText (name : String) (texts : List String) : Prop :=
  (∃ s ∈ name :: texts, ¬ IsLatin1 s) ∨ decodeString (codePoints name) = none

variable {rt}

/-! ## What is put on the wire -/

/-- The header built for a channel names what `encodeProtoStr` makes of the name. -/
theorem channelId_of_buildHeader (hrt : rt.RoundTrip) {txContext : TXContext} {channel : Channel}
    {extension tlsCert : Option Bytes} {txType : TransactionType} {timestamp : Timestamp}
    {header : Header}
    (h : buildHeader rt txContext (some channel) extension txType tlsCert timestamp = .ok header) :
    ∃ channelId, encodeProtoStr channel.name = .ok channelId ∧
      header.channelId rt = some channelId := by
  obtain ⟨channelHeader, -, -, -, hname, -, -, rfl⟩ := buildHeader_cases h
  refine ⟨channelHeader.channelId, hname, ?_⟩
  rw [Header.channelId, hrt]
  rfl

/-- An invocation proposal names the channel of its header and carries the arguments. -/
theorem reads_invocationProposal (hrt : rt.RoundTrip) (header : Header) (ccName : String)
    (args : List Bytes) (transientMap : BytesMap) :
    (invocationProposal rt header ccName args transientMap).channelId rt = header.channelId rt ∧
      (invocationProposal rt header ccName args transientMap).inputArgs rt = some args := by
  constructor
  · rw [Proposal.channelId, invocationProposal, hrt]
    rfl
  · rw [Proposal.inputArgs, invocationProposal, hrt]
    show (rt.fromString ChaincodeInvocationSpec (rt.serializeToString _) >>= _) = _
    rw [hrt]
    rfl

section Calls

variable {network : Network} {w : World Unit} {requestor : User} {ccName : String} {channel : Channel}
  {fcn : String} {args : Option (List String)} {transientMap : Option TransientMap}

/-- A run of `generateCcTx` encodes the texts, draws a nonce and the time, and builds the
transaction. -/
theorem run_generateCcTx_eq_ok {tx : GeneratedTX} :
    (Coro.run network (generateCcTx rt requestor ccName channel fcn args transientMap) w).1 = .ok tx ↔
      (∀ s ∈ callTexts fcn args, IsLatin1 s) ∧
      ∃ nonce timestamp, network (Coro.requests w.trace) .entropy = (nonce, timestamp) ∧
        buildGeneratedTx rt requestor ccName ((callTexts fcn args).map codePoints) (some channel)
          transientMap nonce timestamp = .ok tx := by
  obtain ⟨nonce, timestamp, hdrawn⟩ : ∃ nonce timestamp,
      network (Coro.requests w.trace) .entropy = (nonce, timestamp) := ⟨_, _, rfl⟩
  have hrun : (Coro.run network
      (generateCcTx rt requestor ccName channel fcn args transientMap) w).1 =
      (callTexts fcn args).mapM encodeProtoBytes >>= fun fullArgs =>
        buildGeneratedTx rt requestor ccName fullArgs (some channel) transientMap nonce timestamp := by
    rw [generateCcTx, Coro.bind_eq, Coro.run_bind, Coro.run_ofExcept, callTexts]
    cases (fcn :: args.getD []).mapM encodeProtoBytes with
    | error e => rfl
    | ok fullArgs =>
        -- The answer to the request is what was drawn, and the rest is a computation without effects.
        have hbuild : ∀ drawn : Bytes × Timestamp, drawn = (nonce, timestamp) →
            (Coro.run network (Coro.ofExcept (buildGeneratedTx rt requestor ccName fullArgs
              (some channel) transientMap drawn.1 drawn.2) : Async Unit GeneratedTX)
              (w.record (.inl .entropy))).1 =
            buildGeneratedTx rt requestor ccName fullArgs (some channel) transientMap nonce
              timestamp := by
          rintro _ rfl
          rw [Coro.run_ofExcept]
        exact hbuild _ hdrawn
  rw [hrun, bind_eq_ok]
  constructor
  · rintro ⟨fullArgs, hargs, htx⟩
    obtain ⟨hlatin1, rfl⟩ := (mapM_eq_ok_iff encodeProtoBytes_eq_ok).mp hargs
    exact ⟨hlatin1, nonce, timestamp, hdrawn, htx⟩
  · rintro ⟨hlatin1, nonce', timestamp', hdrawn', htx⟩
    rw [hdrawn] at hdrawn'
    cases hdrawn'
    exact ⟨_, (mapM_eq_ok_iff encodeProtoBytes_eq_ok).mpr ⟨hlatin1, rfl⟩, htx⟩

/-- **What a returned transaction carries**: the channel name as `encodeProtoStr` makes it, in the
header and in both proposals, and the code points of the texts in both proposals. -/
theorem carried_of_generateCcTx (hrt : rt.RoundTrip) {tx : GeneratedTX}
    (h : (Coro.run network
      (generateCcTx rt requestor ccName channel fcn args transientMap) w).1 = .ok tx) :
    ∃ channelId signed, encodeProtoStr channel.name = .ok channelId ∧
      tx.signedProposal.proposal rt = some signed ∧ tx.header.channelId rt = some channelId ∧
      ∀ proposal ∈ [tx.proposal, signed], proposal.channelId rt = some channelId ∧
        proposal.inputArgs rt = some ((callTexts fcn args).map codePoints) := by
  obtain ⟨-, nonce, timestamp, -, htx⟩ := run_generateCcTx_eq_ok.mp h
  obtain ⟨header, hheader, rfl⟩ := buildGeneratedTx_cases htx
  obtain ⟨channelId, hname, hid⟩ := channelId_of_buildHeader hrt hheader
  refine ⟨channelId, _, hname, proposal_generatedWith hrt _ _ _ _ _ _, hid, ?_⟩
  have hreads := reads_invocationProposal hrt header ccName ((callTexts fcn args).map codePoints)
  intro proposal hproposal
  rcases List.mem_pair.mp hproposal with rfl | rfl
  · exact ⟨(hreads ∅).1.trans hid, (hreads ∅).2⟩
  · exact ⟨(hreads _).1.trans hid, (hreads _).2⟩

/-- A transaction is built for a channel whose name `encodeProtoStr` converts. -/
theorem exists_buildGeneratedTx_iff {texts : List Bytes} {nonce : Bytes} {timestamp : Timestamp} :
    (∃ tx, buildGeneratedTx rt requestor ccName texts (some channel) transientMap nonce timestamp =
      .ok tx) ↔ ∃ channelId, encodeProtoStr channel.name = .ok channelId := by
  constructor
  · rintro ⟨tx, htx⟩
    obtain ⟨header, hheader, -⟩ := buildGeneratedTx_cases htx
    obtain ⟨channelHeader, -, -, -, hname, -⟩ := buildHeader_cases hheader
    exact ⟨_, hname⟩
  · rintro ⟨channelId, hname⟩
    have hheader : ∃ header, buildHeader rt (txContextFromUser rt requestor nonce) (some channel)
        (some (rt.serializeToString (invocationExtension ccName))) .endorserTransaction none
        timestamp = .ok header :=
      ⟨_, bind_eq_ok.mpr ⟨channelId, hname, rfl⟩⟩
    obtain ⟨header, hheader⟩ := hheader
    rw [buildGeneratedTx_eq, hheader]
    exact ⟨_, rfl⟩

/-- **A call is refused exactly for its text**: for a text that is not in Latin-1, or for a channel
name whose code points are not UTF-8. -/
theorem generateCcTx_returns_iff :
    (∃ tx, (Coro.run network
      (generateCcTx rt requestor ccName channel fcn args transientMap) w).1 = .ok tx) ↔
      ¬ RefusedText channel.name (callTexts fcn args) := by
  obtain ⟨nonce, timestamp, hdrawn⟩ : ∃ nonce timestamp,
      network (Coro.requests w.trace) .entropy = (nonce, timestamp) := ⟨_, _, rfl⟩
  constructor
  · rintro ⟨tx, h⟩
    obtain ⟨hlatin1, nonce', timestamp', -, htx⟩ := run_generateCcTx_eq_ok.mp h
    obtain ⟨channelId, hname⟩ := exists_buildGeneratedTx_iff.mp ⟨tx, htx⟩
    obtain ⟨hchannel, hutf8⟩ := encodeProtoStr_eq_ok.mp hname
    rintro (⟨s, hs, hrefused⟩ | hrefused)
    · exact hrefused (List.forall_mem_cons.mpr ⟨hchannel, hlatin1⟩ s hs)
    · rw [decodeString_eq_some_iff.mpr hutf8] at hrefused
      cases hrefused
  · intro h
    obtain ⟨hlatin1, hutf8⟩ := not_or.mp h
    have hall : ∀ s ∈ channel.name :: callTexts fcn args, IsLatin1 s := by
      intro s hs
      by_contra hnot
      exact hlatin1 ⟨s, hs, hnot⟩
    obtain ⟨channelId, hchannelId⟩ := Option.ne_none_iff_exists'.mp hutf8
    have hname : encodeProtoStr channel.name = .ok channelId :=
      encodeProtoStr_eq_ok.mpr ⟨hall _ List.mem_cons_self, decodeString_eq_some_iff.mp hchannelId⟩
    obtain ⟨tx, htx⟩ := exists_buildGeneratedTx_iff.mpr ⟨channelId, hname⟩
    exact ⟨tx, run_generateCcTx_eq_ok.mpr
      ⟨(List.forall_mem_cons.mp hall).2, nonce, timestamp, hdrawn, htx⟩⟩

/-- **The caller's text is not altered exactly for ASCII calls and for refused ones.** -/
theorem textUnaltered_iff (hrt : rt.RoundTrip) (network : Network) (w : World Unit) (requestor : User)
    (ccName : String) (channel : Channel) (fcn : String) (args : Option (List String))
    (transientMap : Option TransientMap) :
    TextUnaltered rt network w requestor ccName channel fcn args transientMap ↔
      (∀ s ∈ channel.name :: callTexts fcn args, IsAscii s) ∨
        RefusedText channel.name (callTexts fcn args) := by
  constructor
  · intro h
    by_cases hrefused : RefusedText channel.name (callTexts fcn args)
    · exact .inr hrefused
    · -- The call returns, so what it carries is both what the helpers make and the caller's text.
      obtain ⟨tx, htx⟩ := generateCcTx_returns_iff.mpr hrefused
      obtain ⟨channelId, signed, hname, -, hid, hreads⟩ := carried_of_generateCcTx hrt htx
      obtain ⟨hgiven, ⟨-, htexts⟩, -⟩ := h tx htx
      rw [hid, Option.some.injEq] at hgiven
      rw [Proposal.inputTexts, (hreads _ List.mem_cons_self).2] at htexts
      rw [hgiven] at hname
      exact .inl (List.forall_mem_cons.mpr
        ⟨encodeProtoStr_eq_self_iff.mp hname, mapM_decodeString_codePoints.mp htexts⟩)
  · rintro (hascii | hrefused) tx htx
    · obtain ⟨hchannel, htexts⟩ := List.forall_mem_cons.mp hascii
      obtain ⟨channelId, signed, hname, hsigned, hid, hreads⟩ := carried_of_generateCcTx hrt htx
      rw [encodeProtoStr_eq_self_iff.mpr hchannel, Except.ok.injEq] at hname
      have hcarries : ∀ proposal ∈ [tx.proposal, signed],
          proposal.Carries rt channel.name (callTexts fcn args) := by
        intro proposal hproposal
        obtain ⟨hchannelId, hinput⟩ := hreads proposal hproposal
        refine ⟨hname ▸ hchannelId, ?_⟩
        rw [Proposal.inputTexts, hinput]
        exact mapM_decodeString_codePoints.mpr htexts
      exact ⟨hname ▸ hid, hcarries _ List.mem_cons_self, signed, hsigned,
        hcarries _ (List.mem_cons_of_mem _ List.mem_cons_self)⟩
    · exact absurd hrefused (generateCcTx_returns_iff.mp ⟨tx, htx⟩)

end Calls

/-- A network that answers every request in the plainest way. -/
def plainNetwork : Network
  | _, .entropy => ([9], {})
  | _, .processProposals _ _ => ⟨fun _ => .ok {}, fun _ => 0⟩
  | _, .broadcast _ _ => ⟨[], .closed⟩
  | _, .deliverFiltered _ _ => ⟨[], .closed⟩
  | _, .deliver _ _ => ⟨[], .closed⟩

/-- An ASCII call returns a transaction, and what it returns is not altered. -/
theorem textUnaltered_iff_ascii :
    (∃ tx, (Coro.run plainNetwork (generateCcTx (wireRuntime id) keyedUser "cc" ⟨"channel"⟩ "set"
        (some ["key", "value"]) none) ⟨(), []⟩).1 = .ok tx) ∧
      TextUnaltered (wireRuntime id) plainNetwork ⟨(), []⟩ keyedUser "cc" ⟨"channel"⟩ "set"
        (some ["key", "value"]) none :=
  ⟨⟨_, rfl⟩, (textUnaltered_iff (wireRuntime_roundTrip id) plainNetwork ⟨(), []⟩ keyedUser "cc"
    ⟨"channel"⟩ "set" (some ["key", "value"]) none).mpr (.inl (by simp [callTexts, IsAscii]))⟩

/-- A channel name of two Latin-1 letters becomes another name of one letter, and an argument that
is one such letter becomes a byte that is no UTF-8. -/
theorem latin1_text_altered :
    ∃ tx, (Coro.run plainNetwork (generateCcTx (wireRuntime id) keyedUser "cc" ⟨"Ã©"⟩ "set"
        (some ["é"]) none) ⟨(), []⟩).1 = .ok tx ∧
      tx.header.channelId (wireRuntime id) = some "é" ∧
      tx.proposal.inputArgs (wireRuntime id) = some [[115, 101, 116], [233]] ∧
      ¬ TextUnaltered (wireRuntime id) plainNetwork ⟨(), []⟩ keyedUser "cc" ⟨"Ã©"⟩ "set"
        (some ["é"]) none := by
  refine ⟨_, rfl, by decide +kernel, by decide +kernel, ?_⟩
  intro h
  obtain ⟨hname, -⟩ := h _ rfl
  exact absurd hname (by decide +kernel)

end Snakeskin
