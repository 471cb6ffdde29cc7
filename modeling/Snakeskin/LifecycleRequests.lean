import Snakeskin.InstantiatedChaincode
import Snakeskin.ReproduciblePackages

/-! # Requests to the system chaincodes

Installing a chaincode and asking for those that are there are proposals to `lscc` that are not
committed. This file says when they return, for every network: what the peers must have answered,
and what a peer reads of an installation. -/

namespace Snakeskin

open Wire

variable (rt : Runtime) (network : Network)

/-! ## Proposals that are checked -/

/-- **A generated proposal and its check** return when every peer endorses. -/
theorem observe_generateProposeCheck_eq_ok {requestor : User} {ccName : String} {args : List Bytes}
    {channel : Option Channel} {transientMap : Option TransientMap} {peers : List Peer} {msg : String}
    {tx : EndorsedTX} {sends sends' : List Request} :
    Coro.observe network (do
        let (nonce, timestamp) : Bytes × Timestamp ← Coro.request Request.entropy
        let generatedTx ← Coro.ofExcept
          (buildGeneratedTx rt requestor ccName args channel transientMap nonce timestamp)
        let endorsedTx ← proposeTx peers generatedTx
        Coro.ofExcept (raiseTxProposalError endorsedTx msg)
        return endorsedTx : Async Unit EndorsedTX) () sends = (.ok tx, (), sends') ↔
      ∃ generatedTx, let drawn : Bytes × Timestamp := network sends .entropy
        buildGeneratedTx rt requestor ccName args channel transientMap drawn.1 drawn.2 =
            .ok generatedTx ∧
          peers ≠ [] ∧ EndorsedByAll network peers generatedTx (sends ++ [.entropy]) tx ∧
          sends' = sends ++ [.entropy, .processProposals generatedTx.signedProposal peers] := by
  constructor
  · intro h
    obtain ⟨drawn, _, hdrawn, h⟩ := (observe_bind_eq_ok network).mp h
    cases hdrawn
    obtain ⟨generatedTx, _, hbuild, h⟩ := (observe_bind_eq_ok network).mp h
    obtain ⟨hbuilt, rfl⟩ := (observe_ofExcept_eq_ok network).mp hbuild
    obtain ⟨hpeers, hendorsed, rfl⟩ := (observe_proposeChecked_eq_ok network).mp h
    exact ⟨generatedTx, hbuilt, hpeers, hendorsed, by rw [List.append_assoc]; rfl⟩
  · rintro ⟨generatedTx, hbuild, hpeers, hendorsed, rfl⟩
    refine (observe_bind_eq_ok network).mpr ⟨_, sends ++ [.entropy], rfl, ?_⟩
    refine (observe_bind_eq_ok network).mpr ⟨generatedTx, sends ++ [.entropy],
      (observe_ofExcept_eq_ok network).mpr ⟨hbuild, rfl⟩, ?_⟩
    exact (observe_proposeChecked_eq_ok network).mpr
      ⟨hpeers, hendorsed, by rw [List.append_assoc]; rfl⟩

variable {rt} in
/-- Where the proposal that is generated is as given, no other is sent. -/
theorem ensures_generateProposeCheck {α : Type} {P : SignedProposal → List Peer → Prop}
    {requestor : User} {ccName : String} {args : List Bytes} {channel : Option Channel}
    {peers : List Peer} {msg : String} {rest : EndorsedTX → Async Unit α}
    (hgenerated : ∀ nonce timestamp generatedTx,
      buildGeneratedTx rt requestor ccName args channel none nonce timestamp = .ok generatedTx →
        P generatedTx.signedProposal peers)
    (hrest : ∀ tx, Coro.Ensures (fun e => ¬ Event.IsProposal e) (fun _ _ => True)
      (fun _ _ => True) (rest tx) ()) :
    Coro.Ensures (Event.OnlyProposes P) (fun _ _ => True) (fun _ _ => True) (do
        let (nonce, timestamp) : Bytes × Timestamp ← Coro.request Request.entropy
        let generatedTx ← Coro.ofExcept
          (buildGeneratedTx rt requestor ccName args channel none nonce timestamp)
        let endorsedTx ← proposeTx peers generatedTx
        Coro.ofExcept (raiseTxProposalError endorsedTx msg)
        rest endorsedTx) () := by
  refine Coro.Ensures.request_bind (Event.onlyProposes_of_not id) fun drawn => ?_
  have hgenerate : Coro.Ensures (fun e => ¬ Event.IsProposal e)
      (fun generatedTx _ => P generatedTx.signedProposal peers) (fun _ _ => True)
      (Coro.ofExcept (buildGeneratedTx rt requestor ccName args channel none drawn.1 drawn.2) :
        Async Unit GeneratedTX) () :=
    Coro.Ensures.ofExcept (fun generatedTx hbuild => hgenerated drawn.1 drawn.2 generatedTx hbuild)
      fun _ _ => trivial
  exact ensures_generated hgenerate hrest

/-! ## Queries -/

/-- The answer to a query of chaincodes, when every peer endorses it: the payload of the first peer,
parsed. -/
def AnswersQuery (peers : List Peer) (generatedTx : GeneratedTX) (sends : List Request)
    (response : ChaincodeQueryResponse) : Prop :=
  ∃ tx first rest, EndorsedByAll network peers generatedTx sends tx ∧
    tx.peerResponses = first :: rest ∧
    rt.fromString ChaincodeQueryResponse first.response.payload = some response

/-- Data is parsed when the library parses it. -/
theorem parse_eq_ok {α : Type} [MessageCodec α] {data : Bytes} {a : α} :
    rt.parse α data = .ok a ↔ rt.fromString α data = some a := by
  unfold Runtime.parse
  cases rt.fromString α data <;> simp

/-- **A query of chaincodes returns** when every peer endorses it and the payload of the first peer
parses. -/
theorem queryChaincodes_eq_ok_iff {requestor : User} {peers : List Peer} {channel : Option Channel}
    {fcn msg : String} {response : ChaincodeQueryResponse} {sends sends' : List Request} :
    Coro.observe network (queryChaincodes rt requestor peers channel fcn msg) () sends =
        (.ok response, (), sends') ↔
      IsLatin1 fcn ∧ ∃ generatedTx, let drawn : Bytes × Timestamp := network sends .entropy
        buildGeneratedTx rt requestor "lscc" [codePoints fcn] channel none drawn.1 drawn.2 =
            .ok generatedTx ∧
          AnswersQuery rt network peers generatedTx (sends ++ [.entropy]) response ∧
          sends' = sends ++ [.entropy, .processProposals generatedTx.signedProposal peers] := by
  constructor
  · intro h
    obtain ⟨arg, _, harg, h⟩ := (observe_bind_eq_ok network).mp h
    obtain ⟨hencoded, hsame⟩ := (observe_ofExcept_eq_ok network).mp harg
    rw [hsame] at h
    obtain ⟨hlatin1, rfl⟩ := (encodeProtoBytes_eq_ok _ _).mp hencoded
    obtain ⟨drawn, _, hdrawn, h⟩ := (observe_bind_eq_ok network).mp h
    cases hdrawn
    obtain ⟨generatedTx, _, hbuild, h⟩ := (observe_bind_eq_ok network).mp h
    obtain ⟨hbuilt, rfl⟩ := (observe_ofExcept_eq_ok network).mp hbuild
    obtain ⟨tx, _, hproposed, h⟩ := (observe_bind_eq_ok network).mp h
    obtain ⟨_, _, hraise, h⟩ := (observe_bind_eq_ok network).mp h
    have hchecked : Coro.observe network (proposeChecked peers generatedTx msg) ()
        (sends ++ [.entropy]) = (.ok tx, (), _) :=
      (observe_bind_eq_ok network).mpr
        ⟨tx, _, hproposed, (observe_bind_eq_ok network).mpr ⟨(), _, hraise, rfl⟩⟩
    obtain ⟨-, hendorsed, rfl⟩ := (observe_proposeChecked_eq_ok network).mp hchecked
    cases hresponses : tx.peerResponses with
    | nil =>
        rw [hresponses] at h
        cases h
    | cons first rest =>
        rw [hresponses] at h
        obtain ⟨hparse, rfl⟩ := (observe_ofExcept_eq_ok network).mp h
        exact ⟨hlatin1, generatedTx, hbuilt,
          ⟨tx, first, rest, hendorsed, hresponses, (parse_eq_ok rt).mp hparse⟩,
          List.append_assoc _ _ _⟩
  · rintro ⟨hlatin1, generatedTx, hbuilt, ⟨tx, first, rest, hendorsed, hresponses, hparse⟩, rfl⟩
    have hpeers : peers ≠ [] := by
      rintro rfl
      obtain ⟨responses, -, rfl⟩ := hendorsed
      cases hresponses
    have hchecked : Coro.observe network (proposeChecked peers generatedTx msg) ()
        (sends ++ [.entropy]) = (.ok tx, (), _) :=
      (observe_proposeChecked_eq_ok network).mpr ⟨hpeers, hendorsed, rfl⟩
    obtain ⟨tx', between, hproposed, h⟩ := (observe_bind_eq_ok network).mp hchecked
    obtain ⟨_, _, hraise, hret⟩ := (observe_bind_eq_ok network).mp h
    cases hret
    refine (observe_bind_eq_ok network).mpr ⟨codePoints fcn, sends,
      (observe_ofExcept_eq_ok network).mpr ⟨(encodeProtoBytes_eq_ok _ _).mpr ⟨hlatin1, rfl⟩, rfl⟩, ?_⟩
    refine (observe_bind_eq_ok network).mpr ⟨_, sends ++ [.entropy], rfl, ?_⟩
    refine (observe_bind_eq_ok network).mpr ⟨generatedTx, sends ++ [.entropy],
      (observe_ofExcept_eq_ok network).mpr ⟨hbuilt, rfl⟩, ?_⟩
    refine (observe_bind_eq_ok network).mpr ⟨tx, between, hproposed, ?_⟩
    refine (observe_bind_eq_ok network).mpr ⟨(), _, hraise, ?_⟩
    rw [hresponses, List.append_assoc]
    exact (observe_ofExcept_eq_ok network).mpr ⟨(parse_eq_ok rt).mpr hparse, rfl⟩

/-- **When the queries return.** For every network: `query` returns the transaction that was
generated exactly when every peer endorses it; a query of the instantiated or of the installed
chaincodes returns exactly when every peer endorses its proposal and the payload of the first peer
parses, and it is that payload. Each has then sent its one proposal, whatever the order in which the
peers answer. -/
theorem queries_return_iff (requestor : User) (sends sends' : List Request) :
    (∀ peers channel ccName fcn args transientMap tx,
      Coro.observe network (query rt requestor peers channel ccName fcn args transientMap) () sends =
          (.ok tx, (), sends') ↔
        ∃ generatedTx between,
          Coro.observe network (generateCcTx rt requestor ccName channel fcn args transientMap) ()
            sends = (.ok generatedTx, (), between) ∧
          peers ≠ [] ∧ EndorsedByAll network peers generatedTx between tx ∧
          sends' = between ++ [.processProposals generatedTx.signedProposal peers]) ∧
    (∀ peers channel response,
      Coro.observe network (queryInstantiatedChaincodes rt requestor peers channel) () sends =
          (.ok response, (), sends') ↔
        ∃ generatedTx, let drawn : Bytes × Timestamp := network sends .entropy
          buildGeneratedTx rt requestor "lscc" [codePoints "getchaincodes"] (some channel) none
              drawn.1 drawn.2 = .ok generatedTx ∧
            AnswersQuery rt network peers generatedTx (sends ++ [.entropy]) response ∧
            sends' = sends ++ [.entropy, .processProposals generatedTx.signedProposal peers]) ∧
    ∀ peer response,
      Coro.observe network (queryInstalledChaincodes rt requestor peer) () sends =
          (.ok response, (), sends') ↔
        ∃ generatedTx, let drawn : Bytes × Timestamp := network sends .entropy
          buildGeneratedTx rt requestor "lscc" [codePoints "getinstalledchaincodes"] none none
              drawn.1 drawn.2 = .ok generatedTx ∧
            AnswersQuery rt network [peer] generatedTx (sends ++ [.entropy]) response ∧
            sends' = sends ++ [.entropy, .processProposals generatedTx.signedProposal [peer]] := by
  refine ⟨fun peers channel ccName fcn args transientMap tx => ?_, fun peers channel response => ?_,
    fun peer response => ?_⟩
  · rw [query, Coro.bind_eq, observe_bind_eq_ok]
    refine exists_congr fun generatedTx => exists_congr fun between => and_congr_right fun _ => ?_
    exact observe_proposeChecked_eq_ok network
  · exact (queryChaincodes_eq_ok_iff rt network).trans (and_iff_right (by simp [IsLatin1]))
  · exact (queryChaincodes_eq_ok_iff rt network).trans (and_iff_right (by simp [IsLatin1]))

/-! ## Installations -/

/-- The deployment that the installation of a package describes: the chaincode, without a call. -/
def ChaincodeSpec.packaged (ccSpec : ChaincodeSpec) (name : String) (ccPkg : Bytes) :
    ChaincodeDeploymentSpec where
  chaincodeSpec := some {
    type := ccSpec.language.number
    chaincodeId := some {
      name, version := ccSpec.version.getD "", path := ccSpec.path.getD "" } }
  codePackage := ccPkg

/-- The arguments of a proposal, read as those of an installation. -/
def Proposal.installRequest (proposal : Proposal) : Option (Bytes × ChaincodeDeploymentSpec) := do
  match ← proposal.inputArgs rt with
  | [function, spec] => return (function, ← rt.fromString ChaincodeDeploymentSpec spec)
  | _ => none

section Installations

variable {archiver : Archiver} {fs : FileSystem} {gopath : Option String} {time : UInt32}
  {ccSpec : ChaincodeSpec} {requestor : User} {peers : List Peer} {sends sends' : List Request}

/-- Bytes that are given, or else none. -/
theorem getD_given (b : Bytes) : (given (some b)).getD [] = b := by
  by_cases hb : b = []
  · subst hb
    rfl
  · rw [given, Option.filter_some, decide_eq_true hb]
    rfl

/-- A mapped error does not make a value. -/
theorem mapError_eq_ok {ε ε' α : Type} {f : ε → ε'} {x : Except ε α} {a : α} :
    x.mapError f = .ok a ↔ x = .ok a := by
  cases x <;> simp [Except.mapError]

/-- The deployment spec of an installation is always built. -/
theorem buildCcDeploymentSpec_package (name : String) (ccPkg : Bytes) :
    buildCcDeploymentSpec name ccSpec.language none ccSpec.version ccSpec.path (some ccPkg) none =
      .ok (ccSpec.packaged name ccPkg) := by
  have hno : (givenText none).toList = [] := rfl
  rw [buildCcDeploymentSpec, hno, getD_givenText ccSpec.version, getD_givenText ccSpec.path,
    getD_given]
  rfl

/-- **The arguments of an installation** are made when the chaincode has a name and is packaged. -/
theorem installArgs_eq_ok {args : List Bytes} :
    installArgs rt archiver fs gopath time ccSpec = .ok args ↔
      ∃ name ccPkg, ccSpec.name = some name ∧ name ≠ "" ∧
        packageChaincode archiver fs gopath ccSpec time = .ok ccPkg ∧
        args = [codePoints "install", rt.serializeToString (ccSpec.packaged name ccPkg)] := by
  have hinstall : encodeProtoBytes ChaincodeProposalType.install.value = .ok (codePoints "install") :=
    (encodeProtoBytes_eq_ok _ _).mpr ⟨by simp [IsLatin1, ChaincodeProposalType.value], rfl⟩
  unfold installArgs
  cases hname : givenText ccSpec.name with
  | none =>
      refine iff_of_false (fun h => by cases h) ?_
      rintro ⟨name, -, hgiven, hne, -⟩
      rw [givenText_eq_some.mpr ⟨hgiven, hne⟩] at hname
      cases hname
  | some name =>
      obtain ⟨hgiven, hne⟩ := givenText_eq_some.mp hname
      simp only [bind_eq_ok, mapError_eq_ok, buildCcDeploymentSpec_package, hinstall]
      constructor
      · rintro ⟨ccPkg, hpackage, _, hspec, _, hfunction, h⟩
        cases hspec
        cases hfunction
        cases h
        exact ⟨name, ccPkg, hgiven, hne, hpackage, rfl⟩
      · rintro ⟨name', ccPkg, hgiven', -, hpackage, rfl⟩
        rw [hgiven] at hgiven'
        cases hgiven'
        exact ⟨ccPkg, hpackage, _, rfl, _, rfl, rfl⟩

/-- **When an installation returns.** For every network: exactly when the chaincode has a name and
is packaged, and every peer endorses the proposal that is generated with it. -/
theorem installChaincode_eq_ok_iff {tx : EndorsedTX} :
    Coro.observe network (installChaincode rt archiver fs gopath time requestor peers ccSpec) ()
        sends = (.ok tx, (), sends') ↔
      ∃ name ccPkg generatedTx, ccSpec.name = some name ∧ name ≠ "" ∧
        packageChaincode archiver fs gopath ccSpec time = .ok ccPkg ∧
        let drawn : Bytes × Timestamp := network sends .entropy
        buildGeneratedTx rt requestor "lscc"
            [codePoints "install", rt.serializeToString (ccSpec.packaged name ccPkg)] none none drawn.1
            drawn.2 = .ok generatedTx ∧
          peers ≠ [] ∧ EndorsedByAll network peers generatedTx (sends ++ [.entropy]) tx ∧
          sends' = sends ++ [.entropy, .processProposals generatedTx.signedProposal peers] := by
  have hpropose : ∀ args sends, Coro.observe network ((proposeInstall rt requestor peers ccSpec
      args).mapError (Sum.inr : Exc → FileExc)) () sends = (.ok tx, (), sends') ↔
      Coro.observe network (proposeInstall rt requestor peers ccSpec args) () sends =
        (.ok tx, (), sends') := by
    intro args sends
    rw [Coro.observe_mapError]
    rcases Coro.observe network (proposeInstall rt requestor peers ccSpec args) () sends with
      ⟨e | tx', ⟨⟩, between⟩ <;> simp [Except.mapError]
  rw [installChaincode, Coro.bind_eq, observe_bind_eq_ok]
  simp only [observe_ofExcept_eq_ok, installArgs_eq_ok, hpropose]
  constructor
  · rintro ⟨_, _, ⟨⟨name, ccPkg, hname, hne, hpackage, rfl⟩, rfl⟩, h⟩
    obtain ⟨generatedTx, hrest⟩ := (observe_generateProposeCheck_eq_ok rt network).mp h
    exact ⟨name, ccPkg, generatedTx, hname, hne, hpackage, hrest⟩
  · rintro ⟨name, ccPkg, generatedTx, hname, hne, hpackage, hrest⟩
    exact ⟨_, sends, ⟨⟨name, ccPkg, hname, hne, hpackage, rfl⟩, rfl⟩,
      (observe_generateProposeCheck_eq_ok rt network).mpr ⟨generatedTx, hrest⟩⟩

variable (archiver fs gopath time ccSpec) in
/-- A signed proposal asks `lscc` to install the package of a chaincode. -/
def AsksToInstall (proposal : SignedProposal) : Prop :=
  ∃ name ccPkg signed, ccSpec.name = some name ∧ name ≠ "" ∧
    packageChaincode archiver fs gopath ccSpec time = .ok ccPkg ∧
    proposal.proposal rt = some signed ∧ signed.invokes rt = some "lscc" ∧
    signed.channelId rt = some "" ∧
    signed.installRequest rt = some (codePoints "install", ccSpec.packaged name ccPkg)

variable {rt} in
/-- What is built of the arguments of an installation asks for it. -/
theorem asksToInstall_of_installArgs (hrt : rt.RoundTrip) {args : List Bytes} {nonce : Bytes}
    {timestamp : Timestamp} {generatedTx : GeneratedTX}
    (hargs : installArgs rt archiver fs gopath time ccSpec = .ok args)
    (hbuild : buildGeneratedTx rt requestor "lscc" args none none nonce timestamp = .ok generatedTx) :
    AsksToInstall rt archiver fs gopath time ccSpec generatedTx.signedProposal := by
  obtain ⟨name, ccPkg, hname, hne, hpackage, rfl⟩ := (installArgs_eq_ok rt).mp hargs
  obtain ⟨header, hheader, rfl⟩ := buildGeneratedTx_cases hbuild
  obtain ⟨channelHeader, -, -, -, hchannel, -, -, rfl⟩ := buildHeader_cases hheader
  have hempty : encodeProtoStr "" = .ok "" := encodeProtoStr_eq_self_iff.mpr (by simp [IsAscii])
  have hid : "" = channelHeader.channelId := Except.ok.inj (hempty.symm.trans hchannel)
  refine ⟨name, ccPkg, _, hname, hne, hpackage, proposal_generatedWith hrt _ _ _ _ _ _,
    invokes_invocationProposal hrt _ _ _ _, ?_, ?_⟩
  · rw [(reads_invocationProposal hrt _ _ _ _).1, Header.channelId, hrt, hid]
    rfl
  · rw [Proposal.installRequest, (reads_invocationProposal hrt _ _ _ _).2]
    show (rt.fromString ChaincodeDeploymentSpec (rt.serializeToString _) >>= fun _ => _) = _
    rw [hrt]
    rfl

variable {rt} in
/-- **An installation sends no proposal but its own**: whatever happens, what it proposes goes to the
peers given and asks them to install the package. -/
theorem ensures_installChaincode (archiver : Archiver) (fs : FileSystem) (gopath : Option String)
    (time : UInt32) (requestor : User) (peers : List Peer) (ccSpec : ChaincodeSpec)
    (hrt : rt.RoundTrip) :
    Coro.Ensures (Event.OnlyProposes fun proposal peers' => peers' = peers ∧
        AsksToInstall rt archiver fs gopath time ccSpec proposal)
      (fun _ _ => True) (fun _ _ => True)
      (installChaincode rt archiver fs gopath time requestor peers ccSpec) () := by
  refine Coro.Ensures.bind (Coro.Ensures.ofExcept (fun args hargs => ?_) fun _ _ => trivial)
  exact Coro.Ensures.mapError (ensures_generateProposeCheck (fun nonce timestamp generatedTx hbuild =>
    ⟨rfl, asksToInstall_of_installArgs hrt hargs hbuild⟩) fun _ => trivial)

/-- **What peers are asked to install** is the package. Nothing is sent when the chaincode has no
name or cannot be packaged; and however the operation ends, what it proposes goes to the peers
given, invokes `lscc` without a channel, and is read as the installation of the package, byte for
byte. -/
theorem installation_read_back (hrt : rt.RoundTrip) :
    let outcome := Coro.observe network
      (installChaincode rt archiver fs gopath time requestor peers ccSpec) () sends
    (∀ e, installArgs rt archiver fs gopath time ccSpec = .error e → outcome = (.error e, (), sends)) ∧
    ∀ proposal peers', .processProposals proposal peers' ∈ outcome.2.2.drop sends.length →
      peers' = peers ∧ ∃ name ccPkg signed, ccSpec.name = some name ∧ name ≠ "" ∧
        packageChaincode archiver fs gopath ccSpec time = .ok ccPkg ∧
        proposal.proposal rt = some signed ∧ signed.invokes rt = some "lscc" ∧
        signed.channelId rt = some "" ∧
        signed.installRequest rt = some (codePoints "install", ccSpec.packaged name ccPkg) := by
  intro outcome
  constructor
  · intro e he
    have houtcome : outcome = _ := Coro.observe_bind network
      (Coro.ofExcept (installArgs rt archiver fs gopath time ccSpec) : FileAsync (List Bytes)) _ ()
      sends
    rw [houtcome, Coro.observe_ofExcept, he]
  · intro proposal peers' hmem
    obtain ⟨sent, hsent, honly⟩ := Coro.Ensures.observe_requests network sends
      (ensures_installChaincode archiver fs gopath time requestor peers ccSpec hrt)
    rw [hsent, List.drop_left] at hmem
    exact honly _ hmem proposal peers' rfl

end Installations

/-- A peer is asked to install the package of a project of two files. -/
theorem installation_read_back_machine :
    let ccSpec : ChaincodeSpec := { name := some "cc", path := some "cc" }
    let outcome := Coro.observe plainNetwork (installChaincode (wireRuntime id) wireArchiver
      (ownedBy "alice").fs none 0 keyedUser [{ endpoint := "peer" }] ccSpec) () []
    ∃ (proposal : SignedProposal) (ccPkg : Bytes) (signed : Proposal),
      .processProposals proposal [{ endpoint := "peer" }] ∈ outcome.2.2 ∧
      packageChaincode wireArchiver (ownedBy "alice").fs none ccSpec 0 = .ok ccPkg ∧
      proposal.proposal (wireRuntime id) = some signed ∧
      signed.installRequest (wireRuntime id) =
        some (codePoints "install", ccSpec.packaged "cc" ccPkg) := by
  intro ccSpec outcome
  have hproposed : outcome.2.2.any Request.isProposal = true := by decide +kernel
  obtain ⟨request, hmem, hrequest⟩ := List.any_eq_true.mp hproposed
  cases request with
  | processProposals proposal peers =>
      obtain ⟨rfl, name, ccPkg, signed, hname, -, hpackage, hsigned, -, -, hread⟩ :=
        (@installation_read_back (wireRuntime id) plainNetwork wireArchiver (ownedBy "alice").fs
          none 0 ccSpec keyedUser [{ endpoint := "peer" }] [] (wireRuntime_roundTrip id)).2 proposal
          peers hmem
      cases hname
      exact ⟨proposal, ccPkg, signed, hmem, hpackage, hsigned, hread⟩
  | entropy => cases hrequest
  | broadcast orderer envelope => cases hrequest
  | deliverFiltered peer envelope => cases hrequest
  | deliver orderer envelope => cases hrequest

end Snakeskin
