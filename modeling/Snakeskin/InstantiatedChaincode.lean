import Snakeskin.CallerText
import Snakeskin.OperationOutcomes
import Snakeskin.PolicyFailures
import Snakeskin.PolicyIdentities
import Snakeskin.PolicyMeaning

/-! # What a peer reads of an instantiation

An instantiate or upgrade transaction wraps a chaincode description and an endorsement policy into
byte arguments of `lscc`. This file reads the arguments back from the proposals and says what they
mean: the chaincode that was asked for, under a policy that holds just when the one asked for does,
whatever the order in which Python iterates over its sets. -/

namespace Snakeskin

open Wire

variable {rt : Runtime} {case : CaseMapping}

/-! ## One policy, whatever the order -/

/-- A policy is compiled to the same rule with two orders, wherever its role maps are those of the
root; by induction on the policy. -/
theorem buildEndorsementPolicy_congr (order order' : SetOrder EndorsementPolicyRole)
    {roles : List EndorsementPolicyRole} (hnodup : roles.Nodup) (policy : EndorsementPolicy)
    {roleMap roleMap' : Option RoleMap}
    (hmap : policy.effectiveRoleMap order roleMap = RoleMap.enumerate roles)
    (hmap' : policy.effectiveRoleMap order' roleMap' = RoleMap.enumerate roles)
    (hsubset : ∀ role ∈ policy.allRoles order, role ∈ roles) :
    buildEndorsementPolicy order roleMap policy = buildEndorsementPolicy order' roleMap' policy := by
  induction policy using EndorsementPolicy.induction generalizing roleMap roleMap' with
  | step expr outOf ownRoles subPolicies ih =>
      rw [buildEndorsementPolicy, buildEndorsementPolicy, hmap, hmap', buildSubPolicies_eq_mapM,
        buildSubPolicies_eq_mapM]
      -- Below this policy both compilations go on with the role map of the root.
      have hsubs : subPolicies.mapM
          (buildEndorsementPolicy order (some (RoleMap.enumerate roles))) =
          subPolicies.mapM (buildEndorsementPolicy order' (some (RoleMap.enumerate roles))) := by
        refine List.mapM_eq_mapM fun sub hsub => ?_
        have hbelow : ∀ role ∈ sub.allRoles order, role ∈ roles := fun role hrole =>
          hsubset role ((EndorsementPolicy.mem_allRoles order).mpr (.inr ⟨sub, hsub, hrole⟩))
        have hbelow' : ∀ role ∈ sub.allRoles order', role ∈ roles := fun role hrole =>
          hbelow role ((sub.mem_allRoles_congr order order' role).mpr hrole)
        exact ih sub hsub (effectiveRoleMap_of_subset order hnodup hbelow)
          (effectiveRoleMap_of_subset order' hnodup hbelow') hbelow
      rw [hsubs]

/-- **An envelope does not depend on the orders** in which sets are iterated over: with any others
the same envelope is returned. -/
theorem buildSignaturePolicyEnvelope_congr {order₁ order₁' : SetOrder EndorsementPolicyRole}
    {policy : EndorsementPolicy} {envelope : SignaturePolicyEnvelope}
    (h : buildSignaturePolicyEnvelope rt case order₁ order₁' policy = .ok envelope)
    (order₂ order₂' : SetOrder EndorsementPolicyRole) :
    buildSignaturePolicyEnvelope rt case order₂ order₂' policy = .ok envelope := by
  obtain ⟨hrule, -, henumerators⟩ := buildSignaturePolicyEnvelope_cases h
  have hroles : policy.allRoles order₂ = policy.allRoles order₁ :=
    EndorsementPolicy.allRoles_congr case order₂ order₁ henumerators
  have hroles' : policy.allRoles order₂' = policy.allRoles order₁' := by
    rw [EndorsementPolicy.allRoles_congr case order₂' order₁ henumerators,
      EndorsementPolicy.allRoles_congr case order₁' order₁ henumerators]
  have hmap : policy.effectiveRoleMap order₂ none = RoleMap.enumerate (policy.allRoles order₁) :=
    congrArg RoleMap.enumerate hroles
  have hsame : buildEndorsementPolicy order₂ none policy = buildEndorsementPolicy order₁ none policy :=
    (buildEndorsementPolicy_congr order₁ order₂ (policy.nodup_allRoles order₁) policy rfl hmap
      fun _ hrole => hrole).symm
  rw [buildSignaturePolicyEnvelope, hsame, hroles']
  exact h

/-! ## Reading an instantiation -/

variable (rt) in
/-- The name of the chaincode that a proposal invokes. -/
def Proposal.invokes (proposal : Proposal) : Option String := do
  let payload ← rt.fromString ChaincodeProposalPayload proposal.payload
  let invocation ← rt.fromString ChaincodeInvocationSpec payload.input
  let spec ← invocation.chaincodeSpec
  let id ← spec.chaincodeId
  return id.name

/-- The deployment that a chaincode specification with a name asks for: its initial call is `init`
with the arguments of the specification. -/
def ChaincodeSpec.deployment (ccSpec : ChaincodeSpec) (name : String) : ChaincodeDeploymentSpec where
  chaincodeSpec := some {
    type := ccSpec.language.number
    chaincodeId := some { name, version := ccSpec.version.getD "" }
    input := some { args := (callTexts "init" ccSpec.args).map codePoints } }

/-- The deployment spec of an instantiation is built when the arguments are in Latin-1, and it is
what the specification asks for. -/
theorem buildCcDeploymentSpec_init_eq_ok {ccSpec : ChaincodeSpec} {name : String}
    {spec : ChaincodeDeploymentSpec} :
    buildCcDeploymentSpec name ccSpec.language (some "init") ccSpec.version none none ccSpec.args =
        .ok spec ↔
      (∀ s ∈ ccSpec.args.getD [], IsLatin1 s) ∧ ccSpec.deployment name = spec := by
  have hinit : (givenText (some "init")).toList = ["init"] := by decide
  have hlatin1 : IsLatin1 "init" := by simp [IsLatin1]
  unfold buildCcDeploymentSpec
  rw [hinit, getD_givenText ccSpec.version]
  simp only [bind_eq_ok, mapM_eq_ok_iff encodeProtoBytes_eq_ok]
  constructor
  · rintro ⟨_, ⟨-, rfl⟩, _, ⟨hargs, rfl⟩, h⟩
    cases h
    exact ⟨hargs, rfl⟩
  · rintro ⟨hargs, rfl⟩
    refine ⟨_, ⟨?_, rfl⟩, _, ⟨hargs, rfl⟩, rfl⟩
    rintro s hs
    rw [List.mem_singleton.mp hs]
    exact hlatin1

/-- The function of `lscc` for an instantiate or upgrade transaction. -/
def deployFunction (upgrade : Bool) : String := if upgrade then "upgrade" else "deploy"

/-- **The arguments of an instantiation** are made when the policy compiles, the chaincode has a
name and the texts are in Latin-1. -/
theorem instantiateArgs_eq_ok {order order' : SetOrder EndorsementPolicyRole} {ccSpec : ChaincodeSpec}
    {channel : Channel} {endorsementPolicy : Option EndorsementPolicy} {upgrade : Bool}
    {args : List Bytes} :
    instantiateArgs rt case order order' ccSpec channel endorsementPolicy upgrade = .ok args ↔
      ∃ policy name, instantiatePolicy rt case order order' endorsementPolicy = .ok policy ∧
        ccSpec.name = some name ∧ name ≠ "" ∧
        (∀ s ∈ channel.name :: ccSpec.args.getD [], IsLatin1 s) ∧
        args = [codePoints (deployFunction upgrade), codePoints channel.name,
          rt.serializeToString (ccSpec.deployment name), (given policy).getD [], codePoints "escc",
          codePoints "vscc"] := by
  have hfunction : ((if upgrade = true then ChaincodeProposalType.upgrade else .instantiate)).value =
      deployFunction upgrade := by cases upgrade <;> rfl
  have hfunctionLatin1 : IsLatin1 (deployFunction upgrade) := by
    cases upgrade <;> simp [IsLatin1, deployFunction]
  have hescc : IsLatin1 "escc" := by simp [IsLatin1]
  have hvscc : IsLatin1 "vscc" := by simp [IsLatin1]
  simp only [instantiateArgs, bind_eq_ok, hfunction]
  refine exists_congr fun policy => ?_
  cases hname : givenText ccSpec.name with
  | none =>
      refine iff_of_false ?_ ?_
      · rintro ⟨-, h⟩
        cases h
      · rintro ⟨name, -, hgiven, hne, -⟩
        rw [givenText_eq_some.mpr ⟨hgiven, hne⟩] at hname
        cases hname
  | some name =>
      obtain ⟨hgiven, hne⟩ := givenText_eq_some.mp hname
      simp only [bind_eq_ok, buildCcDeploymentSpec_init_eq_ok, encodeProtoBytes_eq_ok,
        List.forall_mem_cons]
      constructor
      · rintro ⟨hpolicy, _, ⟨hargs, rfl⟩, _, ⟨-, rfl⟩, _, ⟨hchannel, rfl⟩, _, ⟨-, rfl⟩, _, ⟨-, rfl⟩, h⟩
        cases h
        exact ⟨name, hpolicy, hgiven, hne, ⟨hchannel, hargs⟩, rfl⟩
      · rintro ⟨name', hpolicy, hgiven', -, ⟨hchannel, hargs⟩, rfl⟩
        rw [hgiven] at hgiven'
        cases hgiven'
        exact ⟨hpolicy, _, ⟨hargs, rfl⟩, _, ⟨hfunctionLatin1, rfl⟩, _, ⟨hchannel, rfl⟩, _,
          ⟨hescc, rfl⟩, _, ⟨hvscc, rfl⟩, rfl⟩

/-! ## What is generated -/

section Generated

variable {network : Network} {requestor : User} {ccSpec : ChaincodeSpec} {channel : Channel}
  {endorsementPolicy : Option EndorsementPolicy} {upgrade : Bool} {sends sends' : List Request}
  {tx : GeneratedTX}

/-- An invocation proposal names its chaincode. -/
theorem invokes_invocationProposal (hrt : rt.RoundTrip) (header : Header) (ccName : String)
    (args : List Bytes) (transientMap : BytesMap) :
    (invocationProposal rt header ccName args transientMap).invokes rt = some ccName := by
  rw [Proposal.invokes, invocationProposal, hrt]
  show (rt.fromString ChaincodeInvocationSpec (rt.serializeToString _) >>= _) = _
  rw [hrt]
  rfl

/-- **An instantiation is generated** exactly when its policy compiles, the chaincode has a name,
and the texts can be carried. -/
theorem instantiation_generated_iff (order order' : SetOrder EndorsementPolicyRole) :
    (∃ tx sends', Coro.observe network (generateInstantiateCcTx rt case order order' requestor ccSpec
        channel endorsementPolicy upgrade) () sends = (.ok tx, (), sends')) ↔
      (∀ policy ∈ endorsementPolicy, ∃ envelope,
        buildSignaturePolicyEnvelope rt case order order' policy = .ok envelope) ∧
      (∃ name, ccSpec.name = some name ∧ name ≠ "") ∧
      ¬ RefusedText channel.name (ccSpec.args.getD []) := by
  have hpolicies : (∃ policy, instantiatePolicy rt case order order' endorsementPolicy = .ok policy) ↔
      ∀ policy ∈ endorsementPolicy, ∃ envelope,
        buildSignaturePolicyEnvelope rt case order order' policy = .ok envelope := by
    cases endorsementPolicy with
    | none => exact iff_of_true ⟨none, rfl⟩ fun _ h => (by cases h)
    | some policy =>
        simp only [instantiatePolicy, bind_eq_ok, Option.mem_some_iff, forall_eq']
        exact ⟨fun ⟨_, envelope, h, _⟩ => ⟨envelope, h⟩, fun ⟨envelope, h⟩ => ⟨_, envelope, h, rfl⟩⟩
  have htexts : ¬ RefusedText channel.name (ccSpec.args.getD []) ↔
      (∀ s ∈ channel.name :: ccSpec.args.getD [], IsLatin1 s) ∧
        ∃ channelId, encodeProtoStr channel.name = .ok channelId := by
    simp only [RefusedText, not_or, not_exists, not_and, not_not, encodeProtoStr_eq_ok]
    refine and_congr_right fun hlatin1 => ?_
    rw [← ne_eq, Option.ne_none_iff_exists']
    refine exists_congr fun channelId => ?_
    rw [decodeString_eq_some_iff]
    exact (and_iff_right (hlatin1 _ List.mem_cons_self)).symm
  rw [← hpolicies, htexts]
  constructor
  · rintro ⟨tx, sends', h⟩
    obtain ⟨args, hargs, hbuild, -⟩ := (observe_generate_eq_ok rt network).mp h
    obtain ⟨policy, name, hpolicy, hname, hne, hlatin1, -⟩ := instantiateArgs_eq_ok.mp hargs
    exact ⟨⟨policy, hpolicy⟩, ⟨name, hname, hne⟩, hlatin1, exists_buildGeneratedTx_iff.mp ⟨tx, hbuild⟩⟩
  · rintro ⟨⟨policy, hpolicy⟩, ⟨name, hname, hne⟩, hlatin1, hchannel⟩
    obtain ⟨tx, hbuild⟩ := exists_buildGeneratedTx_iff.mpr hchannel
    exact ⟨tx, _, (observe_generate_eq_ok rt network).mpr
      ⟨_, instantiateArgs_eq_ok.mpr ⟨policy, name, hpolicy, hname, hne, hlatin1, rfl⟩, hbuild, rfl⟩⟩

/-- **An instantiation does not depend on the orders** in which sets are iterated over. -/
theorem generateInstantiateCcTx_congr {order₁ order₁' : SetOrder EndorsementPolicyRole}
    (h : Coro.observe network (generateInstantiateCcTx rt case order₁ order₁' requestor ccSpec channel
      endorsementPolicy upgrade) () sends = (.ok tx, (), sends'))
    (order₂ order₂' : SetOrder EndorsementPolicyRole) :
    Coro.observe network (generateInstantiateCcTx rt case order₂ order₂' requestor ccSpec channel
      endorsementPolicy upgrade) () sends = (.ok tx, (), sends') := by
  obtain ⟨args, hargs, hbuild⟩ := (observe_generate_eq_ok rt network).mp h
  obtain ⟨policy, name, hpolicy, hrest⟩ := instantiateArgs_eq_ok.mp hargs
  have hpolicy' : instantiatePolicy rt case order₂ order₂' endorsementPolicy = .ok policy := by
    cases endorsementPolicy with
    | none => exact hpolicy
    | some asked =>
        obtain ⟨envelope, henvelope, hserialised⟩ := bind_eq_ok.mp hpolicy
        exact bind_eq_ok.mpr
          ⟨envelope, buildSignaturePolicyEnvelope_congr henvelope order₂ order₂', hserialised⟩
  exact (observe_generate_eq_ok rt network).mpr
    ⟨args, instantiateArgs_eq_ok.mpr ⟨policy, name, hpolicy', hrest⟩, hbuild⟩

/-- **The same run, whatever the order**: where a transaction is generated with one order of
iteration over sets, `instantiate_chaincode` sends the same requests and ends alike with every
other, whatever the parties answer. -/
theorem instantiateChaincode_congr {order₁ order₁' : SetOrder EndorsementPolicyRole}
    (h : Coro.observe network (generateInstantiateCcTx rt case order₁ order₁' requestor ccSpec channel
      endorsementPolicy upgrade) () sends = (.ok tx, (), sends'))
    (order₂ order₂' : SetOrder EndorsementPolicyRole) (peers : List Peer) (orderers : List Orderer)
    (timeout : Int) :
    Coro.observe network (instantiateChaincode rt case order₂ order₂' requestor peers orderers channel
        ccSpec endorsementPolicy upgrade timeout) () sends =
      Coro.observe network (instantiateChaincode rt case order₁ order₁' requestor peers orderers
        channel ccSpec endorsementPolicy upgrade timeout) () sends := by
  rw [instantiateChaincode, instantiateChaincode, Coro.bind_eq, Coro.bind_eq, Coro.observe_bind,
    Coro.observe_bind, h, generateInstantiateCcTx_congr h order₂ order₂']

end Generated

/-! ## What a gateway asks its peers -/

section Gateways

/-- The event sends no proposal but one as given, to the peers given with it. -/
def Event.OnlyProposes (P : SignedProposal → List Peer → Prop) (e : Event) : Prop :=
  ∀ proposal peers, e = .inl (.processProposals proposal peers) → P proposal peers

/-- An event that is no proposal sends none. -/
theorem Event.onlyProposes_of_not {P : SignedProposal → List Peer → Prop} {e : Event}
    (h : ¬ Event.IsProposal e) : Event.OnlyProposes P e := by
  rintro proposal peers rfl
  exact absurd trivial h

/-- A proposal sends itself, to the peers. -/
theorem ensures_proposeTx_self (peers : List Peer) (generatedTx : GeneratedTX) :
    Coro.Ensures (fun e => e = .inl (.processProposals generatedTx.signedProposal peers))
      (fun _ _ => True) (fun _ _ => True) (proposeTx peers generatedTx) () := by
  unfold proposeTx
  split
  · trivial
  · refine Coro.Ensures.request_bind rfl fun answers => ?_
    exact Coro.Ensures.bind (Coro.Ensures.ofExcept (fun _ _ => trivial) fun _ _ => trivial)

/-- **An operation sends no proposal but its own**: where a transaction is generated and proposed,
and what follows proposes nothing, the only proposal is that of the transaction, to the peers. -/
theorem ensures_proposed {α : Type} {P : SignedProposal → List Peer → Prop}
    {generate : Async Unit GeneratedTX} {peers : List Peer} {rest : EndorsedTX → Async Unit α}
    (hgenerate : Coro.Ensures (fun e => ¬ Event.IsProposal e)
      (fun generatedTx _ => P generatedTx.signedProposal peers) (fun _ _ => True) generate ())
    (hrest : ∀ tx, Coro.Ensures (fun e => ¬ Event.IsProposal e) (fun _ _ => True)
      (fun _ _ => True) (rest tx) ()) :
    Coro.Ensures (Event.OnlyProposes P) (fun _ _ => True) (fun _ _ => True)
      (generate.bind fun generatedTx => (proposeTx peers generatedTx).bind rest) () := by
  refine Coro.Ensures.bind (Coro.Ensures.mono (fun _ => Event.onlyProposes_of_not) ?_
    (fun _ _ h => h) hgenerate)
  intro generatedTx _ hgenerated
  refine Coro.Ensures.bind (Coro.Ensures.mono ?_ ?_ (fun _ _ h => h)
    (ensures_proposeTx_self peers generatedTx))
  · rintro _ rfl proposal peers' hsent
    cases hsent
    exact hgenerated
  · intro tx _ _
    exact Coro.Ensures.mono (fun _ => Event.onlyProposes_of_not) (fun _ _ h => h) (fun _ _ h => h)
      (hrest tx)

/-- So it is where the endorsements are checked before anything else follows. -/
theorem ensures_generated {α : Type} {P : SignedProposal → List Peer → Prop}
    {generate : Async Unit GeneratedTX} {peers : List Peer} {msg : String}
    {rest : EndorsedTX → Async Unit α}
    (hgenerate : Coro.Ensures (fun e => ¬ Event.IsProposal e)
      (fun generatedTx _ => P generatedTx.signedProposal peers) (fun _ _ => True) generate ())
    (hrest : ∀ tx, Coro.Ensures (fun e => ¬ Event.IsProposal e) (fun _ _ => True)
      (fun _ _ => True) (rest tx) ()) :
    Coro.Ensures (Event.OnlyProposes P) (fun _ _ => True) (fun _ _ => True)
      (generate.bind fun generatedTx => (proposeTx peers generatedTx).bind fun tx =>
        (Coro.ofExcept (raiseTxProposalError tx msg)).bind fun _ => rest tx) () :=
  ensures_proposed hgenerate fun tx =>
    Coro.Ensures.bind (Coro.Ensures.ofExcept (fun _ _ => hrest tx) fun _ _ => trivial)

end Gateways

/-! ## An upgrade under two roles -/

/-- A chaincode with an argument for its initial call. -/
def counter : ChaincodeSpec where
  name := some "counter"
  version := some "2"
  args := some ["0"]

/-- Its upgrade is generated. -/
theorem exists_counter_upgrade :
    ∃ tx sends', Coro.observe plainNetwork (generateInstantiateCcTx (wireRuntime id) asciiCase
      (.listed _) ⟨_, List.reverse_perm⟩ keyedUser counter ⟨"channel"⟩ (some rolePair) true) () [] =
        (.ok tx, (), sends') := by
  have hreturns : (Coro.observe plainNetwork (generateInstantiateCcTx (wireRuntime id) asciiCase
      (.listed _) ⟨_, List.reverse_perm⟩ keyedUser counter ⟨"channel"⟩ (some rolePair) true) ()
      []).1.toOption.isSome = true := by
    decide +kernel
  obtain ⟨tx, htx⟩ := exists_ok_of_isSome hreturns
  exact ⟨tx, _, Prod.ext htx rfl⟩

/-- The upgrade runs alike with sets iterated over in the two orders. -/
theorem instantiateChaincode_congr_counter :
    Coro.observe plainNetwork (instantiateChaincode (wireRuntime id) asciiCase ⟨_, List.reverse_perm⟩
        (.listed _) keyedUser [{ endpoint := "peer" }] [] ⟨"channel"⟩ counter (some rolePair) true 30)
        () [] =
      Coro.observe plainNetwork (instantiateChaincode (wireRuntime id) asciiCase (.listed _)
        ⟨_, List.reverse_perm⟩ keyedUser [{ endpoint := "peer" }] [] ⟨"channel"⟩ counter
        (some rolePair) true 30) () [] := by
  obtain ⟨tx, sends', h⟩ := exists_counter_upgrade
  exact instantiateChaincode_congr h _ _ _ _ _

end Snakeskin
