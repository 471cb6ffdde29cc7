import Snakeskin.Policies
import Snakeskin.Transact

/-! # Deploying chaincode

The transactions that install, instantiate and upgrade a chaincode are invocations of the system
chaincode `lscc`: `build_cc_deployment_spec` of `factories.py` makes the message that describes the
chaincode, and `generate_instantiate_cc_tx` of `transact.py` the transaction that instantiates it
under an endorsement policy. -/

namespace Snakeskin

open Wire

/-! ## Constants -/

/-- Chaincode proposal types. -/
inductive ChaincodeProposalType where
  | install
  | instantiate
  | invoke
  | upgrade
  | query
  deriving DecidableEq, Repr

/-- The function of `lscc` for a proposal type. -/
def ChaincodeProposalType.value : ChaincodeProposalType → String
  | .install => "install"
  | .instantiate => "deploy"
  | .invoke => "invoke"
  | .upgrade => "upgrade"
  | .query => "query"

/-- `ChaincodeSpecProto.Type.Value(language.value)`. -/
def ChaincodeLanguage.number : ChaincodeLanguage → Int32
  | .golang => ChaincodeSpecProto.GOLANG
  | .java => ChaincodeSpecProto.JAVA
  | .node => ChaincodeSpecProto.NODE

/-! ## Deployment specs -/

/-- An optional string that Python takes as false when it is missing or empty. -/
def givenText (s : Option String) : Option String := s.filter (· ≠ "")

/-- A text that is missing and one that is empty read alike. -/
theorem getD_givenText (s : Option String) : (givenText s).getD "" = s.getD "" := by
  cases s with
  | none => rfl
  | some s =>
      by_cases hs : s = ""
      · subst hs
        rfl
      · rw [givenText, Option.filter_some, decide_eq_true hs, if_pos rfl]

/-- A text is given when it is there and not empty. -/
theorem givenText_eq_some {s : Option String} {text : String} :
    givenText s = some text ↔ s = some text ∧ text ≠ "" := by
  simp [givenText, Option.filter_eq_some_iff]

/-- Builds out a `ChaincodeDeploymentSpec`. -/
def buildCcDeploymentSpec (name : String) (language : ChaincodeLanguage)
    (fcn version path : Option String) (codePackage : Option Bytes) (args : Option (List String)) :
    Except Exc ChaincodeDeploymentSpec := do
  let fcnArg ← (givenText fcn).toList.mapM encodeProtoBytes
  let otherArgs ← (args.getD []).mapM encodeProtoBytes
  let inputArgs := fcnArg ++ otherArgs
  let ccId : ChaincodeID := {
    name, version := (givenText version).getD "", path := (givenText path).getD "" }
  let ccSpec : ChaincodeSpecProto := {
    chaincodeId := some ccId
    type := language.number
    input := if inputArgs = [] then none else some { args := inputArgs } }
  return { chaincodeSpec := some ccSpec, codePackage := (given codePackage).getD [] }

/-! ## Instantiation -/

variable (rt : Runtime) (case : CaseMapping) (order order' : SetOrder EndorsementPolicyRole)

/-- The serialised signature policy of an endorsement policy, if there is one. -/
def instantiatePolicy : Option EndorsementPolicy → Except Exc (Option Bytes)
  | none => .ok none
  | some policy => do
      let sigPolicyEnv ← buildSignaturePolicyEnvelope rt case order order' policy
      return some (rt.serializeToString sigPolicyEnv)

/-- The arguments of `lscc` for an instantiate or upgrade transaction. -/
def instantiateArgs (ccSpec : ChaincodeSpec) (channel : Channel)
    (endorsementPolicy : Option EndorsementPolicy) (upgrade : Bool) : Except Exc (List Bytes) := do
  let proposalType := if upgrade then ChaincodeProposalType.upgrade else .instantiate
  let policy ← instantiatePolicy rt case order order' endorsementPolicy
  -- The policy is compiled first, so a policy that is refused is reported before a missing name.
  match givenText ccSpec.name with
  | none => throw (.valueError "Must specify chaincode name")
  | some name =>
      let ccDeploySpec ←
        buildCcDeploymentSpec name ccSpec.language (some "init") ccSpec.version none none ccSpec.args
      let function ← encodeProtoBytes proposalType.value
      let channelName ← encodeProtoBytes channel.name
      let escc ← encodeProtoBytes "escc"
      let vscc ← encodeProtoBytes "vscc"
      return [function, channelName, rt.serializeToString ccDeploySpec, (given policy).getD [],
        escc, vscc]

/-- Generates an instantiate/upgrade transaction. -/
def generateInstantiateCcTx (requestor : User) (ccSpec : ChaincodeSpec) (channel : Channel)
    (endorsementPolicy : Option EndorsementPolicy) (upgrade : Bool) : Async Unit GeneratedTX := do
  let args ← Coro.ofExcept
    (instantiateArgs rt case order order' ccSpec channel endorsementPolicy upgrade)
  let (nonce, timestamp) : Bytes × Timestamp ← Coro.request Request.entropy
  Coro.ofExcept (buildGeneratedTx rt requestor "lscc" args (some channel) none nonce timestamp)

end Snakeskin
