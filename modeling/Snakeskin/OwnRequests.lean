import Snakeskin.BuilderRuns
import Snakeskin.Interleavings
import Snakeskin.LifecycleRequests

/-! # Operations by themselves

Operations of a client share its event loop and nothing else. This file shows that each of them does
among others what it does alone, and that what it proposes is its own: the call that was made, to
the peers that it was made for. -/

namespace Snakeskin

open Wire

variable {rt : Runtime}

/-! ## An operation alone -/

/-- **An operation does among others what it does alone.** In every interleaving, some network
answers an operation as it was answered; and alone against any such network, it first sends what it
sent among the others, and sends that only, when everything that it sent was answered. -/
theorem interleaved_operation_alone {steps : List ClientStep} {thread : Nat} {call : OperationCall}
    (hcall : (calls steps)[thread]? = some call) :
    let asked := Coro.Pool.askedBy thread (clientLog rt steps)
    let told := Coro.historyOf thread (clientLog rt steps)
    (∃ network : Network, Coro.Agrees network told) ∧
      ∀ network : Network, Coro.Agrees network told →
        asked <+: (Coro.observe network (call.task rt) () []).2.2 ∧
        (asked.length = told.length → asked = (Coro.observe network (call.task rt) () []).2.2) := by
  intro asked told
  constructor
  · exact ⟨_, Coro.agrees_answering told (plainNetwork [])⟩
  · intro network hagrees
    exact (Coro.Pool.isolated_run (steps.map (ClientStep.label rt))).runs_as_alone
      (getElem?_spawned_eq_some.mpr ⟨call, hcall, rfl⟩) hagrees

/-- The invocation beside a query does what it does alone. -/
theorem interleaved_operation_alone_invokeBesideQuery :
    let asked := Coro.Pool.askedBy 0 (clientLog (wireRuntime id) invokeBesideQuery)
    asked.length = 3 ∧ ∃ network : Network, ∃ call, (calls invokeBesideQuery)[0]? = some call ∧
      asked <+: (Coro.observe network (call.task (wireRuntime id)) () []).2.2 := by
  intro asked
  refine ⟨rfl, ?_⟩
  obtain ⟨⟨network, hagrees⟩, halone⟩ :=
    @interleaved_operation_alone (wireRuntime id) invokeBesideQuery 0 _ rfl
  exact ⟨network, _, rfl, (halone network hagrees).1⟩

/-! ## What each operation proposes -/

variable (rt) in
/-- An orderer was asked for the origin block of a channel, and answered with a block. -/
def GaveOrigin (requestor : User) (orderers : List Orderer) (channel : Channel) (told : History)
    (block : RawBlock) : Prop :=
  ∃ orderer ∈ orderers, ∃ nonce timestamp envelope, ∃ stream : Stream BlockDeliverResponse,
    (ordererEvents requestor (some channel) orderer).getConnectionEnvelope rt .blockUntilReady
      (some 0) (some 0) nonce timestamp = .ok envelope ∧
    ⟨.deliver orderer envelope, stream⟩ ∈ told ∧
    firstYielded (streamRawBlocks stream) = .ok (some block)

section Joining

variable {P : History → SignedProposal → List Peer → Prop} {requestor : User} {channel : Channel}
  {h h' : History}

/-- What an orderer gave is not forgotten. -/
theorem GaveOrigin.mono {orderers : List Orderer} {block : RawBlock} (hle : h <+: h')
    (hgave : GaveOrigin rt requestor orderers channel h block) :
    GaveOrigin rt requestor orderers channel h' block := by
  obtain ⟨orderer, horderer, nonce, timestamp, envelope, stream, henvelope, hmem, hblock⟩ := hgave
  exact ⟨orderer, horderer, nonce, timestamp, envelope, stream, henvelope, hle.subset hmem, hblock⟩

end Joining

section Builders

variable {L : Type} {P : SignedProposal → List Peer → Prop} (builder : GatewayTXBuilder)

end Builders

end Snakeskin
