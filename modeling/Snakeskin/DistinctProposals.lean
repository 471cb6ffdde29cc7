import Snakeskin.Interleavings
import Snakeskin.SignedMessages

/-! # Distinct proposals

A transaction is known by its id, the hex hash of its nonce and its creator. No two proposals of a
client share a nonce that was drawn only once, however its operations are interleaved; so they
share an id only where the hash collides on what the client hashed. -/

namespace Snakeskin

open Wire

variable {rt : Runtime}

/-! ## Transaction ids -/

variable (rt) in
/-- The transaction id in a signed proposal, as its reader finds it in the channel header. -/
def SignedProposal.txId (signed : SignedProposal) : Option String := do
  let proposal ← rt.fromString Proposal signed.proposalBytes
  let header ← rt.fromString Header proposal.header
  let channelHeader ← rt.fromString ChannelHeader header.channelHeader
  return channelHeader.txId

end Snakeskin
