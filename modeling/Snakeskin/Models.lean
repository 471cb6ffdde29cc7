import Snakeskin.Protos.Msp
import Snakeskin.Protos.Peer

/-! # Models

The enumerations of `constants.py` and the model classes of `models/__init__.py` and
`models/transaction.py`: users, peers, orderers, channels, chaincode specifications, and a
transaction at the stages of its life. -/

namespace Snakeskin

open Wire

/-! ## Constants -/

/-- Types for decoded block data. -/
inductive TransactionType where
  | message
  | config
  | configUpdate
  | endorserTransaction
  | ordererTransaction
  | deliverSeekInfo
  | chaincodePackage
  | peerAdminOperation
  | tokenTransaction
  deriving DecidableEq, Repr

/-- The number of a transaction type. -/
def TransactionType.value : TransactionType → Int32
  | .message => 0
  | .config => 1
  | .configUpdate => 2
  | .endorserTransaction => 3
  | .ordererTransaction => 4
  | .deliverSeekInfo => 5
  | .chaincodePackage => 6
  | .peerAdminOperation => 8
  | .tokenTransaction => 9

/-- `TransactionType(value)`: the member with that number. -/
def TransactionType.ofValue? (n : Int32) : Option TransactionType :=
  if n = 0 then some .message
  else if n = 1 then some .config
  else if n = 2 then some .configUpdate
  else if n = 3 then some .endorserTransaction
  else if n = 4 then some .ordererTransaction
  else if n = 5 then some .deliverSeekInfo
  else if n = 6 then some .chaincodePackage
  else if n = 8 then some .peerAdminOperation
  else if n = 9 then some .tokenTransaction
  else none

/-- Every declared type is found under its own number. -/
@[simp] theorem TransactionType.ofValue?_value (t : TransactionType) : ofValue? t.value = some t := by
  cases t <;> rfl

/-- A strategy for pulling blocks from the peer. -/
inductive SeekBehavior where
  /-- Wait until the next block is ready. -/
  | blockUntilReady
  /-- Fail out if the next block is not ready. -/
  | failIfNotReady
  deriving DecidableEq, Repr

/-- Available chaincode languages. -/
inductive ChaincodeLanguage where
  | golang
  | java
  | node
  deriving DecidableEq, Repr

/-- `sys.maxsize`. -/
def INDEFINITE_STOP_POSITION : Int := 2 ^ 63 - 1

/-! ## Assets -/

/-- A crypto suite: a hash, signatures, and the public key of a private key. -/
structure CryptoSuite where
  PrivateKey : Type
  PublicKey : Type
  publicKey : PrivateKey → PublicKey
  hash : Bytes → Bytes
  sign : PrivateKey → Bytes → Bytes
  verify : PublicKey → Bytes → Bytes → Bool

/-- A signature made with a private key verifies under its public key. -/
def CryptoSuite.Correct (suite : CryptoSuite) : Prop :=
  ∀ key data, suite.verify (suite.publicKey key) data (suite.sign key data) = true

/-- A Hyperledger Fabric user. -/
structure User where
  mspId : String
  cert : Bytes
  cryptoSuite : CryptoSuite
  privateKey : cryptoSuite.PrivateKey

/-- A crypto suite to evaluate the model with: the key is public, and the signature of a message is
the message under the key. -/
def keyedSuite : CryptoSuite where
  PrivateKey := Bytes
  PublicKey := Bytes
  publicKey key := key
  hash data := data
  sign key data := key ++ data
  verify key data signature := signature = key ++ data

theorem keyedSuite_correct : keyedSuite.Correct := fun _ _ => decide_eq_true rfl

/-- A user of the keyed suite. -/
def keyedUser : User where
  mspId := "Org1MSP"
  cert := [1, 2, 3]
  cryptoSuite := keyedSuite
  privateKey := ([7] : Bytes)

/-- A Hyperledger Fabric peer. -/
structure Peer where
  endpoint : String
  clientCert : Option Bytes := none
  name : Option String := none
  deriving DecidableEq, Repr

/-- A Hyperledger Fabric orderer. -/
structure Orderer where
  endpoint : String
  clientCert : Option Bytes := none
  name : Option String := none
  deriving DecidableEq, Repr

/-- A Hyperledger Fabric channel. -/
structure Channel where
  name : String
  deriving DecidableEq, Repr

/-- Metadata about a chaincode package. -/
structure ChaincodeSpec where
  name : Option String := none
  version : Option String := none
  language : ChaincodeLanguage := .golang
  path : Option String := none
  args : Option (List String) := none
  deriving DecidableEq, Repr

/-! ## Transactions -/

/-- Contextual information about a transaction. -/
structure TXContext where
  identity : SerializedIdentity
  nonce : Bytes
  txId : String
  epoch : UInt64 := 0
  deriving DecidableEq

/-- A transaction that has been generated but not yet sent for endorsement. -/
structure GeneratedTX where
  /-- The transaction context used to generate this proposal. -/
  txContext : TXContext
  /-- The unsigned full proposal (without any transient data). -/
  proposal : Proposal
  /-- The signed proposal which will be sent to peers for endorsement. -/
  signedProposal : SignedProposal
  /-- The transaction header. -/
  header : Header
  deriving DecidableEq

/-- The unique identifier of a generated transaction. -/
def GeneratedTX.txId (tx : GeneratedTX) : String := tx.txContext.txId

/-- A transaction that has been sent out for proposal to peers, and returned with endorsements. -/
structure EndorsedTX where
  peerResponses : List ProposalResponse
  proposal : Proposal
  header : Header
  txContext : TXContext
  deriving DecidableEq

/-- The unique identifier of an endorsed transaction. -/
def EndorsedTX.txId (tx : EndorsedTX) : String := tx.txContext.txId

/-- All peer responses with an endorsement failure. -/
def EndorsedTX.errorResponses (tx : EndorsedTX) : List ProposalResponse :=
  tx.peerResponses.filter fun r => r.response.status ≠ 200

/-- Whether all peers successfully endorsed the response. -/
def EndorsedTX.fullyEndorsed (tx : EndorsedTX) : Bool :=
  tx.peerResponses.all fun r => r.response.status = 200

/-- A transaction is fully endorsed when none of its responses is an error. -/
theorem EndorsedTX.fullyEndorsed_iff (tx : EndorsedTX) :
    tx.fullyEndorsed = true ↔ ∀ r ∈ tx.peerResponses, r.response.status = 200 := by
  simp [EndorsedTX.fullyEndorsed]

end Snakeskin
