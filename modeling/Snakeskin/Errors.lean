import Snakeskin.Protos.Orderer
import Snakeskin.Library.Lists
import Snakeskin.Models

/-! # Exceptions

The exceptions that the modelled code raises or lets through: those of `errors.py`, and those of
Python and of the libraries it calls. -/

namespace Snakeskin

/-- A `grpc.RpcError` with its code and details. -/
structure RpcError where
  code : Int
  details : String
  deriving DecidableEq, Repr

/-- An exception. -/
inductive Exc where
  /-- `ValueError`. -/
  | valueError (msg : String)
  /-- `KeyError`. -/
  | keyError (msg : String)
  /-- `IndexError`. -/
  | indexError (msg : String)
  /-- `AttributeError`. -/
  | attributeError (msg : String)
  /-- `RuntimeError`. -/
  | runtimeError (msg : String)
  /-- `UnicodeEncodeError`, a `ValueError`. -/
  | unicodeEncodeError
  /-- `UnicodeDecodeError`, a `ValueError`. -/
  | unicodeDecodeError
  /-- `binascii.Error`, a `ValueError`. -/
  | binasciiError
  /-- `google.protobuf.message.DecodeError`. -/
  | decodeError
  /-- `asyncio.CancelledError`. -/
  | cancelledError
  /-- `asyncio.TimeoutError`. -/
  | timeoutError
  /-- Generic blockchain exception. -/
  | blockchainError (msg : String)
  /-- A failure when broadcasting a transaction to the orderer. -/
  | trasactionCommitError (msg : String) (txId : String) (response : BroadcastResponse)
  /-- A failure in generating a proposal on a peer. -/
  | transactionProposalError (msg : String) (transaction : EndorsedTX)
  /-- A failure when delivering a block. -/
  | blockRetrievalError (msg : String) (status : Option Int32)
  /-- A blockchain connection error; also a `ConnectionError`. -/
  | blockchainConnectionError (code : Int) (details : String)
  /-- A transaction that failed to commit to the blockchain. -/
  | transactionValidationError (code : Int32)
  deriving DecidableEq

/-- Whether an exception is a `ConnectionError` or a `BlockRetrievalError`: what the failover loop
of the commit wait catches. -/
def Exc.isStreamFailure : Exc → Bool
  | .blockRetrievalError _ _ => true
  | .blockchainConnectionError _ _ => true
  | _ => false

/-- Whether an exception is one of Python or of a library, not of `errors.py`. -/
def Exc.isBuiltin : Exc → Bool
  | .blockchainError _ => false
  | .trasactionCommitError _ _ _ => false
  | .transactionProposalError _ _ => false
  | .blockRetrievalError _ _ => false
  | .blockchainConnectionError _ _ => false
  | .transactionValidationError _ => false
  | _ => true

/-- Such an exception is not that of a stream. -/
theorem Exc.isStreamFailure_of_isBuiltin {e : Exc} (h : e.isBuiltin = true) :
    e.isStreamFailure = false := by
  cases e <;> first | rfl | cases h

/-- A computation that raises no exception of `errors.py`. -/
def RaisesBuiltin {α : Type} (x : Except Exc α) : Prop := ∀ e, x = .error e → e.isBuiltin = true

/-- A value is no exception. -/
theorem raisesBuiltin_ok {α : Type} (a : α) : RaisesBuiltin (.ok a) := by
  intro e h
  cases h

/-- A sequence raises where one of its parts does. -/
theorem RaisesBuiltin.bind {α β : Type} {x : Except Exc α} {f : α → Except Exc β}
    (hx : RaisesBuiltin x) (hf : ∀ a, RaisesBuiltin (f a)) : RaisesBuiltin (x >>= f) := by
  intro e h
  cases x with
  | error _ =>
      cases h
      exact hx e rfl
  | ok a => exact hf a e h

/-- The numbers declared in `TxValidationCode`. -/
def declaredValidationCodes : List Int32 :=
  [0, 1, 2, 3, 4, 5, 6, 7, 8, 9, 10, 11, 12, 13, 14, 15, 16, 17, 18, 19, 20, 21, 22, 23, 24,
    254, 255]

/-- Constructing a `TransactionValidationError` looks up the name of its code for the message, and
raises `ValueError` for a code without one. -/
def mkTransactionValidationError (code : Int32) : Exc :=
  if code ∈ declaredValidationCodes then .transactionValidationError code
  else .valueError "Enum TxValidationCode has no name defined for value"

/-- A fallible sequence returns where both its parts do. -/
theorem bind_eq_ok {ε α β : Type} {x : Except ε α} {f : α → Except ε β} {b : β} :
    (x >>= f) = .ok b ↔ ∃ a, x = .ok a ∧ f a = .ok b := by
  constructor
  · intro h
    cases x with
    | ok a => exact ⟨a, rfl, h⟩
    | error e => cases h
  · rintro ⟨a, rfl, h⟩
    exact h

/-- A fallible sequence whose first part returns goes on with the second. -/
theorem ok_bind {ε α β : Type} (a : α) (f : α → Except ε β) : (Except.ok a >>= f) = f a := rfl

/-- A fallible computation that has a value returns it. -/
theorem exists_ok_of_isSome {ε α : Type} {x : Except ε α} (h : x.toOption.isSome = true) :
    ∃ a, x = .ok a := by
  cases x with
  | ok a => exact ⟨a, rfl⟩
  | error e => cases h

/-- What has a value under a function has a result. -/
theorem exists_ok_of_map_eq_some {ε α β : Type} {x : Except ε α} {f : α → β} {b : β}
    (h : x.toOption.map f = some b) : ∃ a, x = .ok a ∧ f a = b := by
  cases x with
  | ok a => exact ⟨a, rfl, Option.some.inj h⟩
  | error e => cases h

/-- What is undone element by element is undone for a list. -/
theorem mapM_map_eq_ok {α β : Type} {f : β → Except Exc α} {g : α → β} {as : List α}
    (h : ∀ a ∈ as, f (g a) = .ok a) : (as.map g).mapM f = .ok as := by
  induction as with
  | nil => rfl
  | cons a as ih =>
      rw [List.map_cons, List.mapM_cons, h a List.mem_cons_self,
        ih fun a' hmem => h a' (List.mem_cons_of_mem _ hmem)]
      rfl

/-- A mapping over a list that returns has mapped each element, in order. -/
theorem forall₂_of_mapM {α β : Type} {f : α → Except Exc β} {as : List α} {bs : List β}
    (h : as.mapM f = .ok bs) : List.Forall₂ (fun a b => f a = .ok b) as bs := by
  induction as generalizing bs with
  | nil =>
      cases h
      exact .nil
  | cons a as ih =>
      rw [List.mapM_cons] at h
      obtain ⟨b, hb, h⟩ := bind_eq_ok.mp h
      obtain ⟨rest, hrest, h⟩ := bind_eq_ok.mp h
      cases h
      exact .cons hb (ih hrest)

/-- A fallible sequence raises where its first part raises, or where that returns and its second
part raises. -/
theorem bind_eq_error {α β : Type} {x : Except Exc α} {f : α → Except Exc β} {e : Exc} :
    (x >>= f) = .error e ↔ x = .error e ∨ ∃ a, x = .ok a ∧ f a = .error e := by
  cases x with
  | ok a =>
      refine ⟨fun h => .inr ⟨a, rfl, h⟩, ?_⟩
      rintro (h | ⟨_, ⟨⟩, h⟩)
      · cases h
      · exact h
  | error e' =>
      -- The second part is skipped, so the whole raises what the first part does.
      constructor
      · rintro ⟨⟩
        exact .inl rfl
      · rintro (⟨⟨⟩⟩ | ⟨_, ⟨⟩, -⟩)
        rfl

/-- A mapping over a list that raises has raised at an element. -/
theorem exists_of_mapM_eq_error {α β : Type} {f : α → Except Exc β} {as : List α} {e : Exc}
    (h : as.mapM f = .error e) : ∃ a ∈ as, f a = .error e := by
  induction as with
  | nil => cases h
  | cons a as ih =>
      rw [List.mapM_cons] at h
      obtain h | ⟨b, -, h⟩ := bind_eq_error.mp h
      · exact ⟨a, List.mem_cons_self, h⟩
      · obtain h | ⟨bs, -, h⟩ := bind_eq_error.mp h
        · obtain ⟨a', hmem, ha'⟩ := ih h
          exact ⟨a', List.mem_cons_of_mem _ hmem, ha'⟩
        · cases h

/-- A mapping over a list returns when it returns for each element. -/
theorem exists_mapM_ok_iff {α β : Type} {f : α → Except Exc β} {as : List α} :
    (∃ bs, as.mapM f = .ok bs) ↔ ∀ a ∈ as, ∃ b, f a = .ok b := by
  induction as with
  | nil => exact ⟨fun _ _ h => (by cases h), fun _ => ⟨[], rfl⟩⟩
  | cons a as ih =>
      rw [List.forall_mem_cons, ← ih]
      constructor
      · rintro ⟨bs, h⟩
        rw [List.mapM_cons] at h
        obtain ⟨b, hb, h⟩ := bind_eq_ok.mp h
        obtain ⟨rest, hrest, -⟩ := bind_eq_ok.mp h
        exact ⟨⟨b, hb⟩, rest, hrest⟩
      · rintro ⟨⟨b, hb⟩, rest, hrest⟩
        refine ⟨b :: rest, ?_⟩
        rw [List.mapM_cons, hb, ok_bind, hrest]
        rfl

/-- A mapping over a list by a function that returns where a condition holds, and what it
returns. -/
theorem mapM_eq_ok_iff {α β : Type} {f : α → Except Exc β} {p : α → Prop} {g : α → β}
    (hf : ∀ a b, f a = .ok b ↔ p a ∧ g a = b) {as : List α} {bs : List β} :
    as.mapM f = .ok bs ↔ (∀ a ∈ as, p a) ∧ as.map g = bs := by
  constructor
  · intro h
    have hpairs := forall₂_of_mapM h
    clear h
    induction hpairs with
    | nil => simp
    | cons hhead _ ih =>
        obtain ⟨hp, rfl⟩ := (hf _ _).mp hhead
        exact ⟨List.forall_mem_cons.mpr ⟨hp, ih.1⟩, by rw [List.map_cons, ih.2]⟩
  · rintro ⟨hp, rfl⟩
    induction as with
    | nil => rfl
    | cons a as ih =>
        rw [List.forall_mem_cons] at hp
        rw [List.mapM_cons, (hf a (g a)).mpr ⟨hp.1, rfl⟩, ok_bind, ih hp.2]
        rfl

/-- `handle_conn_errors`: a gRPC error becomes a blockchain connection error. -/
def RpcError.toExc (e : RpcError) : Exc := .blockchainConnectionError e.code e.details

end Snakeskin
