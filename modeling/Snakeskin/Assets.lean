import Snakeskin.Administration

/-! # Assets that are read from files

The dataclasses of `models/__init__.py` read certificates and keys when they are made:
`__post_init__` of a peer or an orderer opens a gRPC channel with them, and that of a user loads a
private key. `dataclasses.replace` makes a new object, so it runs `__post_init__` again, on what was
read before.

* `ConnectedModel` — a peer or an orderer as it is configured, and the channel that it opens;
* `UserFields`, `LoadedUser` — a user as it is configured, and as it is after `__post_init__`;
* `replaceName` of both — renaming by `dataclasses.replace`. -/

namespace Snakeskin

open Wire

variable (readFile : String → Except OSError Bytes)

/-- Contents that are given, or else those of a file, if there is a path. -/
def contentsOr (contents : Option Bytes) (path : Option String) : Except OSError (Option Bytes) :=
  match given contents, givenText path with
  | none, some path => do return some (← readFile path)
  | _, _ => .ok contents

/-- What was read is not read otherwise a second time. -/
theorem contentsOr_of_contentsOr {contents contents' : Option Bytes} {path : Option String}
    (h : contentsOr readFile contents path = .ok contents') :
    contentsOr readFile contents' path = .ok contents' := by
  unfold contentsOr at h ⊢
  cases hcontents : given contents with
  | some bytes =>
      rw [hcontents] at h
      cases h
      rw [hcontents]
  | none =>
      cases hpath : givenText path with
      | none =>
          rw [hcontents, hpath] at h
          cases h
          rw [hcontents]
      | some path =>
          -- A file was read: an empty one is read again, and is the same.
          rw [hcontents, hpath] at h
          obtain ⟨bytes, hread, hbytes⟩ := bind_eq_ok.mp h
          cases hbytes
          cases given (some bytes) with
          | some _ => rfl
          | none => exact h

/-! ## Peers and orderers -/

/-- Infrastructure that is accessible via a gRPC connection. -/
structure ConnectedModel where
  endpoint : String
  sslTargetName : Option String := none
  tlsCaCertPath : Option String := none
  tlsCaCert : Option Bytes := none
  clientCertPath : Option String := none
  clientCert : Option Bytes := none
  clientKeyPath : Option String := none
  clientKey : Option Bytes := none
  name : Option String := none
  deriving DecidableEq, Repr

/-- The credentials of a secure channel. -/
inductive ChannelCredentials where
  | server (tlsCaCert : Bytes)
  | mutual (tlsCaCert clientKey clientCert : Bytes)
  deriving DecidableEq, Repr

/-- A gRPC channel; one without credentials is insecure. -/
structure GrpcChannel where
  endpoint : String
  credentials : Option ChannelCredentials
  targetNameOverride : Option String
  deriving DecidableEq, Repr

namespace ConnectedModel

/-- `__post_init__`, up to the channel. -/
def postInit (model : ConnectedModel) : Except OSError ConnectedModel := do
  let tlsCaCert ← contentsOr readFile model.tlsCaCert model.tlsCaCertPath
  let clientCert ← contentsOr readFile model.clientCert model.clientCertPath
  let clientKey ← contentsOr readFile model.clientKey model.clientKeyPath
  return { model with tlsCaCert, clientCert, clientKey }

/-- The channel that `__post_init__` opens. -/
def grpcChannel (model : ConnectedModel) : GrpcChannel where
  endpoint := model.endpoint
  credentials := (given model.tlsCaCert).map fun tlsCaCert =>
    -- Client credentials count only where both are there, and only with a CA certificate.
    match given model.clientCert, given model.clientKey with
    | some clientCert, some clientKey => .mutual tlsCaCert clientKey clientCert
    | _, _ => .server tlsCaCert
  targetNameOverride := givenText model.sslTargetName

/-- `replace(model, name=name)`. -/
def replaceName (model : ConnectedModel) (name : Option String) : Except OSError ConnectedModel :=
  postInit readFile { model with name }

/-- The peer that proposals are sent to. -/
def peer (model : ConnectedModel) : Peer where
  endpoint := model.endpoint
  clientCert := model.clientCert
  name := model.name

/-- The orderer that envelopes are broadcast to. -/
def orderer (model : ConnectedModel) : Orderer where
  endpoint := model.endpoint
  clientCert := model.clientCert
  name := model.name

/-- A model that was made. -/
def Made (model : ConnectedModel) : Prop := ∃ configured, postInit readFile configured = .ok model

variable {readFile}

/-- **Renaming a model changes its name only**: nothing fails, and nothing is read otherwise. -/
theorem Made.replaceName {model : ConnectedModel} (h : model.Made readFile) (name : Option String) :
    model.replaceName readFile name = .ok { model with name } := by
  obtain ⟨configured, h⟩ := h
  obtain ⟨tlsCaCert, hca, h⟩ := bind_eq_ok.mp h
  obtain ⟨clientCert, hcert, h⟩ := bind_eq_ok.mp h
  obtain ⟨clientKey, hkey, h⟩ := bind_eq_ok.mp h
  cases h
  rw [ConnectedModel.replaceName, postInit, contentsOr_of_contentsOr readFile hca, ok_bind,
    contentsOr_of_contentsOr readFile hcert, ok_bind, contentsOr_of_contentsOr readFile hkey]
  rfl

/-- A renamed model opens the same channel. -/
theorem Made.grpcChannel_of_replaceName {model model' : ConnectedModel} {name : Option String}
    (h : model.Made readFile) (hrenamed : model.replaceName readFile name = .ok model') :
    model'.grpcChannel = model.grpcChannel := by
  rw [h.replaceName] at hrenamed
  cases hrenamed
  rfl

/-- A renamed model is made. -/
theorem Made.of_replaceName {model model' : ConnectedModel} {name : Option String}
    (h : model.replaceName readFile name = .ok model') : model'.Made readFile := ⟨_, h⟩

end ConnectedModel

/-! ## Users -/

/-- A user as it is configured. -/
structure UserFields where
  mspId : String
  name : Option String := none
  certPath : Option String := none
  keyPath : Option String := none
  cert : Option Bytes := none
  key : Option Bytes := none
  deriving DecidableEq, Repr

/-- A user after `__post_init__`, with the crypto suite of all users. -/
structure LoadedUser (suite : CryptoSuite) where
  mspId : String
  name : Option String
  certPath : Option String
  keyPath : Option String
  cert : Bytes
  key : Bytes
  privateKey : suite.PrivateKey

/-- Contents that are given, or else those of a file; one of them has to be given. -/
def requiredContents (contents : Option Bytes) (path : Option String) (msg : String) :
    Except FileExc Bytes :=
  match given contents, givenText path with
  | some contents, _ => .ok contents
  | none, some path => (readFile path).mapError Sum.inl
  | none, none => .error (.inr (.valueError msg))

variable {suite : CryptoSuite} (loadPemPrivateKey : Bytes → Except Exc suite.PrivateKey)

/-- `__post_init__` of a user. -/
def UserFields.load (fields : UserFields) : Except FileExc (LoadedUser suite) := do
  let cert ← requiredContents readFile fields.cert fields.certPath
    "Must provide either cert or cert_path"
  let key ← requiredContents readFile fields.key fields.keyPath
    "Must provide either key or key_path"
  let privateKey ← (loadPemPrivateKey key).mapError Sum.inr
  return {
    mspId := fields.mspId, name := fields.name, certPath := fields.certPath
    keyPath := fields.keyPath, cert, key, privateKey }

namespace LoadedUser

/-- The fields that `replace` hands on. -/
def fields (user : LoadedUser suite) : UserFields where
  mspId := user.mspId
  name := user.name
  certPath := user.certPath
  keyPath := user.keyPath
  cert := some user.cert
  key := some user.key

/-- `replace(user, name=name)`. -/
def replaceName (user : LoadedUser suite) (name : Option String) :
    Except FileExc (LoadedUser suite) :=
  UserFields.load readFile loadPemPrivateKey { user.fields with name }

/-- The user on whose behalf messages are signed. -/
def user (user : LoadedUser suite) : User where
  mspId := user.mspId
  cert := user.cert
  cryptoSuite := suite
  privateKey := user.privateKey

/-- A user that was made. -/
def Made (user : LoadedUser suite) : Prop :=
  ∃ configured, UserFields.load readFile loadPemPrivateKey configured = .ok user

end LoadedUser

/-- What was required is not read otherwise a second time. -/
theorem requiredContents_of_requiredContents {contents : Option Bytes} {path : Option String}
    {msg : String} {bytes : Bytes} (h : requiredContents readFile contents path msg = .ok bytes) :
    requiredContents readFile (some bytes) path msg = .ok bytes := by
  unfold requiredContents at h ⊢
  by_cases hbytes : bytes = []
  · -- Nothing was given, or nothing was in the file, which is read again.
    subst hbytes
    have hnone : given (some []) = none := rfl
    rw [hnone]
    cases hcontents : given contents with
    | some found =>
        rw [hcontents] at h
        cases h
        have hne := Option.filter_eq_some_iff.mp hcontents
        simp at hne
    | none =>
        rw [hcontents] at h
        exact h
  · have hsome : given (some bytes) = some bytes := by
      rw [given, Option.filter_some, decide_eq_true hbytes]
      rfl
    rw [hsome]

variable {readFile loadPemPrivateKey}

/-- **Renaming a user changes its name only**: nothing fails, and nothing is read otherwise. -/
theorem LoadedUser.Made.replaceName {user : LoadedUser suite}
    (h : user.Made readFile loadPemPrivateKey) (name : Option String) :
    user.replaceName readFile loadPemPrivateKey name = .ok { user with name } := by
  obtain ⟨configured, h⟩ := h
  obtain ⟨cert, hcert, h⟩ := bind_eq_ok.mp h
  obtain ⟨key, hkey, h⟩ := bind_eq_ok.mp h
  obtain ⟨privateKey, hprivate, h⟩ := bind_eq_ok.mp h
  cases h
  rw [LoadedUser.replaceName, UserFields.load, LoadedUser.fields]
  dsimp only
  rw [requiredContents_of_requiredContents readFile hcert, ok_bind,
    requiredContents_of_requiredContents readFile hkey, ok_bind, hprivate]
  rfl

end Snakeskin
