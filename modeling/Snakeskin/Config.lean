import Snakeskin.Assets
import Snakeskin.CallerText
import Snakeskin.Gateway

/-! # Blockchain configurations

The configurations of `config.py`: named peers, orderers, users and chaincodes, and the gateways
that refer to them. A configuration first names its entities by their keys; a gateway is then made
by resolving its references, and the first that is not defined is reported. -/

namespace Snakeskin

open Wire

/-! ## The model -/

/-- A gateway config object. -/
structure GatewayConfig where
  channel : String
  requestor : String
  endorsingPeers : List String := []
  orderers : List String := []
  chaincode : Option String := none
  deriving DecidableEq, Repr

/-- A mapping from names, in the order of its items. -/
abbrev Entities (α : Type) := List (String × α)

/-- A blockchain configuration; users have the crypto suite of all users. -/
structure BlockchainConfig (suite : CryptoSuite) where
  peers : Entities ConnectedModel := []
  orderers : Entities ConnectedModel := []
  users : Entities (LoadedUser suite) := []
  chaincodes : Entities ChaincodeSpec := []
  gateways : Entities GatewayConfig := []

/-- `entity.name or name`. -/
def nameOr (given : Option String) (name : String) : Option String :=
  some ((givenText given).getD name)

/-- `{name: replace(entity, name=entity.name or name) for name, entity in entities.items()}`. -/
def nameEntities {α : Type} (nameOf : α → Option String)
    (replaceName : α → Option String → Except FileExc α) (entities : Entities α) :
    Except FileExc (Entities α) :=
  entities.mapM fun item => do
    let entity ← replaceName item.2 (nameOr (nameOf item.2) item.1)
    return (item.1, entity)

namespace BlockchainConfig

variable {suite : CryptoSuite} (readFile : String → Except OSError Bytes)
  (loadPemPrivateKey : Bytes → Except Exc suite.PrivateKey)

/-- `__post_init__`: sets names to be the mapping key for all entities that weren't provided
names. -/
def postInit (config : BlockchainConfig suite) : Except FileExc (BlockchainConfig suite) := do
  let peers ← nameEntities (·.name)
    (fun peer name => (peer.replaceName readFile name).mapError Sum.inl) config.peers
  let orderers ← nameEntities (·.name)
    (fun orderer name => (orderer.replaceName readFile name).mapError Sum.inl) config.orderers
  let users ← nameEntities (·.name)
    (fun user name => user.replaceName readFile loadPemPrivateKey name) config.users
  let chaincodes ← nameEntities (·.name) (fun spec name => .ok { spec with name }) config.chaincodes
  return { config with peers, orderers, users, chaincodes }

/-- Gets an entity of a kind using the config name. -/
def getEntity {α : Type} (kind : String) (entities : Entities α) (name : String) : Except Exc α :=
  match entities.lookup name with
  | some entity => .ok entity
  | none => .error (.keyError ("No " ++ kind ++ " defined with name \"" ++ name ++ "\""))

variable (config : BlockchainConfig suite)

/-- Gets a peer using the config name. -/
def getPeer (name : String) : Except Exc ConnectedModel := getEntity "peer" config.peers name

/-- Gets an orderer using the config name. -/
def getOrderer (name : String) : Except Exc ConnectedModel :=
  getEntity "orderer" config.orderers name

/-- Gets a user using the config name. -/
def getUser (name : String) : Except Exc (LoadedUser suite) := getEntity "user" config.users name

/-- Gets a chaincode spec using the config name. -/
def getChaincode (name : String) : Except Exc ChaincodeSpec :=
  getEntity "chaincode" config.chaincodes name

/-- What the references of a gateway config are resolved to. -/
structure Resolved (suite : CryptoSuite) where
  endorsingPeers : List ConnectedModel
  chaincode : Option ChaincodeSpec
  requestor : LoadedUser suite
  orderers : List ConnectedModel
  channel : Channel

/-- Resolves the references of a gateway config, in the order of the arguments of `Gateway`. -/
def resolve (gatewayConfig : GatewayConfig) : Except Exc (Resolved suite) := do
  let endorsingPeers ← gatewayConfig.endorsingPeers.mapM config.getPeer
  let chaincode ← (givenText gatewayConfig.chaincode).mapM config.getChaincode
  let requestor ← config.getUser gatewayConfig.requestor
  let orderers ← gatewayConfig.orderers.mapM config.getOrderer
  return { endorsingPeers, chaincode, requestor, orderers, channel := ⟨gatewayConfig.channel⟩ }

/-- The gateway that is made of them. -/
def Resolved.gateway (resolved : Resolved suite) : Gateway where
  endorsingPeers := resolved.endorsingPeers.map (·.peer)
  orderers := resolved.orderers.map (·.orderer)
  channel := some resolved.channel
  requestor := some resolved.requestor.user
  chaincode := resolved.chaincode

/-- Gets a gateway using the config name. -/
def getGateway (name : String) : Except Exc Gateway :=
  match getEntity "gateway" config.gateways name >>= config.resolve with
  | .ok resolved => .ok resolved.gateway
  | .error e => .error e

end BlockchainConfig

/-! ## What is raised -/

/-- The exception that a computation raises, if it does. -/
def raisedBy {ε α : Type} : Except ε α → Option ε
  | .error e => some e
  | .ok _ => none

/-- A traversal raises what the first of its elements that raises does, by induction on the list. -/
theorem raisedBy_mapM {ε α β : Type} (f : α → Except ε β) (as : List α) :
    raisedBy (as.mapM f) = as.findSome? fun a => raisedBy (f a) := by
  induction as with
  | nil => rfl
  | cons a as ih =>
      rw [List.mapM_cons, List.findSome?_cons, ← ih]
      cases f a with
      | error e => rfl
      | ok b => cases as.mapM f <;> rfl

/-- Where the rest raises the same whatever the first part returns. -/
theorem raisedBy_bind_of_forall {ε α β : Type} {x : Except ε α} {f : α → Except ε β} {r : Option ε}
    (h : ∀ a, raisedBy (f a) = r) : raisedBy (x >>= f) = (raisedBy x).or r := by
  cases x with
  | error e => rfl
  | ok a => exact h a

/-! ## Resolving references -/

/-- A reference of a gateway config. -/
inductive Reference where
  | peer (name : String)
  | chaincode (name : String)
  | user (name : String)
  | orderer (name : String)
  deriving DecidableEq, Repr

/-- The references of a gateway config, in the order in which they are resolved. -/
def GatewayConfig.references (gatewayConfig : GatewayConfig) : List Reference :=
  gatewayConfig.endorsingPeers.map .peer ++
    ((givenText gatewayConfig.chaincode).toList.map .chaincode ++
      .user gatewayConfig.requestor :: gatewayConfig.orderers.map .orderer)

/-- What is raised for a reference that is not defined. -/
def Reference.undefinedError : Reference → Exc
  | .peer name => .keyError ("No peer defined with name \"" ++ name ++ "\"")
  | .chaincode name => .keyError ("No chaincode defined with name \"" ++ name ++ "\"")
  | .user name => .keyError ("No user defined with name \"" ++ name ++ "\"")
  | .orderer name => .keyError ("No orderer defined with name \"" ++ name ++ "\"")

namespace BlockchainConfig

variable {suite : CryptoSuite} (config : BlockchainConfig suite)

/-- A configuration defines what a reference names. -/
def Defines : Reference → Prop
  | .peer name => (config.peers.lookup name).isSome
  | .chaincode name => (config.chaincodes.lookup name).isSome
  | .user name => (config.users.lookup name).isSome
  | .orderer name => (config.orderers.lookup name).isSome

instance : DecidablePred config.Defines
  | .peer name => inferInstanceAs (Decidable ((config.peers.lookup name).isSome = true))
  | .chaincode name => inferInstanceAs (Decidable ((config.chaincodes.lookup name).isSome = true))
  | .user name => inferInstanceAs (Decidable ((config.users.lookup name).isSome = true))
  | .orderer name => inferInstanceAs (Decidable ((config.orderers.lookup name).isSome = true))

/-- What is raised when a reference is resolved. -/
def raisedFor (reference : Reference) : Option Exc :=
  if config.Defines reference then none else some reference.undefinedError

/-- An entity is got where it is defined. -/
theorem raisedBy_getEntity {α : Type} (kind : String) (entities : Entities α) (name : String) :
    raisedBy (getEntity kind entities name) = if (entities.lookup name).isSome then none else
      some (.keyError ("No " ++ kind ++ " defined with name \"" ++ name ++ "\"")) := by
  unfold getEntity
  cases entities.lookup name <;> rfl

/-- **Resolving raises what the first reference that is not defined raises.** -/
theorem raisedBy_resolve (gatewayConfig : GatewayConfig) :
    raisedBy (config.resolve gatewayConfig) =
      gatewayConfig.references.findSome? config.raisedFor := by
  have hpeers : raisedBy (gatewayConfig.endorsingPeers.mapM config.getPeer) =
      (gatewayConfig.endorsingPeers.map .peer).findSome? config.raisedFor := by
    rw [raisedBy_mapM, List.findSome?_map]
    exact congrArg (List.findSome? · _) (funext fun name => raisedBy_getEntity "peer" _ name)
  have horderers : raisedBy (gatewayConfig.orderers.mapM config.getOrderer) =
      (gatewayConfig.orderers.map .orderer).findSome? config.raisedFor := by
    rw [raisedBy_mapM, List.findSome?_map]
    exact congrArg (List.findSome? · _) (funext fun name => raisedBy_getEntity "orderer" _ name)
  have hchaincode : raisedBy ((givenText gatewayConfig.chaincode).mapM config.getChaincode) =
      ((givenText gatewayConfig.chaincode).toList.map .chaincode).findSome? config.raisedFor := by
    cases givenText gatewayConfig.chaincode with
    | none => rfl
    | some name =>
        have hraised : raisedBy (config.getChaincode name) = config.raisedFor (.chaincode name) :=
          raisedBy_getEntity "chaincode" _ name
        rw [Option.mapM_some, Option.toList_some, List.map_singleton, List.findSome?_singleton,
          ← hraised]
        cases config.getChaincode name <;> rfl
  have huser : raisedBy (config.getUser gatewayConfig.requestor) =
      config.raisedFor (.user gatewayConfig.requestor) := raisedBy_getEntity "user" _ _
  have hsequence : raisedBy (config.resolve gatewayConfig) =
      (raisedBy (gatewayConfig.endorsingPeers.mapM config.getPeer)).or
        ((raisedBy ((givenText gatewayConfig.chaincode).mapM config.getChaincode)).or
          ((raisedBy (config.getUser gatewayConfig.requestor)).or
            (raisedBy (gatewayConfig.orderers.mapM config.getOrderer)))) := by
    refine raisedBy_bind_of_forall fun _ => raisedBy_bind_of_forall fun _ =>
      raisedBy_bind_of_forall fun _ => ?_
    exact (raisedBy_bind_of_forall (r := none) fun _ => rfl).trans Option.or_none
  rw [hsequence, hpeers, hchaincode, huser, horderers, GatewayConfig.references,
    List.findSome?_append, List.findSome?_append, List.findSome?_cons]
  cases config.raisedFor (.user gatewayConfig.requestor) <;> rfl

/-- What is defined is what an entity is got for. -/
theorem getEntity_eq_ok {α : Type} {kind : String} {entities : Entities α} {name : String} {a : α} :
    getEntity kind entities name = .ok a ↔ entities.lookup name = some a := by
  unfold getEntity
  cases entities.lookup name <;> simp

/-- A traversal returns what each of its elements returns. -/
theorem mapM_of_forall₂ {α β : Type} {f : α → Except Exc β} {as : List α} {bs : List β}
    (h : List.Forall₂ (fun a b => f a = .ok b) as bs) : as.mapM f = .ok bs := by
  induction h with
  | nil => rfl
  | cons hab _ ih =>
      rw [List.mapM_cons, hab, ih]
      rfl

/-- An optional element is traversed where it is there. -/
theorem option_mapM_eq_ok {α β : Type} {f : α → Except Exc β} {a : Option α} {b : Option β} :
    a.mapM f = .ok b ↔ Option.Rel (fun a b => f a = .ok b) a b := by
  cases a with
  | none =>
      constructor
      · intro h
        cases h
        exact .none
      · rintro ⟨⟩
        rfl
  | some a =>
      rw [Option.mapM_some]
      constructor
      · intro h
        obtain ⟨found, hfound, hb⟩ := bind_eq_ok.mp h
        cases hb
        exact .some hfound
      · intro h
        cases h with
        | some h =>
            rw [h]
            rfl

/-- The references of a gateway config name what they are resolved to. -/
structure ResolvesTo (gatewayConfig : GatewayConfig) (resolved : Resolved suite) : Prop where
  endorsingPeers : List.Forall₂ (fun name peer => config.peers.lookup name = some peer)
    gatewayConfig.endorsingPeers resolved.endorsingPeers
  chaincode : Option.Rel (fun name spec => config.chaincodes.lookup name = some spec)
    (givenText gatewayConfig.chaincode) resolved.chaincode
  requestor : config.users.lookup gatewayConfig.requestor = some resolved.requestor
  orderers : List.Forall₂ (fun name orderer => config.orderers.lookup name = some orderer)
    gatewayConfig.orderers resolved.orderers
  channel : resolved.channel = ⟨gatewayConfig.channel⟩

/-- **Resolving returns** what the references name. -/
theorem resolve_eq_ok {gatewayConfig : GatewayConfig} {resolved : Resolved suite} :
    config.resolve gatewayConfig = .ok resolved ↔ config.ResolvesTo gatewayConfig resolved := by
  constructor
  · intro h
    obtain ⟨endorsingPeers, hpeers, h⟩ := bind_eq_ok.mp h
    obtain ⟨chaincode, hchaincode, h⟩ := bind_eq_ok.mp h
    obtain ⟨requestor, hrequestor, h⟩ := bind_eq_ok.mp h
    obtain ⟨orderers, horderers, h⟩ := bind_eq_ok.mp h
    cases h
    refine ⟨?_, ?_, getEntity_eq_ok.mp hrequestor, ?_, rfl⟩
    · simpa only [getPeer, getEntity_eq_ok] using forall₂_of_mapM hpeers
    · simpa only [getChaincode, getEntity_eq_ok] using option_mapM_eq_ok.mp hchaincode
    · simpa only [getOrderer, getEntity_eq_ok] using forall₂_of_mapM horderers
  · obtain ⟨endorsingPeers, chaincode, requestor, orderers, channel⟩ := resolved
    rintro ⟨hpeers, hchaincode, hrequestor, horderers, rfl⟩
    have hpeers' : gatewayConfig.endorsingPeers.mapM config.getPeer = .ok endorsingPeers :=
      mapM_of_forall₂ (by simpa only [getPeer, getEntity_eq_ok] using hpeers)
    have hchaincode' :
        (givenText gatewayConfig.chaincode).mapM config.getChaincode = .ok chaincode :=
      option_mapM_eq_ok.mpr (by simpa only [getChaincode, getEntity_eq_ok] using hchaincode)
    have hrequestor' : config.getUser gatewayConfig.requestor = .ok requestor :=
      getEntity_eq_ok.mpr hrequestor
    have horderers' : gatewayConfig.orderers.mapM config.getOrderer = .ok orderers :=
      mapM_of_forall₂ (by simpa only [getOrderer, getEntity_eq_ok] using horderers)
    rw [resolve, hpeers', ok_bind, hchaincode', ok_bind, hrequestor', ok_bind, horderers']
    rfl

/-- What is raised is the exception. -/
theorem raisedBy_eq_some {ε α : Type} {x : Except ε α} {e : ε} :
    raisedBy x = some e ↔ x = .error e := by
  cases x <;> simp [raisedBy]

/-- Nothing else is raised for a reference than that it is not defined. -/
theorem raisedFor_eq_some {reference : Reference} {e : Exc} :
    config.raisedFor reference = some e ↔
      ¬ config.Defines reference ∧ e = reference.undefinedError := by
  unfold raisedFor
  split <;> simp_all [eq_comm]

/-- What is raised for some references is that the first that is not defined is not. -/
theorem findSome?_raisedFor_eq_some {references : List Reference} {e : Exc} :
    references.findSome? config.raisedFor = some e ↔
      ∃ before reference after, references = before ++ reference :: after ∧
        (∀ r ∈ before, config.Defines r) ∧ ¬ config.Defines reference ∧
        e = reference.undefinedError := by
  have hnone : ∀ r, config.raisedFor r = none ↔ config.Defines r := by
    intro r
    unfold raisedFor
    split <;> simp_all
  rw [List.findSome?_eq_some_iff]
  simp only [raisedFor_eq_some, hnone]
  constructor
  · rintro ⟨before, reference, after, rfl, ⟨hundefined, rfl⟩, hbefore⟩
    exact ⟨before, reference, after, rfl, hbefore, hundefined, rfl⟩
  · rintro ⟨before, reference, after, rfl, hbefore, hundefined, rfl⟩
    exact ⟨before, reference, after, rfl, ⟨hundefined, rfl⟩, hbefore⟩

/-- A gateway is not got when it is not defined, or when one of its references is not. -/
theorem getGateway_eq_error {name : String} {e : Exc} : config.getGateway name = .error e ↔
    config.gateways.lookup name = none ∧
        e = .keyError ("No gateway defined with name \"" ++ name ++ "\"") ∨
      ∃ gatewayConfig before reference after,
        config.gateways.lookup name = some gatewayConfig ∧
        gatewayConfig.references = before ++ reference :: after ∧
        (∀ r ∈ before, config.Defines r) ∧ ¬ config.Defines reference ∧
        e = reference.undefinedError := by
  unfold getGateway getEntity
  cases hlookup : config.gateways.lookup name with
  | none =>
      constructor
      · intro h
        cases h
        exact .inl ⟨rfl, rfl⟩
      · rintro (⟨-, rfl⟩ | ⟨_, _, _, _, h, -⟩)
        · rfl
        · cases h
  | some gatewayConfig =>
      dsimp only
      have hgateway : (match config.resolve gatewayConfig with
          | .ok resolved => .ok resolved.gateway
          | .error e => .error e) = (.error e : Except Exc Gateway) ↔
            config.resolve gatewayConfig = .error e := by
        cases config.resolve gatewayConfig <;> simp
      rw [ok_bind, hgateway, ← raisedBy_eq_some, raisedBy_resolve, findSome?_raisedFor_eq_some]
      constructor
      · rintro ⟨before, reference, after, hrest⟩
        exact .inr ⟨gatewayConfig, before, reference, after, rfl, hrest⟩
      · rintro (⟨h, -⟩ | ⟨gatewayConfig', before, reference, after, h, hrest⟩)
        · cases h
        · cases h
          exact ⟨before, reference, after, hrest⟩

/-- A gateway that is got is that of the entities that its references name. -/
theorem getGateway_eq_ok {name : String} {gateway : Gateway} :
    config.getGateway name = .ok gateway ↔
    ∃ gatewayConfig resolved, config.gateways.lookup name = some gatewayConfig ∧
      config.ResolvesTo gatewayConfig resolved ∧ gateway = resolved.gateway := by
  unfold getGateway getEntity
  cases hlookup : config.gateways.lookup name with
  | none =>
      refine iff_of_false (fun h => by cases h) ?_
      rintro ⟨_, _, h, -⟩
      cases h
  | some gatewayConfig =>
      dsimp only
      have hgateway : (match config.resolve gatewayConfig with
          | .ok resolved => .ok resolved.gateway
          | .error e => .error e) = (.ok gateway : Except Exc Gateway) ↔
            ∃ resolved, config.resolve gatewayConfig = .ok resolved ∧
              gateway = resolved.gateway := by
        cases config.resolve gatewayConfig <;> simp [eq_comm]
      rw [ok_bind, hgateway]
      simp only [resolve_eq_ok]
      constructor
      · rintro ⟨resolved, hrest⟩
        exact ⟨gatewayConfig, resolved, rfl, hrest⟩
      · rintro ⟨gatewayConfig', resolved, h, hrest⟩
        cases h
        exact ⟨resolved, hrest⟩

/-- **Getting a gateway.** It raises the `KeyError` of the gateway when that is not defined, or else
that of the first of its references that is not, in the order of peers, chaincode, requestor and
orderers; and when all are defined it returns the gateway of the entities that they name. -/
theorem getGateway_cases (name : String) :
    (∀ e, config.getGateway name = .error e ↔
      config.gateways.lookup name = none ∧
          e = .keyError ("No gateway defined with name \"" ++ name ++ "\"") ∨
        ∃ gatewayConfig before reference after,
          config.gateways.lookup name = some gatewayConfig ∧
          gatewayConfig.references = before ++ reference :: after ∧
          (∀ r ∈ before, config.Defines r) ∧ ¬ config.Defines reference ∧
          e = reference.undefinedError) ∧
    ∀ gateway, config.getGateway name = .ok gateway ↔
      ∃ gatewayConfig resolved, config.gateways.lookup name = some gatewayConfig ∧
        config.ResolvesTo gatewayConfig resolved ∧ gateway = resolved.gateway :=
  ⟨fun _ => config.getGateway_eq_error, fun _ => config.getGateway_eq_ok⟩

end BlockchainConfig

/-! ## Naming the entities -/

/-- A name that was given stays, and so does one that was taken from the key. -/
theorem nameOr_nameOr (given : Option String) (name : String) :
    nameOr (nameOr given name) name = nameOr given name := by
  unfold nameOr
  by_cases hname : (givenText given).getD name = ""
  · -- Nothing was given, and the key is empty as well.
    have hempty : name = "" := by
      cases hgiven : givenText given with
      | none =>
          rw [hgiven] at hname
          exact hname
      | some text =>
          rw [hgiven] at hname
          exact absurd hname (givenText_eq_some.mp hgiven).2
    rw [hname, hempty]
    rfl
  · rw [givenText_eq_some.mpr ⟨rfl, hname⟩, Option.getD_some]

/-- Entities with their names set. -/
def namedEntities {α : Type} (nameOf : α → Option String) (setName : α → Option String → α)
    (entities : Entities α) : Entities α :=
  entities.map fun item => (item.1, setName item.2 (nameOr (nameOf item.2) item.1))

/-- Entities are named where renaming them sets their names. -/
theorem nameEntities_eq_ok {α : Type} {nameOf : α → Option String}
    {replaceName : α → Option String → Except FileExc α} {setName : α → Option String → α}
    {entities : Entities α}
    (h : ∀ item ∈ entities, ∀ name, replaceName item.2 name = .ok (setName item.2 name)) :
    nameEntities nameOf replaceName entities = .ok (namedEntities nameOf setName entities) := by
  induction entities with
  | nil => rfl
  | cons item entities ih =>
      obtain ⟨hitem, hrest⟩ := List.forall_mem_cons.mp h
      have hentities := ih hrest
      unfold nameEntities at hentities ⊢
      rw [List.mapM_cons, hitem, ok_bind, hentities]
      rfl

/-- Naming entities a second time changes nothing. -/
theorem namedEntities_namedEntities {α : Type} {nameOf : α → Option String}
    {setName : α → Option String → α} (hget : ∀ a name, nameOf (setName a name) = name)
    (hset : ∀ a name name', setName (setName a name) name' = setName a name')
    (entities : Entities α) :
    namedEntities nameOf setName (namedEntities nameOf setName entities) =
      namedEntities nameOf setName entities := by
  unfold namedEntities
  rw [List.map_map]
  refine List.map_congr_left fun item _ => ?_
  dsimp only [Function.comp_apply]
  rw [hget, hset, nameOr_nameOr]

/-- A named entity is found under its key. -/
theorem lookup_namedEntities {α : Type} {nameOf : α → Option String}
    {setName : α → Option String → α} (entities : Entities α) (key : String) :
    (namedEntities nameOf setName entities).lookup key =
      (entities.lookup key).map fun a => setName a (nameOr (nameOf a) key) := by
  induction entities with
  | nil => rfl
  | cons item entities ih =>
      obtain ⟨name, a⟩ := item
      rw [namedEntities, List.map_cons, List.lookup_cons, List.lookup_cons]
      cases hkey : key == name with
      | true =>
          rw [eq_of_beq hkey]
          rfl
      | false => exact ih

namespace BlockchainConfig

variable {suite : CryptoSuite} {readFile : String → Except OSError Bytes}
  {loadPemPrivateKey : Bytes → Except Exc suite.PrivateKey}

/-- A configuration with its entities named. -/
def named (config : BlockchainConfig suite) : BlockchainConfig suite :=
  { config with
    peers := namedEntities (·.name) (fun peer name => { peer with name }) config.peers
    orderers := namedEntities (·.name) (fun orderer name => { orderer with name }) config.orderers
    users := namedEntities (·.name) (fun user name => { user with name }) config.users
    chaincodes := namedEntities (·.name) (fun spec name => { spec with name }) config.chaincodes }

variable (readFile loadPemPrivateKey) in
/-- The peers, orderers and users of a configuration were made. -/
structure Made (config : BlockchainConfig suite) : Prop where
  peers : ∀ item ∈ config.peers, item.2.Made readFile
  orderers : ∀ item ∈ config.orderers, item.2.Made readFile
  users : ∀ item ∈ config.users, item.2.Made readFile loadPemPrivateKey

/-- Naming the entities sets their names and changes nothing else. -/
theorem Made.postInit {config : BlockchainConfig suite}
    (h : config.Made readFile loadPemPrivateKey) :
    config.postInit readFile loadPemPrivateKey = .ok config.named := by
  have hconnected : ∀ {models : Entities ConnectedModel}, (∀ item ∈ models, item.2.Made readFile) →
      nameEntities (·.name) (fun model name => (model.replaceName readFile name).mapError Sum.inl)
        models = .ok (namedEntities (·.name) (fun model name => { model with name }) models) := by
    intro models hmade
    refine nameEntities_eq_ok fun item hitem name => ?_
    rw [(hmade item hitem).replaceName name]
    rfl
  have husers : nameEntities (·.name)
      (fun user name => user.replaceName readFile loadPemPrivateKey name) config.users =
        .ok (namedEntities (·.name) (fun user name => { user with name }) config.users) :=
    nameEntities_eq_ok fun item hitem name => (h.users item hitem).replaceName name
  have hchaincodes : nameEntities (·.name)
      (fun spec name => .ok ({ spec with name } : ChaincodeSpec)) config.chaincodes =
        .ok (namedEntities (·.name) (fun spec name => { spec with name }) config.chaincodes) :=
    nameEntities_eq_ok fun _ _ _ => rfl
  rw [BlockchainConfig.postInit, hconnected h.peers, ok_bind, hconnected h.orderers, ok_bind,
    husers, ok_bind, hchaincodes]
  rfl

/-- The entities of a named configuration were made. -/
theorem Made.named {config : BlockchainConfig suite} (h : config.Made readFile loadPemPrivateKey) :
    config.named.Made readFile loadPemPrivateKey := by
  have hconnected : ∀ {models : Entities ConnectedModel}, (∀ item ∈ models, item.2.Made readFile) →
      ∀ item ∈ namedEntities (·.name) (fun (model : ConnectedModel) name => { model with name })
        models, item.2.Made readFile := by
    intro models hmade item hitem
    obtain ⟨item', hitem', rfl⟩ := List.mem_map.mp hitem
    exact ConnectedModel.Made.of_replaceName ((hmade item' hitem').replaceName _)
  refine ⟨hconnected h.peers, hconnected h.orderers, fun item hitem => ?_⟩
  obtain ⟨item', hitem', rfl⟩ := List.mem_map.mp hitem
  exact ⟨_, (h.users item' hitem').replaceName _⟩

/-- A configuration of the keyed suite, with one entity of each kind; its peer was given a name, and
its chaincode an empty one. -/
def keyedConfig : BlockchainConfig keyedSuite where
  peers := [("peer", { endpoint := "peer:7051", name := some "endorser" })]
  orderers := [("orderer", { endpoint := "orderer:7050" })]
  users := [("admin", ⟨"Org1MSP", none, none, none, [1], [2], [2]⟩)]
  chaincodes := [("cc", { name := some "" })]
  gateways := [("gateway", {
    channel := "channel", requestor := "admin", endorsingPeers := ["peer"], orderers := ["orderer"]
    chaincode := some "cc" })]

/-- The entities of that configuration were made without a file. -/
theorem made_keyedConfig :
    keyedConfig.Made (fun _ => .error .fileNotFoundError) (fun key => .ok key) where
  peers := List.forall_mem_singleton.mpr ⟨{ endpoint := "peer:7051", name := some "endorser" }, rfl⟩
  orderers := List.forall_mem_singleton.mpr ⟨{ endpoint := "orderer:7050" }, rfl⟩
  users := List.forall_mem_singleton.mpr
    ⟨{ mspId := "Org1MSP", cert := some [1], key := some [2] }, rfl⟩

/-- **Naming the entities of a configuration.** Where its peers, orderers and users were made,
nothing fails: the named configuration has the same entities under the same keys, each with the name
that it was given or else its key; and naming it again changes nothing. -/
theorem postInit_named {config : BlockchainConfig suite}
    (h : config.Made readFile loadPemPrivateKey) :
    config.postInit readFile loadPemPrivateKey = .ok config.named ∧
    config.named.postInit readFile loadPemPrivateKey = .ok config.named ∧
    (∀ key, config.named.peers.lookup key =
      (config.peers.lookup key).map fun peer => { peer with name := nameOr peer.name key }) ∧
    (∀ key, config.named.orderers.lookup key = (config.orderers.lookup key).map fun orderer =>
      { orderer with name := nameOr orderer.name key }) ∧
    (∀ key, config.named.users.lookup key =
      (config.users.lookup key).map fun user => { user with name := nameOr user.name key }) ∧
    ∀ key, config.named.chaincodes.lookup key = (config.chaincodes.lookup key).map fun spec =>
      { spec with name := nameOr spec.name key } := by
  have hmodels : ∀ models : Entities ConnectedModel,
      namedEntities (·.name) (fun model name => { model with name })
          (namedEntities (·.name) (fun model name => { model with name }) models) =
        namedEntities (·.name) (fun model name => { model with name }) models :=
    namedEntities_namedEntities (fun _ _ => rfl) fun _ _ _ => rfl
  have husers : ∀ users : Entities (LoadedUser suite),
      namedEntities (·.name) (fun user name => { user with name })
          (namedEntities (·.name) (fun user name => { user with name }) users) =
        namedEntities (·.name) (fun user name => { user with name }) users :=
    namedEntities_namedEntities (fun _ _ => rfl) fun _ _ _ => rfl
  have hchaincodes : ∀ chaincodes : Entities ChaincodeSpec,
      namedEntities (·.name) (fun spec name => { spec with name })
          (namedEntities (·.name) (fun spec name => { spec with name }) chaincodes) =
        namedEntities (·.name) (fun spec name => { spec with name }) chaincodes :=
    namedEntities_namedEntities (fun _ _ => rfl) fun _ _ _ => rfl
  have htwice : config.named.named = config.named := by
    unfold named
    dsimp only
    rw [hmodels, hmodels, husers, hchaincodes]
  have hagain := h.named.postInit
  rw [htwice] at hagain
  refine ⟨h.postInit, hagain, fun key => ?_, fun key => ?_, fun key => ?_, fun key => ?_⟩
  · exact @lookup_namedEntities _ (·.name) (fun peer name => { peer with name }) config.peers key
  · exact @lookup_namedEntities _ (·.name) (fun orderer name => { orderer with name })
      config.orderers key
  · exact @lookup_namedEntities _ (·.name) (fun user name => { user with name }) config.users key
  · exact @lookup_namedEntities _ (·.name) (fun spec name => { spec with name })
      config.chaincodes key

/-- In that configuration a given name stays, and a missing or empty one is taken from the key. -/
theorem postInit_named_keyedConfig :
    keyedConfig.postInit (fun _ => .error .fileNotFoundError) (fun key => .ok key) =
      .ok keyedConfig.named ∧
    keyedConfig.named.peers.map (·.2.name) = [some "endorser"] ∧
    keyedConfig.named.orderers.map (·.2.name) = [some "orderer"] ∧
    keyedConfig.named.chaincodes.map (·.2.name) = [some "cc"] :=
  ⟨(postInit_named made_keyedConfig).1, by decide⟩

end BlockchainConfig

end Snakeskin
