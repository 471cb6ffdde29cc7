import Snakeskin.CommitWait
import Snakeskin.SharedLoops

/-! # Operations lost between two tasks

Two tasks queue operations on one builder and await it. The loop of an await iterates over the list
object that it found, and clears the one that the builder refers to when it ends; where another task
has made a new list meanwhile, that one is cleared, whether or not its operations were executed.

* `TwoClients` — the two tasks, here clients, that share a builder, and their awaits.
* `TwoClients.ClearsUnstarted` — a step in which the end of a loop clears operations of another list
  that were not started.
* `operations_kept_or_lost` — where there is no such step no operation is lost, and where there is
  one an operation is lost for ever. -/

namespace Snakeskin

variable (rt : Runtime) (builder : GatewayTXBuilder)

/-! ## Two clients of a builder -/

/-- The two tasks that share a builder. -/
inductive Client where
  | first
  | second
  deriving DecidableEq

/-- An await of a client. -/
structure Await where
  client : Client
  /-- How many operations had been queued when it began. -/
  queued : Nat

/-- A builder that two clients share. Each await of a client is a task of the shared builder. -/
structure TwoClients where
  builder : SharedBuilder
  /-- Who queued each operation, by number. -/
  owners : List Client
  /-- The awaits, by the number of the task. -/
  awaits : List Await

namespace TwoClients

/-- A new builder. -/
def new : TwoClients := ⟨.new, [], []⟩

/-- An await that is suspended in a frame. -/
structure Waits (s : TwoClients) (task : Nat) (a : Await) (frame : Frame) : Prop where
  await : s.awaits[task]? = some a
  task : s.builder.tasks task = some (.suspended frame)

/-- A client is busy while one of its awaits is suspended. -/
def busy (s : TwoClients) (client : Client) : Bool :=
  (List.range s.awaits.length).any fun task =>
    match s.awaits[task]?, s.builder.tasks task with
    | some a, some (.suspended _) => a.client = client
    | _, _ => false

/-- What the clients do. -/
inductive Label where
  /-- A client calls a queueing method. -/
  | queue (client : Client) (kind : OperationKind)
  /-- A client awaits the builder. -/
  | await (client : Client)
  /-- A suspended await is answered. -/
  | resume (task : Nat) (answer : (request : Request) → Answer request)

/-- One step. A client that is busy does nothing else. -/
def step (s : TwoClients) : Label → TwoClients
  | .queue client kind =>
      if s.busy client then s
      else { s with
        builder := s.builder.step rt builder (.queue kind)
        owners := s.owners ++ [client] }
  | .await client =>
      if s.busy client then s
      else { s with
        builder := s.builder.step rt builder .start
        awaits := s.awaits ++ [⟨client, s.builder.queued⟩] }
  | .resume task answer => { s with builder := s.builder.step rt builder (.resume task answer) }

/-- An interleaving: any number of steps, in any order. -/
def run (s : TwoClients) (labels : List Label) : TwoClients := labels.foldl (step rt builder) s

/-- The loop that a step goes on with, if there is one. -/
def stretch (s : TwoClients) : Label → Option (Nat × ListRef × Progress)
  | .queue _ _ => none
  | .await client => if s.busy client then none else s.builder.stretch rt builder .start
  | .resume task answer => s.builder.stretch rt builder (.resume task answer)

/-- An operation raises in the step. -/
def Raises (s : TwoClients) (label : Label) : Prop :=
  match s.stretch rt builder label with
  | some (_, _, .raised _ _) => True
  | _ => False

/-- A loop ends in the step whose list object the builder no longer refers to, and the one that it
does refer to, which is cleared, has an operation that was not started. -/
def ClearsUnstarted (s : TwoClients) (label : Label) : Prop :=
  match s.stretch rt builder label, s.builder.world.state.operations with
  | some (_, list, .finished _), some current =>
      current ≠ list ∧
        ∃ operation ∈ s.builder.listAt current, ¬ Started s.builder.world operation.id
  | _, _ => False

instance (s : TwoClients) (label : Label) : Decidable (s.Raises rt builder label) := by
  unfold Raises
  split <;> infer_instance

instance (s : TwoClients) (label : Label) : Decidable (s.ClearsUnstarted rt builder label) := by
  unfold ClearsUnstarted
  split <;> infer_instance

variable {rt builder} in
/-- What raises is the loop that goes on. -/
theorem raises_iff {s : TwoClients} {label : Label} {task : Nat} {list : ListRef}
    {progress : Progress} (h : s.stretch rt builder label = some (task, list, progress)) :
    s.Raises rt builder label ↔ ∃ e w, progress = .raised e w := by
  unfold Raises
  rw [h]
  rcases progress with ⟨frame, w⟩ | ⟨e, w⟩ | w <;> simp

variable {rt builder} in
/-- What is cleared is the list that the builder refers to. -/
theorem clearsUnstarted_iff {s : TwoClients} {label : Label} :
    s.ClearsUnstarted rt builder label ↔
      ∃ task list w, s.stretch rt builder label = some (task, list, .finished w) ∧
        s.builder.world.state.operations ≠ some list ∧
          ∃ id ∈ s.builder.listed, ¬ Started s.builder.world id := by
  unfold ClearsUnstarted SharedBuilder.listed
  rcases s.stretch rt builder label with _ | ⟨task, list, frame, w | ⟨e, w⟩ | w⟩ <;>
    cases s.builder.world.state.operations <;> simp

/-- Every step of an interleaving satisfies `P`. -/
def EveryStep (P : TwoClients → Label → Prop) : TwoClients → List Label → Prop
  | _, [] => True
  | s, label :: labels => P s label ∧ EveryStep P (s.step rt builder label) labels

instance decidableEveryStep (P : TwoClients → Label → Prop)
    [∀ s label, Decidable (P s label)] :
    ∀ s labels, Decidable (EveryStep rt builder P s labels)
  | _, [] => isTrue trivial
  | s, label :: labels =>
      have := decidableEveryStep P (s.step rt builder label) labels
      inferInstanceAs (Decidable (_ ∧ _))

/-- **No await has dropped an operation**: whatever a client had queued before an await of its that
has ended was executed. -/
def NothingDropped (s : TwoClients) : Prop :=
  ∀ task a result, s.awaits[task]? = some a → s.builder.tasks task = some (.ended result) →
    ∀ id < a.queued, s.owners[id]? = some a.client → Completed s.builder.world id

/-! ## The invariant -/

/-- The operation is in hand of an await that is suspended in it. -/
def InHand (s : TwoClients) (id : Nat) (client : Client) : Prop :=
  ∃ task a frame, s.Waits task a frame ∧ frame.operation = id ∧ a.client = client

/-- **The invariant of two clients**, kept as long as no operation raises and no end of a loop
clears operations that were not started. -/
structure Inv (s : TwoClients) : Prop where
  orderly : s.builder.Orderly
  owners : s.owners.length = s.builder.queued
  awaits : s.awaits.length = s.builder.started
  before : ∀ (task : Nat) (a : Await), s.awaits[task]? = some a → a.queued ≤ s.builder.queued
  /-- A client has one suspended await at most. -/
  one : ∀ task task' a a' frame frame', s.Waits task a frame → s.Waits task' a' frame' →
    a.client = a'.client → task = task'
  /-- A client queues nothing while its await is suspended. -/
  silent : ∀ task a frame, s.Waits task a frame → ∀ id, a.queued ≤ id →
    s.owners[id]? ≠ some a.client
  /-- In a loop over the list that the builder refers to, what comes before the operation in hand
  has completed. -/
  position : ∀ task a frame, s.Waits task a frame →
    s.builder.world.state.operations = some frame.list → s.builder.listed ≠ [] →
    ∃ done rest, s.builder.listed = done ++ frame.operation :: rest ∧
      frame.next = done.length + 1 ∧ ∀ id ∈ done, Completed s.builder.world id
  /-- A list that was made during an await holds what was queued during it. -/
  newer : ∀ task a frame, s.Waits task a frame →
    s.builder.world.state.operations ≠ some frame.list → ∀ id ∈ s.builder.listed, a.queued ≤ id
  /-- What was started has completed or is in hand. -/
  begun : ∀ id ∈ s.builder.listed, Started s.builder.world id →
    Completed s.builder.world id ∨ ∃ client, s.InHand id client
  /-- No operation is lost: it has completed, its owner has it in hand, or it is in the list. -/
  placed : ∀ id client, s.owners[id]? = some client →
    Completed s.builder.world id ∨ s.InHand id client ∨ id ∈ s.builder.listed
  kept : s.NothingDropped

/-- It holds of a new builder. -/
theorem inv_new : new.Inv where
  orderly := SharedBuilder.orderly_new
  owners := rfl
  awaits := rfl
  before _ _ h := nomatch h
  one _ _ _ _ _ _ h := nomatch h.await
  silent _ _ _ h := nomatch h.await
  position _ _ _ h := nomatch h.await
  newer _ _ _ h := nomatch h.await
  begun _ h := nomatch h
  placed _ _ h := nomatch h
  kept _ _ _ h := nomatch h

/-- A client is busy exactly when one of its awaits is suspended. -/
theorem busy_iff {s : TwoClients} {client : Client} :
    s.busy client = true ↔ ∃ task a frame, s.Waits task a frame ∧ a.client = client := by
  unfold busy
  rw [List.any_eq_true]
  constructor
  · rintro ⟨task, -, hmatch⟩
    split at hmatch
    · rename_i a frame hawait htask
      exact ⟨task, a, frame, ⟨hawait, htask⟩, of_decide_eq_true hmatch⟩
    · cases hmatch
  · rintro ⟨task, a, frame, ⟨hawait, htask⟩, hclient⟩
    refine ⟨task, ?_, ?_⟩
    · rw [List.mem_range]
      exact (List.getElem?_eq_some_iff.mp hawait).1
    · rw [hawait, htask]
      exact decide_eq_true hclient

/-! ## Queueing -/

section Queueing

variable {s : TwoClients} {b : SharedBuilder} {client : Client}

/-- Queueing an operation concerns no suspended await. -/
theorem waits_queue_iff (hqueues : s.builder.Queues b) {task : Nat} {a : Await} {frame : Frame} :
    Waits { s with builder := b, owners := s.owners ++ [client] } task a frame ↔
      s.Waits task a frame := by
  constructor
  · exact fun hwait => ⟨hwait.await, hqueues.tasks ▸ hwait.task⟩
  · exact fun hwait => ⟨hwait.await, (congrFun hqueues.tasks task).trans hwait.task⟩

/-- Who queued an operation is who had queued it, or the client for the operation of this step. -/
theorem Inv.owner_queue (h : s.Inv) {id : Nat} {client' : Client}
    (howner : (s.owners ++ [client])[id]? = some client') :
    s.owners[id]? = some client' ∨ id = s.builder.queued ∧ client' = client := by
  have hlength := h.owners
  rw [List.getElem?_append] at howner
  split at howner
  · exact .inl howner
  · rw [List.getElem?_singleton] at howner
    split at howner
    · cases howner
      exact .inr ⟨by omega, rfl⟩
    · cases howner

/-- **Queueing an operation** keeps the invariant. -/
theorem Inv.queue (h : s.Inv) (hbusy : ¬ s.busy client = true) (hqueues : s.builder.Queues b) :
    Inv { s with builder := b, owners := s.owners ++ [client] } := by
  set s' : TwoClients := { s with builder := b, owners := s.owners ++ [client] } with hs'
  have hcompleted : ∀ id, Completed s.builder.world id → Completed b.world id := fun id hid => by
    rw [Completed, hqueues.trace]
    exact hid
  have hwaits : ∀ {task a frame}, s'.Waits task a frame → s.Waits task a frame :=
    (waits_queue_iff hqueues).mp
  have hinHand : ∀ {id client}, s.InHand id client → s'.InHand id client :=
    fun ⟨task, a, frame, hwait, hid⟩ => ⟨task, a, frame, (waits_queue_iff hqueues).mpr hwait, hid⟩
  have hlisted : ∀ {id}, id ∈ s'.builder.listed ↔ id ∈ s.builder.listed ∨ id = s.builder.queued := by
    intro id
    rw [show s'.builder.listed = _ from hqueues.listed, List.mem_append, List.mem_singleton]
  refine {
    orderly := h.orderly.queues hqueues
    owners := ?owners
    awaits := h.awaits.trans hqueues.started.symm
    before := ?before, one := ?one, silent := ?silent, position := ?position, newer := ?newer
    begun := ?begun, placed := ?placed, kept := ?kept }
  case owners =>
    show (s.owners ++ [client]).length = b.queued
    rw [List.length_append, h.owners, hqueues.queued, List.length_singleton]
  case before =>
    intro task a hawait
    exact (h.before task a hawait).trans ((Nat.le_succ _).trans hqueues.queued.ge)
  case one =>
    intro task task' a a' frame frame' hwait hwait'
    exact h.one task task' a a' frame frame' (hwaits hwait) (hwaits hwait')
  case silent =>
    -- The client that queues is not busy, so it is not that of a suspended await.
    intro task a frame hwait id hid howner
    rcases h.owner_queue howner with hbefore | ⟨-, hclient⟩
    · exact h.silent task a frame (hwaits hwait) id hid hbefore
    · exact hbusy (busy_iff.mpr ⟨task, a, frame, hwaits hwait, hclient⟩)
  case position =>
    intro task a frame hwait hlist _
    rcases hqueues.operations with ⟨hne, hsame⟩ | ⟨-, hnew⟩
    · obtain ⟨done, rest, hbefore, hnext, hdone⟩ :=
        h.position task a frame (hwaits hwait) (hsame.symm.trans hlist) hne
      refine ⟨done, rest ++ [s.builder.queued], ?_, hnext, fun id hid => hcompleted id (hdone id hid)⟩
      exact hqueues.listed.trans (by rw [hbefore, List.append_assoc, List.cons_append])
    · -- No loop is over the new list yet.
      have hlt := h.orderly.list task frame (hwaits hwait).task
      have heq : s.builder.lists.length = frame.list := Option.some.inj (hnew.symm.trans hlist)
      exact absurd (heq ▸ hlt) (lt_irrefl _)
  case newer =>
    intro task a frame hwait hlist id hid
    rcases hlisted.mp hid with hmem | rfl
    · rcases hqueues.operations with ⟨-, hsame⟩ | ⟨hempty, -⟩
      · exact h.newer task a frame (hwaits hwait) (fun heq => hlist (hsame.trans heq)) id hmem
      · rw [hempty] at hmem
        cases hmem
    · exact h.before task a hwait.await
  case begun =>
    intro id hid hstarted
    have hbefore : Started s.builder.world id := (hqueues.started_iff id).mp hstarted
    rcases hlisted.mp hid with hmem | rfl
    · exact (h.begun id hmem hbefore).imp (hcompleted id) fun ⟨client', hid'⟩ => ⟨client', hinHand hid'⟩
    · -- What has just been queued was not started.
      exact absurd (h.orderly.started _ hbefore) (lt_irrefl _)
  case placed =>
    intro id client' howner
    rw [hlisted]
    rcases h.owner_queue howner with hbefore | ⟨rfl, -⟩
    · rcases h.placed id client' hbefore with hdone | hhand | hmem
      · exact .inl (hcompleted id hdone)
      · exact .inr (.inl (hinHand hhand))
      · exact .inr (.inr (.inl hmem))
    · exact .inr (.inr (.inr rfl))
  case kept =>
    intro task a result hawait hresult id hid howner
    rcases h.owner_queue howner with hbefore | ⟨rfl, -⟩
    · exact hcompleted id (h.kept task a result hawait (hqueues.tasks ▸ hresult) id hid hbefore)
    · exact absurd hid (Nat.not_lt_of_le (h.before task a hawait))

end Queueing

/-! ## Stretches of a loop -/

/-- It is the turn of an await: no other await of its client is suspended, and its client has queued
nothing since it began. -/
structure Turn (s : TwoClients) (task : Nat) (a : Await) : Prop where
  await : s.awaits[task]? = some a
  alone : ∀ task' a' frame, s.Waits task' a' frame → a'.client = a.client → task' = task
  silent : ∀ id, a.queued ≤ id → s.owners[id]? ≠ some a.client

/-- What a stretch of an await has to do, with the status that it sets and the world that it leads
to. -/
structure Does (s : TwoClients) (task : Nat) (a : Await) (status : Task)
    (w : World (BuilderState ListRef)) (b : SharedBuilder) : Prop where
  sets : s.builder.Sets task status w b
  orderly : b.Orderly
  operations : w.state.operations = s.builder.world.state.operations
  trace : s.builder.world.trace <+: w.trace
  /-- What is cleared has completed, or is in hand of another await of its owner. -/
  listed : b.listed = s.builder.listed ∨ b.listed = [] ∧ ∀ id ∈ s.builder.listed, Completed w id ∨
    ∃ task' a' frame, task' ≠ task ∧ s.Waits task' a' frame ∧ frame.operation = id ∧
      s.owners[id]? = some a'.client
  position : ∀ frame, status = .suspended frame →
    s.builder.world.state.operations = some frame.list → s.builder.listed ≠ [] →
    ∃ done rest, s.builder.listed = done ++ frame.operation :: rest ∧
      frame.next = done.length + 1 ∧ ∀ id ∈ done, Completed w id
  newer : ∀ frame, status = .suspended frame →
    s.builder.world.state.operations ≠ some frame.list → ∀ id ∈ s.builder.listed, a.queued ≤ id
  begun : ∀ id, Started w id → Started s.builder.world id ∨ Completed w id ∨
    ∃ frame, status = .suspended frame ∧ frame.operation = id
  /-- What was in hand has completed, or still is in hand. -/
  inHand : ∀ a' frame, s.Waits task a' frame → Completed w frame.operation ∨
    ∃ frame', status = .suspended frame' ∧ frame'.operation = frame.operation
  kept : ∀ result, status = .ended result →
    ∀ id < a.queued, s.owners[id]? = some a.client → Completed w id

section Stretch

variable {s : TwoClients} {task : Nat} {a : Await} {status : Task}
  {w : World (BuilderState ListRef)} {b : SharedBuilder}

/-- A suspended await is that of the stretch, or another one that was suspended before. -/
theorem Turn.waits_cases (hturn : s.Turn task a) (hsets : s.builder.Sets task status w b)
    {task' : Nat} {a' : Await} {frame : Frame} (hwait : Waits { s with builder := b } task' a' frame) :
    task' = task ∧ a' = a ∧ status = .suspended frame ∨ task' ≠ task ∧ s.Waits task' a' frame := by
  obtain ⟨hawait, htask⟩ := hwait
  have hupdate := (congrFun hsets.tasks task').symm.trans htask
  by_cases heq : task' = task
  · subst heq
    rw [Function.update_self] at hupdate
    exact .inl ⟨rfl, Option.some.inj (hawait.symm.trans hturn.await), Option.some.inj hupdate⟩
  · rw [Function.update_of_ne heq] at hupdate
    exact .inr ⟨heq, hawait, hupdate⟩

/-- Another await is as before. -/
theorem Waits.sets_of_ne (hsets : s.builder.Sets task status w b) {task' : Nat} {a' : Await}
    {frame : Frame} (hne : task' ≠ task) (hwait : s.Waits task' a' frame) :
    Waits { s with builder := b } task' a' frame := by
  refine ⟨hwait.await, (congrFun hsets.tasks task').trans ?_⟩
  rw [Function.update_of_ne hne]
  exact hwait.task

/-- The await of the stretch is suspended in the frame that it is set to. -/
theorem Turn.waits_self (hturn : s.Turn task a) (hsets : s.builder.Sets task status w b)
    {frame : Frame} (hstatus : status = .suspended frame) :
    Waits { s with builder := b } task a frame := by
  refine ⟨hturn.await, (congrFun hsets.tasks task).trans ?_⟩
  rw [Function.update_self, hstatus]

/-- What was in hand of any await has completed or still is in hand. -/
theorem Turn.inHand (hturn : s.Turn task a) (hdoes : s.Does task a status w b) {id : Nat}
    {client : Client} (hid : s.InHand id client) :
    Completed w id ∨ InHand { s with builder := b } id client := by
  obtain ⟨task', a', frame, hwait, rfl, hclient⟩ := hid
  by_cases heq : task' = task
  · subst heq
    obtain rfl : a' = a := Option.some.inj (hwait.await.symm.trans hturn.await)
    exact (hdoes.inHand a' frame hwait).imp_right fun ⟨frame', hstatus, hid⟩ =>
      ⟨task', a', frame', hturn.waits_self hdoes.sets hstatus, hid, hclient⟩
  · exact .inr ⟨task', a', frame, hwait.sets_of_ne hdoes.sets heq, rfl, hclient⟩

/-- **A stretch of an await that does what it has to** keeps the invariant. -/
theorem Inv.does (h : s.Inv) (hturn : s.Turn task a) (hdoes : s.Does task a status w b) :
    Inv { s with builder := b } := by
  set s' : TwoClients := { s with builder := b } with hs'
  have hsets := hdoes.sets
  have hcompleted : ∀ id, Completed s.builder.world id → Completed w id :=
    fun id hid => hdoes.trace.subset hid
  have hworld : s'.builder.world = w := hsets.world
  have hlist : s'.builder.world.state.operations = s.builder.world.state.operations := by
    rw [hworld, hdoes.operations]
  have hsub : b.listed ⊆ s.builder.listed := by
    rcases hdoes.listed with hsame | ⟨hempty, -⟩
    · exact fun id hid => hsame ▸ hid
    · exact fun id hid => absurd (hempty ▸ hid) List.not_mem_nil
  refine {
    orderly := hdoes.orderly
    owners := h.owners.trans hsets.queued.symm
    awaits := h.awaits.trans hsets.started.symm
    before := ?before, one := ?one, silent := ?silent, position := ?position, newer := ?newer
    begun := ?begun, placed := ?placed, kept := ?kept }
  case before =>
    intro task' a' hawait
    exact (h.before task' a' hawait).trans hsets.queued.ge
  case one =>
    intro task₁ task₂ a₁ a₂ frame₁ frame₂ hwait₁ hwait₂ hclient
    rcases hturn.waits_cases hsets hwait₁ with ⟨rfl, rfl, -⟩ | ⟨hne₁, hbefore₁⟩
    · rcases hturn.waits_cases hsets hwait₂ with ⟨rfl, -, -⟩ | ⟨-, hbefore₂⟩
      · rfl
      · exact (hturn.alone task₂ a₂ frame₂ hbefore₂ hclient.symm).symm
    · rcases hturn.waits_cases hsets hwait₂ with ⟨rfl, rfl, -⟩ | ⟨-, hbefore₂⟩
      · exact hturn.alone task₁ a₁ frame₁ hbefore₁ hclient
      · exact h.one task₁ task₂ a₁ a₂ frame₁ frame₂ hbefore₁ hbefore₂ hclient
  case silent =>
    intro task' a' frame hwait
    rcases hturn.waits_cases hsets hwait with ⟨-, rfl, -⟩ | ⟨-, hbefore⟩
    · exact hturn.silent
    · exact h.silent task' a' frame hbefore
  case position =>
    intro task' a' frame hwait hframe hne
    rcases hdoes.listed with hsame | ⟨hempty, -⟩
    · have hlisted : s'.builder.listed = s.builder.listed := hsame
      rw [hlist] at hframe
      rw [hlisted] at hne ⊢
      rw [hworld]
      rcases hturn.waits_cases hsets hwait with ⟨-, rfl, hstatus⟩ | ⟨-, hbefore⟩
      · exact hdoes.position frame hstatus hframe hne
      · obtain ⟨done, rest, heq, hnext, hdone⟩ := h.position task' a' frame hbefore hframe hne
        exact ⟨done, rest, heq, hnext, fun id hid => hcompleted id (hdone id hid)⟩
    · exact absurd hempty hne
  case newer =>
    intro task' a' frame hwait hframe id hid
    rw [hlist] at hframe
    rcases hturn.waits_cases hsets hwait with ⟨-, rfl, hstatus⟩ | ⟨-, hbefore⟩
    · exact hdoes.newer frame hstatus hframe id (hsub hid)
    · exact h.newer task' a' frame hbefore hframe id (hsub hid)
  case begun =>
    intro id hid hstarted
    rw [hworld] at hstarted ⊢
    rcases hdoes.begun id hstarted with hbefore | hdone | ⟨frame, hstatus, rfl⟩
    · rcases h.begun id (hsub hid) hbefore with hdone | ⟨client, hclient⟩
      · exact .inl (hcompleted id hdone)
      · exact (hturn.inHand hdoes hclient).imp_right fun hid => ⟨client, hid⟩
    · exact .inl hdone
    · exact .inr ⟨a.client, task, a, frame, hturn.waits_self hsets hstatus, rfl, rfl⟩
  case placed =>
    -- No operation is lost: what leaves the list has completed, or its owner has it in hand.
    intro id client howner
    rw [hworld]
    rcases h.placed id client howner with hdone | hclient | hmem
    · exact .inl (hcompleted id hdone)
    · exact (hturn.inHand hdoes hclient).imp_right .inl
    · rcases hdoes.listed with hsame | ⟨-, hcleared⟩
      · exact .inr (.inr (hsame ▸ hmem))
      · rcases hcleared id hmem with hdone | ⟨task', a', frame, hne, hwait, hid, howner'⟩
        · exact .inl hdone
        · have hclient : a'.client = client := Option.some.inj (howner'.symm.trans howner)
          exact .inr (.inl ⟨task', a', frame, hwait.sets_of_ne hsets hne, hid, hclient⟩)
  case kept =>
    intro task' a' result hawait hresult id hid howner
    rw [hworld]
    have hupdate := (congrFun hsets.tasks task').symm.trans hresult
    by_cases heq : task' = task
    · subst heq
      rw [Function.update_self] at hupdate
      obtain rfl : a' = a := Option.some.inj (hawait.symm.trans hturn.await)
      exact hdoes.kept result (Option.some.inj hupdate) id hid howner
    · rw [Function.update_of_ne heq] at hupdate
      exact hcompleted id (h.kept task' a' result hawait hupdate id hid howner)

end Stretch

/-- Where an await stands in its list when its loop goes on with operations in hand. -/
structure Stands (s : TwoClients) (task : Nat) (a : Await) (list : ListRef) (next : Nat)
    (ids : List Nat) : Prop where
  /-- An operation that waits is the first in hand. -/
  first : ∀ a' frame, s.Waits task a' frame → ∃ rest, ids = frame.operation :: rest
  /-- In the list that the builder refers to, what comes before those in hand has completed. -/
  position : s.builder.world.state.operations = some list → s.builder.listed ≠ [] →
    ∃ done, s.builder.listed = done ++ ids ∧ next = done.length + 1 ∧
      ∀ id ∈ done, Completed s.builder.world id
  newer : s.builder.world.state.operations ≠ some list → ∀ id ∈ s.builder.listed, a.queued ≤ id

/-- With two clients, who is not the one is the other. -/
theorem eq_of_ne_of_ne {client client₁ client₂ : Client} (h₁ : client₁ ≠ client)
    (h₂ : client₂ ≠ client) : client₁ = client₂ := by
  cases client <;> cases client₁ <;> cases client₂ <;> first | rfl | contradiction

section Stretch

variable {s : TwoClients} {task : Nat} {a : Await} {list : ListRef} {next : Nat} {ids : List Nat}

/-- **A loop that is suspended** keeps the invariant. -/
theorem Inv.settle_suspended (h : s.Inv) (hturn : s.Turn task a)
    (hstands : s.Stands task a list next ids) {frame : Frame} {w : World (BuilderState ListRef)}
    (hruns : (Progress.suspended frame w).Runs s.builder.world list next ids)
    (horderly : (s.builder.settle task (.suspended frame w)).Orderly) :
    Inv { s with builder := s.builder.settle task (.suspended frame w) } := by
  obtain ⟨rfl, -, -, done, rest, rfl, hnext, hmove, hdone⟩ := hruns
  obtain ⟨hsets, hlisted⟩ := h.orderly.oneList.sets task (.suspended frame) hmove.operations
  refine h.does hturn ⟨hsets, horderly, hmove.operations, hmove.trace, .inl hlisted, ?_, ?_, ?_, ?_, ?_⟩
  · rintro _ ⟨⟩ hlist hne
    obtain ⟨done₀, hlisted₀, hnext₀, hdone₀⟩ := hstands.position hlist hne
    refine ⟨done₀ ++ done, rest, by rw [hlisted₀, List.append_assoc], ?_, fun id hid => ?_⟩
    · rw [hnext, hnext₀, List.length_append]
      omega
    · rcases List.mem_append.mp hid with hbefore | hnow
      · exact hmove.trace.subset (hdone₀ id hbefore)
      · exact hdone id hnow
  · rintro _ ⟨⟩
    exact hstands.newer
  · intro id hid
    rcases hmove.started id hid with hbefore | hmem
    · exact .inl hbefore
    · rw [List.mem_append, List.mem_singleton] at hmem
      exact .inr (hmem.imp (hdone id) fun heq => ⟨frame, rfl, heq.symm⟩)
  · intro a' frame' hwait
    obtain ⟨rest', hids⟩ := hstands.first a' frame' hwait
    -- What waited is among those that have completed, or is the one that waits again.
    rcases done with _ | ⟨first, done⟩
    · exact .inr ⟨frame, rfl, (List.cons.inj hids).1⟩
    · exact .inl ((List.cons.inj hids).1 ▸ hdone first List.mem_cons_self)
  · intro result hresult
    cases hresult

/-- **A loop that comes to its end** keeps the invariant, if the list that is cleared is the one
that it was over, or all its operations were started. -/
theorem Inv.settle_finished (h : s.Inv) (hturn : s.Turn task a)
    (hstands : s.Stands task a list next ids) {w : World (BuilderState ListRef)}
    (hruns : (Progress.finished w).Runs s.builder.world list next ids)
    (horderly : (s.builder.settle task (.finished w)).Orderly)
    (hclears : s.builder.world.state.operations = some list ∨
      ∀ id ∈ s.builder.listed, Started s.builder.world id) :
    Inv { s with builder := s.builder.settle task (.finished w) } := by
  obtain ⟨hmove, hdone⟩ := hruns
  obtain ⟨⟨result, hsets⟩, hlisted⟩ := h.orderly.oneList.finish task hmove.operations
  -- The loop was over the whole list.
  have hwhole : s.builder.world.state.operations = some list →
      ∀ id ∈ s.builder.listed, Completed w id := by
    intro hlist id hid
    obtain ⟨done, hlisted', -, hbefore⟩ := hstands.position hlist (List.ne_nil_of_mem hid)
    rw [hlisted', List.mem_append] at hid
    exact hid.elim (fun hid => hmove.trace.subset (hbefore id hid)) (hdone id)
  -- What waited has completed.
  have hwaited : ∀ a' frame, s.Waits task a' frame → Completed w frame.operation := by
    intro a' frame hwait
    obtain ⟨rest, rfl⟩ := hstands.first a' frame hwait
    exact hdone _ List.mem_cons_self
  refine h.does hturn ⟨hsets, horderly, hmove.operations, hmove.trace, .inr ⟨hlisted, ?_⟩,
    fun _ h => (nomatch h), fun _ h => (nomatch h), ?_, ?_, ?_⟩
  · intro id hid
    by_cases hlist : s.builder.world.state.operations = some list
    · exact .inl (hwhole hlist id hid)
    · rcases h.begun id hid (hclears.resolve_left hlist id hid) with hbefore | ⟨client, hhand⟩
      · exact .inl (hmove.trace.subset hbefore)
      · obtain ⟨task', a', frame, hwait, rfl, -⟩ := hhand
        by_cases heq : task' = task
        · subst heq
          exact .inl (hwaited a' frame hwait)
        · -- The list was made during this await, so the other client queued what is in it; and the
          -- other client has it in hand.
          have hlt : frame.operation < s.owners.length := h.owners ▸ h.orderly.listed _ hid
          have howner := List.getElem?_eq_getElem hlt
          refine .inr ⟨task', a', frame, heq, hwait, rfl, howner.trans (congrArg some ?_)⟩
          refine eq_of_ne_of_ne (fun heq' => ?_) fun heq' => heq (hturn.alone task' a' frame hwait heq')
          exact hturn.silent _ (hstands.newer hlist _ hid) (howner.trans (congrArg some heq'))
  · intro id hid
    exact (hmove.started id hid).imp_right fun hmem => .inl (hdone id hmem)
  · exact fun a' frame hwait => .inl (hwaited a' frame hwait)
  · intro _ _ id hid howner
    rcases h.placed id a.client howner with hbefore | ⟨task', a', frame, hwait, rfl, hclient⟩ | hmem
    · exact hmove.trace.subset hbefore
    · have heq := hturn.alone task' a' frame hwait hclient
      subst heq
      exact hwaited a' frame hwait
    · by_cases hlist : s.builder.world.state.operations = some list
      · exact hwhole hlist id hmem
      · exact absurd (hstands.newer hlist id hmem) (Nat.not_le_of_lt hid)

/-- **A stretch of a loop** that does not raise keeps the invariant, if at its end it clears the
list that it was over or a list of operations that were started. -/
theorem Inv.settle (h : s.Inv) (hturn : s.Turn task a) (hstands : s.Stands task a list next ids)
    {progress : Progress} (hruns : progress.Runs s.builder.world list next ids)
    (horderly : (s.builder.settle task progress).Orderly)
    (hraises : ∀ e w, progress ≠ .raised e w)
    (hclears : ∀ w, progress = .finished w → s.builder.world.state.operations = some list ∨
      ∀ id ∈ s.builder.listed, Started s.builder.world id) :
    Inv { s with builder := s.builder.settle task progress } := by
  rcases progress with ⟨frame, w⟩ | ⟨e, w⟩ | w
  · exact h.settle_suspended hturn hstands hruns horderly
  · exact absurd rfl (hraises e w)
  · exact h.settle_finished hturn hstands hruns horderly (hclears w rfl)

end Stretch

/-! ## Steps -/

/-- A task that was set to something is an await. -/
theorem Inv.lt_of_task {s : TwoClients} (h : s.Inv) {task : Nat} {status : Task}
    (htask : s.builder.tasks task = some status) : task < s.awaits.length :=
  h.awaits ▸ h.orderly.lt_started htask

/-- An await begins: it has a number, and has done nothing yet. -/
def begin (s : TwoClients) (client : Client) : TwoClients :=
  { s with builder := s.builder.counted, awaits := s.awaits ++ [⟨client, s.builder.queued⟩] }

/-- What was set to something before is another await. -/
theorem Inv.await_begin {s : TwoClients} (h : s.Inv) {client : Client} {task : Nat} {status : Task}
    {a : Await} (htask : s.builder.tasks task = some status)
    (hawait : (s.begin client).awaits[task]? = some a) : s.awaits[task]? = some a := by
  unfold begin at hawait
  rwa [List.getElem?_append_left (h.lt_of_task htask)] at hawait

/-- The beginning of an await keeps the invariant. -/
theorem Inv.begin {s : TwoClients} (h : s.Inv) (client : Client) : (s.begin client).Inv := by
  have hwaits : ∀ {task a frame}, (s.begin client).Waits task a frame → s.Waits task a frame :=
    fun hwait => ⟨h.await_begin hwait.task hwait.await, hwait.task⟩
  have hinHand : ∀ {id client'}, s.InHand id client' → (s.begin client).InHand id client' := by
    rintro id client' ⟨task, a, frame, hwait, hid⟩
    refine ⟨task, a, frame, ⟨?_, hwait.task⟩, hid⟩
    exact (List.getElem?_append_left (h.lt_of_task hwait.task)).trans hwait.await
  refine {
    orderly := h.orderly.counted
    owners := h.owners
    awaits := ?awaits, before := ?before, one := ?one, silent := ?silent, position := ?position
    newer := ?newer, begun := ?begun, placed := ?placed, kept := ?kept }
  case awaits =>
    show (s.awaits ++ [_]).length = s.builder.started + 1
    rw [List.length_append, h.awaits, List.length_singleton]
  case before =>
    intro task a hawait
    rcases List.mem_append.mp (List.mem_of_getElem? hawait) with hbefore | hlast
    · obtain ⟨task', htask'⟩ := List.getElem?_of_mem hbefore
      exact h.before task' a htask'
    · rw [List.mem_singleton] at hlast
      rw [hlast]
      exact le_rfl
  case one =>
    intro task task' a a' frame frame' hwait hwait'
    exact h.one task task' a a' frame frame' (hwaits hwait) (hwaits hwait')
  case silent =>
    intro task a frame hwait
    exact h.silent task a frame (hwaits hwait)
  case position =>
    intro task a frame hwait
    exact h.position task a frame (hwaits hwait)
  case newer =>
    intro task a frame hwait
    exact h.newer task a frame (hwaits hwait)
  case begun =>
    intro id hid hstarted
    exact (h.begun id hid hstarted).imp_right fun ⟨client', hclient'⟩ => ⟨client', hinHand hclient'⟩
  case placed =>
    intro id client' howner
    exact (h.placed id client' howner).imp_right (Or.imp_left hinHand)
  case kept =>
    intro task a result hawait hresult
    exact h.kept task a result (h.await_begin hresult hawait) hresult

/-- It is the turn of an await that begins. -/
theorem Inv.turn_begin {s : TwoClients} (h : s.Inv) {client : Client}
    (hbusy : ¬ s.busy client = true) :
    (s.begin client).Turn s.builder.started ⟨client, s.builder.queued⟩ where
  await := by
    unfold TwoClients.begin
    rw [← h.awaits]
    exact List.getElem?_concat_length
  alone task' a' frame hwait hclient := by
    have hwait' : s.Waits task' a' frame := ⟨h.await_begin hwait.task hwait.await, hwait.task⟩
    exact absurd (busy_iff.mpr ⟨task', a', frame, hwait', hclient⟩) hbusy
  silent id hid howner := by
    have hlt := (List.getElem?_eq_some_iff.mp howner).1
    have howners : (s.begin client).owners.length = s.builder.queued := h.owners
    exact absurd hid (by show ¬ s.builder.queued ≤ id; omega)

/-- It is the turn of a suspended await that is answered. -/
theorem Inv.turn_waits {s : TwoClients} (h : s.Inv) {task : Nat} {a : Await} {frame : Frame}
    (hwait : s.Waits task a frame) : s.Turn task a where
  await := hwait.await
  alone task' a' frame' hwait' hclient := h.one task' task a' a frame' frame hwait' hwait hclient
  silent := h.silent task a frame hwait

/-- A suspended await stands behind the operation that waits. -/
theorem Inv.stands_waits {s : TwoClients} (h : s.Inv) {task : Nat} {a : Await} {frame : Frame}
    (hwait : s.Waits task a frame) :
    s.Stands task a frame.list frame.next
      (frame.operation :: ((s.builder.listAt frame.list).map (·.id)).drop frame.next) where
  first a' frame' hwait' := by
    have hframe : some (Task.suspended frame') = some (.suspended frame) :=
      hwait'.task.symm.trans hwait.task
    cases hframe
    exact ⟨_, rfl⟩
  position hlist hne := by
    obtain ⟨done, rest, hlisted, hnext, hdone⟩ := h.position task a frame hwait hlist hne
    refine ⟨done, ?_, hnext, hdone⟩
    rw [← SharedBuilder.listed_of_some hlist, hlisted, hnext, ← List.drop_drop, List.drop_left]
    rfl
  newer := h.newer task a frame hwait

/-- An await that begins stands at the beginning of the list. -/
theorem Inv.stands_begin {s : TwoClients} (h : s.Inv) (client : Client) {list : ListRef}
    (hlist : s.builder.world.state.operations = some list) :
    (s.begin client).Stands s.builder.started ⟨client, s.builder.queued⟩ list 1
      ((s.builder.listAt list).map (·.id)) where
  first _ _ hwait := by
    have htask := h.orderly.tasks s.builder.started le_rfl
    exact nomatch htask.symm.trans hwait.task
  position _ _ := ⟨[], SharedBuilder.listed_of_some hlist, rfl, fun _ hid => nomatch hid⟩
  newer hne := absurd hlist hne

/-- An await that finds nothing to do has nothing to execute. -/
theorem Inv.await_nothing {s : TwoClients} (h : s.Inv) {client : Client}
    (hbusy : ¬ s.busy client = true) (hempty : s.builder.listed = []) (e : Exc) :
    Inv { s.begin client with
      builder := s.builder.counted.setTask s.builder.started (.ended (.error e)) } := by
  have hbegin := h.begin client
  have hturn := h.turn_begin hbusy
  obtain ⟨hsets, hlisted⟩ :=
    hbegin.orderly.oneList.sets s.builder.started (.ended (.error e)) rfl
  have horderly : (s.builder.counted.setTask s.builder.started (.ended (.error e))).Orderly :=
    h.orderly.counted.setTask_ended (Nat.lt_succ_self _) _
  have hnone : ∀ a frame, ¬ (s.begin client).Waits s.builder.started a frame := by
    intro a frame hwait
    exact nomatch (h.orderly.tasks s.builder.started le_rfl).symm.trans hwait.task
  refine hbegin.does hturn ⟨hsets, horderly, rfl, List.prefix_rfl, .inl hlisted,
    fun _ h => (nomatch h), fun _ h => (nomatch h), fun _ hid => .inl hid,
    fun a frame hwait => absurd hwait (hnone a frame), ?_⟩
  intro _ _ id _ howner
  rcases hbegin.placed id client howner with hdone | ⟨task, a, frame, hwait, -, hclient⟩ | hmem
  · exact hdone
  · exact absurd (hturn.alone task a frame hwait hclient ▸ hwait) (hnone a frame)
  · have hlisted' : id ∈ s.builder.listed := hmem
    rw [hempty] at hlisted'
    cases hlisted'

/-- **Every step** in which no operation raises, and no end of a loop clears operations that were
not started, keeps the invariant. -/
theorem Inv.step {s : TwoClients} (h : s.Inv) {label : Label} (hraises : ¬ s.Raises rt builder label)
    (hclears : ¬ s.ClearsUnstarted rt builder label) : (s.step rt builder label).Inv := by
  cases label with
  | queue client kind =>
      unfold TwoClients.step
      dsimp only
      split
      · exact h
      · rename_i hbusy
        exact h.queue hbusy (h.orderly.oneList.queues kind)
  | await client =>
      unfold TwoClients.step
      dsimp only
      split
      · exact h
      · rename_i hbusy
        have horderly := (h.orderly.step rt builder .start).1
        rcases s.builder.start_cases rt builder with
          ⟨hempty, -, e, heq⟩ | ⟨list, hlist, hstretch, heq⟩
        · rw [heq]
          exact h.await_nothing hbusy hempty e
        · rw [heq] at horderly ⊢
          have hstretch' : s.stretch rt builder (.await client) = _ := (if_neg hbusy).trans hstretch
          refine (h.begin client).settle (h.turn_begin hbusy) (h.stands_begin client hlist)
            (runs_runFrom rt builder list 0 (s.builder.listAt list) s.builder.world) horderly ?_
            fun _ _ => .inl hlist
          exact fun e w hraised => hraises ((raises_iff hstretch').mpr ⟨e, w, hraised⟩)
  | resume task answer =>
      have horderly := (h.orderly.step rt builder (.resume task answer)).1
      unfold TwoClients.step
      dsimp only
      rcases s.builder.resume_cases rt builder task answer with
        ⟨-, heq⟩ | ⟨frame, htask, hstretch, heq⟩
      · rw [heq]
        exact h
      · obtain ⟨a, hawait⟩ : ∃ a, s.awaits[task]? = some a :=
          ⟨_, List.getElem?_eq_getElem (h.lt_of_task htask)⟩
        have hwait : s.Waits task a frame := ⟨hawait, htask⟩
        rw [heq] at horderly ⊢
        have hstretch' : s.stretch rt builder (.resume task answer) = _ := hstretch
        refine h.settle (h.turn_waits hwait) (h.stands_waits hwait)
          (runs_proceed rt builder (h.orderly.guarded task frame htask) _ _
            (h.orderly.operation task frame htask)) horderly ?_ fun w hfinished => ?_
        · exact fun e w hraised => hraises ((raises_iff hstretch').mpr ⟨e, w, hraised⟩)
        · rw [hfinished] at hstretch'
          by_contra hnot
          push Not at hnot
          exact hclears (clearsUnstarted_iff.mpr ⟨task, frame.list, w, hstretch', hnot⟩)

/-! ## Operations that are lost -/

/-- **A step that clears operations that were not started** loses one of them. -/
theorem Inv.exists_lost {s : TwoClients} (h : s.Inv) {label : Label}
    (hclears : s.ClearsUnstarted rt builder label) :
    ∃ id < (s.step rt builder label).builder.queued,
      ¬ Started (s.step rt builder label).builder.world id ∧
        id ∉ (s.step rt builder label).builder.listed := by
  obtain ⟨task, list, w, hstretch, hlist, id, hid, hstarted⟩ := clearsUnstarted_iff.mp hclears
  cases label with
  | queue client kind => cases hstretch
  | await client =>
      -- A loop that begins is over the list that the builder refers to.
      unfold stretch at hstretch
      dsimp only at hstretch
      split at hstretch
      · cases hstretch
      · rcases s.builder.start_cases rt builder with ⟨-, hnone, -⟩ | ⟨list', hlist', hstretch', -⟩
        · rw [hnone] at hstretch
          cases hstretch
        · rw [hstretch'] at hstretch
          obtain ⟨-, hrest⟩ := Prod.mk.inj (Option.some.inj hstretch)
          obtain ⟨rfl, -⟩ := Prod.mk.inj hrest
          exact absurd hlist' hlist
  | resume task' answer =>
      have hstretch₀ : s.builder.stretch rt builder (.resume task' answer) = _ := hstretch
      rcases s.builder.resume_cases rt builder task' answer with
        ⟨hnone, -⟩ | ⟨frame, htask, hstretch', heq⟩
      · rw [hnone] at hstretch₀
        cases hstretch₀
      · rw [hstretch'] at hstretch₀
        obtain ⟨rfl, hrest⟩ := Prod.mk.inj (Option.some.inj hstretch₀)
        obtain ⟨rfl, hfinished⟩ := Prod.mk.inj hrest
        have hruns := runs_proceed rt builder (h.orderly.guarded task' frame htask)
          (answer frame.request) (s.builder.listAt frame.list) (h.orderly.operation task' frame htask)
        rw [hfinished] at hruns heq
        -- The list of the loop is empty by now, so it started nothing more.
        rw [h.orderly.oneList.others frame.list hlist, List.map_nil, List.drop_nil] at hruns
        obtain ⟨hmove, -⟩ := hruns
        obtain ⟨⟨result, hsets⟩, hlisted⟩ := h.orderly.oneList.finish task' hmove.operations
        have hbuilder : (s.step rt builder (.resume task' answer)).builder =
            s.builder.settle task' (.finished w) := heq
        rw [hbuilder]
        refine ⟨id, (h.orderly.listed id hid).trans_le hsets.queued.ge, fun hid' => ?_, fun hid' => ?_⟩
        · rw [show (s.builder.settle task' (.finished w)).world = w from hsets.world] at hid'
          rcases hmove.started id hid' with hbefore | hmem
          · exact hstarted hbefore
          · rw [List.mem_singleton] at hmem
            exact hstarted (hmem ▸ h.orderly.operation task' frame htask)
        · rw [show (s.builder.settle task' (.finished w)).listed = [] from hlisted] at hid'
          cases hid'

/-- A step of the clients is one of the shared builder, or none. -/
theorem step_builder (s : TwoClients) (label : Label) :
    (s.step rt builder label).builder = s.builder ∨
      ∃ label', (s.step rt builder label).builder = s.builder.step rt builder label' := by
  cases label with
  | queue client kind =>
      unfold step
      dsimp only
      split
      · exact .inl rfl
      · exact .inr ⟨.queue kind, rfl⟩
  | await client =>
      unfold step
      dsimp only
      split
      · exact .inl rfl
      · exact .inr ⟨.start, rfl⟩
  | resume task answer => exact .inr ⟨.resume task answer, rfl⟩

/-- An interleaving of the clients is one of the shared builder. -/
theorem exists_run_builder (s : TwoClients) (labels : List Label) :
    ∃ labels', (s.run rt builder labels).builder = s.builder.run rt builder labels' := by
  induction labels generalizing s with
  | nil => exact ⟨[], rfl⟩
  | cons label labels ih =>
      obtain ⟨labels', hlabels'⟩ := ih (s.step rt builder label)
      rcases s.step_builder rt builder label with hsame | ⟨label', hstep⟩
      · exact ⟨labels', hlabels'.trans (by rw [hsame])⟩
      · exact ⟨label' :: labels', hlabels'.trans (by rw [hstep, SharedBuilder.run_cons])⟩

/-- **Every interleaving in which no operation raises** keeps the invariant, or it has lost an
operation that is not executed however the interleaving goes on; by induction on the steps. -/
theorem Inv.run {s : TwoClients} (h : s.Inv) {labels : List Label}
    (hraises : EveryStep rt builder (fun s label => ¬ s.Raises rt builder label) s labels) :
    (EveryStep rt builder (fun s label => ¬ s.ClearsUnstarted rt builder label) s labels →
      (s.run rt builder labels).Inv) ∧
    (¬ EveryStep rt builder (fun s label => ¬ s.ClearsUnstarted rt builder label) s labels →
      ∃ id < (s.run rt builder labels).builder.queued, ∀ labels',
        ¬ Started (s.run rt builder (labels ++ labels')).builder.world id) := by
  induction labels generalizing s with
  | nil => exact ⟨fun _ => h, fun hnot => absurd trivial hnot⟩
  | cons label labels ih =>
      by_cases hclears : s.ClearsUnstarted rt builder label
      · refine ⟨fun hall => absurd hclears hall.1, fun _ => ?_⟩
        obtain ⟨id, hid, hstarted, hlisted⟩ := h.exists_lost rt builder hclears
        have horderly : (s.step rt builder label).builder.Orderly := by
          rcases s.step_builder rt builder label with hsame | ⟨label', hstep⟩
          · rw [hsame]
            exact h.orderly
          · rw [hstep]
            exact (h.orderly.step rt builder label').1
        refine ⟨id, ?_, fun labels' => ?_⟩
        · obtain ⟨labels₁, hrun⟩ := (s.step rt builder label).exists_run_builder rt builder labels
          show id < ((s.step rt builder label).run rt builder labels).builder.queued
          rw [hrun]
          exact (horderly.lost_forever rt builder hid hstarted hlisted labels₁).1
        · obtain ⟨labels₁, hrun⟩ :=
            (s.step rt builder label).exists_run_builder rt builder (labels ++ labels')
          show ¬ Started ((s.step rt builder label).run rt builder (labels ++ labels')).builder.world id
          rw [hrun]
          exact (horderly.lost_forever rt builder hid hstarted hlisted labels₁).2
      · obtain ⟨hkept, hlost⟩ := ih (h.step rt builder hraises.1 hclears) hraises.2
        exact ⟨fun hall => hkept hall.2, fun hnot => hlost fun hall => hnot ⟨hclears, hall⟩⟩

/-- **When two tasks lose no operation.** In every interleaving in which no operation raises: if no
end of a loop clears operations of another list that were not started, every await that has ended
has left whatever its client had queued before it executed; and otherwise some queued operation is
never executed, however the interleaving goes on. -/
theorem operations_kept_or_lost (labels : List Label)
    (hraises : EveryStep rt builder (fun s label => ¬ s.Raises rt builder label) new labels) :
    (EveryStep rt builder (fun s label => ¬ s.ClearsUnstarted rt builder label) new labels →
      (new.run rt builder labels).NothingDropped) ∧
    (¬ EveryStep rt builder (fun s label => ¬ s.ClearsUnstarted rt builder label) new labels →
      ∃ id < (new.run rt builder labels).builder.queued, ∀ labels',
        ¬ Started (new.run rt builder (labels ++ labels')).builder.world id) := by
  obtain ⟨hkept, hlost⟩ := inv_new.run rt builder hraises
  exact ⟨fun hclears => (hkept hclears).kept, hlost⟩

/-- Two clients await one list: the loop of the first executes what the second has queued. -/
def sharedList : List Label := [
  .queue .first (.propose true), .await .first, .queue .second .submit, .resume 0 acceptingAnswer,
  .await .second, .resume 0 acceptingAnswer, .resume 1 acceptingAnswer]

/-- The await of the second client has dropped nothing, though its own loop did not submit. -/
theorem operations_kept_sharedList :
    ∃ tx, buildGeneratedTx (wireRuntime id) keyedUser "cc" [[1]] (some ⟨"channel"⟩) none [9] {} =
        .ok tx ∧
      (new.run (wireRuntime id) ⟨keyedGateway, tx⟩ sharedList).NothingDropped := by
  refine ⟨_, rfl, ?_⟩
  generalize htx : GeneratedTX.mk _ _ _ _ = tx
  refine (operations_kept_or_lost (wireRuntime id) ⟨keyedGateway, tx⟩ sharedList ?_).1 ?_
  · subst htx
    decide +kernel
  · subst htx
    decide +kernel

/-- Both clients begin to await a proposal; the second ends first, and queues a submit and a wait on
a new list; while its submit waits for the orderer, the loop of the first ends and clears that
list. -/
def clearedList : List Label := [
  .queue .first (.propose true), .await .first, .await .second, .resume 1 acceptingAnswer,
  .queue .second .submit, .queue .second (.waitForCommit true 30), .await .second,
  .resume 0 acceptingAnswer, .resume 2 acceptingAnswer]

/-- No operation raises, and the second await of the second client returns the transaction without
having waited for the commit. -/
theorem operations_dropped_clearedList :
    ∃ tx, buildGeneratedTx (wireRuntime id) keyedUser "cc" [[1]] (some ⟨"channel"⟩) none [9] {} =
        .ok tx ∧
      let s := new.run (wireRuntime id) ⟨keyedGateway, tx⟩ clearedList
      EveryStep (wireRuntime id) ⟨keyedGateway, tx⟩
        (fun s label => ¬ s.Raises (wireRuntime id) ⟨keyedGateway, tx⟩ label) new clearedList ∧
      (∃ endorsedTx, s.builder.tasks 2 = some (.ended (.ok endorsedTx))) ∧
      s.awaits[2]? = some ⟨.second, 3⟩ ∧ s.owners[2]? = some .second ∧
      ¬ Completed s.builder.world 2 ∧ ¬ s.NothingDropped := by
  refine ⟨_, rfl, ?_⟩
  generalize htx : GeneratedTX.mk _ _ _ _ = tx
  intro s
  have hended : ∃ endorsedTx, s.builder.tasks 2 = some (.ended (.ok endorsedTx)) := by
    subst htx
    exact ⟨_, rfl⟩
  have hcompleted : ¬ Completed s.builder.world 2 := by
    subst htx
    decide +kernel
  have hraises : EveryStep (wireRuntime id) ⟨keyedGateway, tx⟩
      (fun s label => ¬ s.Raises (wireRuntime id) ⟨keyedGateway, tx⟩ label) new clearedList := by
    subst htx
    decide +kernel
  have hawait : s.awaits[2]? = some ⟨.second, 3⟩ := by
    subst htx
    rfl
  have howner : s.owners[2]? = some .second := by
    subst htx
    rfl
  refine ⟨hraises, hended, hawait, howner, hcompleted, fun hkept => ?_⟩
  obtain ⟨endorsedTx, htask⟩ := hended
  exact hcompleted (hkept 2 ⟨.second, 3⟩ _ hawait htask 2 (Nat.lt_succ_self 2) howner)

end TwoClients

end Snakeskin
