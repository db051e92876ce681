import PlasmaStream.Independence
import PlasmaStream.Conc

/-!
# The tasks of a SYNC, interleaved

`Dispatcher::run` spawns one tokio task per peer request, "to enable parallel streaming of
objects from multiple peers", and then awaits them in order. The tasks share the store and
`receiving`; each has its own socket. A task's steps, between which the others may run, are
`add_to_receiving` under the lock of `receiving`, `contains_many`, each read of its socket and
each call of the store in `run` (the rollback's `delete_many` is one), and the drop of the
receiver under the lock again.

* `PeerRequest.alone_task`: a task run alone is `process_peer_request`.
* `PeerRequest.local_task`: every step of a task is local to its ids.
* `Dispatcher.run_alone`: in a SYNC that passes `validate`, under every schedule of the tasks'
  steps, the dispatcher answers as if each task had run alone on the server the SYNC found, and
  each task leaves its objects as it would alone; every other object is untouched, and
  `receiving` loses exactly the SYNC's ids.
* `Dispatcher.run_byte_success_iff`: the byte the dispatcher writes for peer request `i` is
  `SUCCESS` exactly when that request, alone, succeeded or met a peer that answered `SUCCESS`.
-/

namespace PlasmaStream

/-! ## The receiver, step by step -/

/-- `receive_object`, one step per read of the socket and per call of the store. -/
def receiveObjectSteps (faults : StoreFaults) (oid : ObjectId) (fromPeer : SocketAddr) :
    Conc ObjectReceiveError Node Unit := do
  let (metaSize, dataSize) ← Conc.lift (readObjectHeader fromPeer)
  if dataSize = 0 then Conc.throw (.zeroLengthObjectData fromPeer oid)
  else if dataSize > maxDataSize then Conc.throw (.objectDataTooLarge fromPeer oid dataSize)
  else if metaSize > maxMetaSize then Conc.throw (.objectMetaTooLarge fromPeer oid metaSize)
  else do
    let metaBuf ← Conc.lift (readSocket fromPeer (readExact metaSize))
    Conc.lift (storeCall fromPeer (·.create oid dataSize metaBuf (faults.create oid)))
    let data ← Conc.lift (readSocket fromPeer (readExact dataSize))
    Conc.lift (modify fun n : Node => { n with store := n.store.writeData oid data })
    Conc.lift (storeCall fromPeer (·.seal oid (faults.seal oid)))

/-- The rollback of `run`: `delete_many` on `object_ids[..=i]`, its result ignored. -/
def rollback (faults : StoreFaults) (objectIds : List ObjectId) : Recv Unit :=
  modify fun n : Node => { n with store := (n.store.deleteMany faults objectIds).2 }

/-- The loop of `run` from object `i` on, step by step. -/
def receiveObjectsSteps (faults : StoreFaults) (peerAddress : SocketAddr) :
    List ObjectId → List ObjectId → Conc ObjectReceiveError Node Unit
  | _, [] => pure ()
  | received, oid :: rest => do
    match ← (receiveObjectSteps faults oid peerAddress).attempt with
    | .ok () => receiveObjectsSteps faults peerAddress (received ++ [oid]) rest
    | .error err => do
      Conc.lift (rollback faults (received ++ [oid]))
      Conc.throw err

/-- `run`, step by step. -/
def ObjectReceiver.runSteps (r : ObjectReceiver) (faults : StoreFaults)
    (peerAddress : SocketAddr) : Conc ObjectReceiveError Node Unit := do
  let status ← Conc.lift (readSocket peerAddress readU8)
  if status ≠ StatusCodes.begin then Conc.throw (.peerError peerAddress status)
  else receiveObjectsSteps faults peerAddress [] r.objectIds

section Steps

variable {faults : StoreFaults} {peer : SocketAddr} {oid : ObjectId}

theorem solo_receiveObjectSteps :
    (receiveObjectSteps faults oid peer).solo = receiveObject faults oid peer := by
  simp only [receiveObjectSteps, receiveObject, Conc.solo_bind, Conc.solo_lift]
  congr 1
  funext ⟨metaSize, dataSize⟩
  simp only [Conc.solo_ite, Conc.solo_throw, Conc.solo_bind, Conc.solo_lift]
  rfl

theorem solo_receiveObjectsSteps : ∀ (received rest : List ObjectId),
    (receiveObjectsSteps faults peer received rest).solo = receiveObjects faults peer received rest
  | _, [] => rfl
  | received, oid :: rest => by
    funext n
    simp only [receiveObjectsSteps, Conc.solo_bind, Conc.solo_attempt, solo_receiveObjectSteps]
    cases h : receiveObject faults oid peer n with
    | ok _ n' =>
      rw [bind_apply_of_ok (attempt_apply_of_ok h), receiveObjects_cons_of_ok h,
        ← solo_receiveObjectsSteps]
    | error e n' =>
      rw [bind_apply_of_ok (attempt_apply_of_error h), receiveObjects_cons_of_error h]
      rfl

theorem ObjectReceiver.solo_runSteps (r : ObjectReceiver) :
    (r.runSteps faults peer).solo = r.run faults peer := by
  simp only [ObjectReceiver.runSteps, ObjectReceiver.run, Conc.solo_bind, Conc.solo_lift,
    Conc.solo_ite, Conc.solo_throw, solo_receiveObjectsSteps]
  rfl

/-! ### Each step local to the ids -/

variable {ids : List ObjectId}

/-- Every step of a receive program touches the store only at `ids`. -/
abbrev Node.StepsLocal (ids : List ObjectId) (c : Conc ObjectReceiveError Node Unit) : Prop :=
  c.Local Node.socket (fun y (n : Node) => n.store.objects y) (· ∈ ids)

theorem rollback_local {objectIds : List ObjectId} (h : ∀ x ∈ objectIds, x ∈ ids) :
    Recv.Local ids (rollback faults objectIds) where
  respects _ _ hnm := ⟨rfl, hnm.1, Plasma.EqOn.deleteMany hnm.2 _ _⟩
  frames _ hy := Frames.modify fun _ =>
    Plasma.deleteMany_objects_of_not_mem _ _ fun hx => hy (h _ hx)

theorem local_receiveObjectSteps (hoid : oid ∈ ids) :
    Node.StepsLocal ids (receiveObjectSteps faults oid peer) := by
  refine Conc.Local.bind (Conc.Local.lift (Local.bind (readSocket_local _) fun _ => Local.pure _))
    fun ⟨_, _⟩ => ?_
  refine Conc.Local.ite trivial (Conc.Local.ite trivial (Conc.Local.ite trivial ?_))
  exact Conc.Local.bind (Conc.Local.lift (readSocket_local _)) fun _ =>
    Conc.Local.bind (Conc.Local.lift (storeCall_local (Plasma.callLocal_create hoid _ _ _))) fun _ =>
      Conc.Local.bind (Conc.Local.lift (readSocket_local _)) fun _ =>
        Conc.Local.bind (Conc.Local.lift (writeData_local hoid _)) fun _ =>
          Conc.Local.lift (storeCall_local (Plasma.callLocal_seal hoid _))

theorem local_receiveObjectsSteps : ∀ {received rest : List ObjectId},
    (∀ x ∈ received ++ rest, x ∈ ids) → Node.StepsLocal ids (receiveObjectsSteps faults peer received rest)
  | _, [], _ => trivial
  | received, oid :: rest, h => by
    refine Conc.Local.bind (local_receiveObjectSteps (h oid (by simp))).attempt fun r => ?_
    cases r with
    | ok _ => exact local_receiveObjectsSteps fun x hx => h x (by simpa using hx)
    | error e =>
      exact Conc.Local.bind (Conc.Local.lift (rollback_local fun x hx => h x (by
        simp only [List.mem_append, List.mem_singleton, List.mem_cons] at hx ⊢
        tauto))) fun _ => trivial

theorem ObjectReceiver.local_runSteps {r : ObjectReceiver} (h : ∀ x ∈ r.objectIds, x ∈ ids) :
    Node.StepsLocal ids (r.runSteps faults peer) :=
  Conc.Local.bind (Conc.Local.lift (readSocket_local _)) fun _ =>
    Conc.Local.ite trivial (local_receiveObjectsSteps fun x hx => h x (by simpa using hx))

end Steps

/-! ## A task and its state -/

/-- What a task's steps see: the server, which the tasks share, and the task's own socket. -/
abbrev TaskState := Server × Bytes

/-- The receiver's part of a task's state: the store and the socket. -/
def TaskState.node (s : TaskState) : Node := ⟨s.1.store, s.2⟩

/-- The state with its receiver's part replaced. -/
def TaskState.setNode (s : TaskState) (n : Node) : TaskState := ({ s.1 with store := n.store }, n.socket)

/-- A step of the receiver, taken by a task: its error is the task's `ReceiverError`. -/
abbrev TaskState.onNode {α : Type} (x : Recv α) : EStateM SyncError TaskState α :=
  onPart TaskState.node TaskState.setNode SyncError.receiverError x

/-- What the server holds at an id: the object, and whether the id is being received. -/
def Server.view (y : ObjectId) (server : Server) : Option PlasmaObject × Bool :=
  (server.store.objects y, decide (y ∈ server.receiving))

theorem Server.view_eq_iff {s t : Server} {y : ObjectId} :
    s.view y = t.view y ↔ s.store.objects y = t.store.objects y ∧ (y ∈ s.receiving ↔ y ∈ t.receiving) := by
  simp [Server.view]

/-- A step of a task that sees and changes the server only at `ids`. -/
abbrev TaskState.Local (ids : List ObjectId) {α : Type} (x : EStateM SyncError TaskState α) : Prop :=
  PlasmaStream.Local Prod.snd (fun y (s : TaskState) => s.1.view y) (· ∈ ids) x

/-- Every step of a task's program sees and changes the server only at `ids`. -/
abbrev TaskState.StepsLocal (ids : List ObjectId) {α : Type} (c : Conc SyncError TaskState α) : Prop :=
  c.Local Prod.snd (fun y (s : TaskState) => s.1.view y) (· ∈ ids)

section Lift

variable {ids : List ObjectId}

theorem TaskState.local_onNode {α : Type} {x : Recv α} (hx : Recv.Local ids x) :
    TaskState.Local ids (TaskState.onNode x) where
  respects s t h := by
    have hst := hx.respects (TaskState.node s) (TaskState.node t)
      ⟨h.1, fun y hy => (Server.view_eq_iff.1 (h.2 y hy)).1⟩
    unfold TaskState.onNode onPart
    rcases hs : x (TaskState.node s) with ⟨a, n⟩ | ⟨e, n⟩ <;>
      rcases ht : x (TaskState.node t) with ⟨a', m⟩ | ⟨e', m⟩ <;>
      rw [hs, ht] at hst <;> obtain ⟨hres, hsock, hobj⟩ := hst <;> cases hres <;>
      exact ⟨rfl, hsock, fun y hy =>
        Server.view_eq_iff.2 ⟨hobj y hy, (Server.view_eq_iff.1 (h.2 y hy)).2⟩⟩
  frames y hy s := by
    have := hx.frames y hy (TaskState.node s)
    unfold TaskState.onNode onPart
    rcases hs : x (TaskState.node s) with ⟨a, n⟩ | ⟨e, n⟩ <;> rw [hs] at this <;>
      exact Server.view_eq_iff.2 ⟨this, Iff.rfl⟩

theorem TaskState.stepsLocal_onPart {c : Conc ObjectReceiveError Node Unit}
    (hc : Node.StepsLocal ids c) :
    TaskState.StepsLocal ids (c.onPart TaskState.node TaskState.setNode SyncError.receiverError) := by
  induction c with
  | pure a => trivial
  | throw e => trivial
  | atom x k ih => exact ⟨TaskState.local_onNode hc.1, fun b => ih b (hc.2 b)⟩

theorem TaskState.solo_onPart (c : Conc ObjectReceiveError Node Unit) :
    (c.onPart TaskState.node TaskState.setNode SyncError.receiverError).solo =
      TaskState.onNode c.solo := by
  refine Conc.solo_onPart _ ?_ ?_ ?_ c <;> intros <;> rfl

end Lift

namespace ObjectReceiver

/-- `add_to_receiving`, under the lock of `receiving`. -/
def addToReceivingStep (r : ObjectReceiver) : EStateM SyncError TaskState Unit := fun s =>
  match r.addToReceiving s.1.receiving with
  | .ok receiving => .ok () ({ s.1 with receiving := receiving }, s.2)
  | .error e => .error (.receiverError e) s

/-- The rest of `prepare`: `contains_many` on the ids. -/
def checkStoreStep (r : ObjectReceiver) (faults : StoreFaults) : EStateM SyncError TaskState Unit :=
  fun s =>
    match s.1.store.containsMany faults r.objectIds with
    | .error err => .error (.receiverError (.storeError r.peerAddr err)) s
    | .ok inStore =>
      if inStore.isEmpty then .ok () s
      else .error (.receiverError (.alreadyInStore r.peerAddr inStore)) s

/-- `Drop for ObjectReceiver`, under the lock of `receiving`. -/
def dropStep (r : ObjectReceiver) : EStateM SyncError TaskState Unit := fun s =>
  .ok () ({ s.1 with receiving := r.drop s.1.receiving }, s.2)

variable {r : ObjectReceiver}

theorem local_addToReceivingStep : TaskState.Local r.objectIds r.addToReceivingStep where
  respects s t h := by
    have hrecv : ∀ x ∈ r.objectIds, x ∈ s.1.receiving ↔ x ∈ t.1.receiving := fun x hx =>
      (Server.view_eq_iff.1 (h.2 x hx)).2
    have htaken : r.objectIds.filter (· ∈ s.1.receiving) = r.objectIds.filter (· ∈ t.1.receiving) :=
      List.filter_congr fun x hx => by simp only [hrecv x hx]
    simp only [addToReceivingStep, addToReceiving, reserve, htaken, Except.mapError]
    split_ifs
    · refine ⟨rfl, h.1, fun y hy => Server.view_eq_iff.2 ⟨(Server.view_eq_iff.1 (h.2 y hy)).1, ?_⟩⟩
      simp [hy]
    · exact ⟨rfl, h⟩
  frames y hy s := by
    unfold addToReceivingStep
    split
    · next receiving hadd =>
      obtain ⟨-, rfl⟩ := reserve_eq_ok.1 (addToReceiving_eq_ok.1 hadd)
      simp [Server.view, hy]
    · rfl

theorem local_checkStoreStep (faults : StoreFaults) :
    TaskState.Local r.objectIds (r.checkStoreStep faults) where
  respects s t h := by
    have hstore : Plasma.EqOn r.objectIds s.1.store t.1.store := fun x hx =>
      (Server.view_eq_iff.1 (h.2 x hx)).1
    simp only [checkStoreStep, hstore.containsMany faults fun _ => id]
    cases t.1.store.containsMany faults r.objectIds with
    | error => exact ⟨rfl, h⟩
    | ok inStore => dsimp only; split_ifs <;> exact ⟨rfl, h⟩
  frames y hy s := by
    unfold checkStoreStep
    split
    · rfl
    · split_ifs <;> rfl

theorem local_dropStep : TaskState.Local r.objectIds r.dropStep where
  respects s t h := ⟨rfl, h.1, fun y hy => Server.view_eq_iff.2 ⟨(Server.view_eq_iff.1 (h.2 y hy)).1,
    by simp [dropStep, drop, Pool.mem_release, hy]⟩⟩
  frames y hy s := Server.view_eq_iff.2 ⟨rfl, by simp [dropStep, drop, Pool.mem_release, hy]⟩

/-- `prepare`, in its two steps: `add_to_receiving`, then `contains_many`. -/
def prepareSteps (r : ObjectReceiver) (faults : StoreFaults) : Conc SyncError TaskState Unit := do
  Conc.lift r.addToReceivingStep
  Conc.lift (r.checkStoreStep faults)

/-- Its two steps, one after the other, are `prepare`. -/
theorem solo_prepareSteps (faults : StoreFaults) (s : TaskState) :
    (r.prepareSteps faults).solo s =
      match r.prepare faults s.1.store s.1.receiving with
      | .ok () receiving => .ok () ({ s.1 with receiving := receiving }, s.2)
      | .error e receiving => .error (.receiverError e) ({ s.1 with receiving := receiving }, s.2) := by
  simp only [prepareSteps, Conc.solo_bind, Conc.solo_lift]
  show EStateM.bind _ _ s = _
  unfold prepare
  cases hadd : r.addToReceiving s.1.receiving with
  | error e => simp only [EStateM.bind, addToReceivingStep, hadd]
  | ok receiving =>
    simp only [EStateM.bind, addToReceivingStep, hadd, checkStoreStep]
    cases s.1.store.containsMany faults r.objectIds with
    | error => rfl
    | ok inStore => dsimp only; split_ifs <;> rfl

theorem local_prepareSteps (r : ObjectReceiver) (faults : StoreFaults) :
    TaskState.StepsLocal r.objectIds (r.prepareSteps faults) :=
  Conc.Local.bind (Conc.Local.lift local_addToReceivingStep) fun _ =>
    Conc.Local.lift (local_checkStoreStep faults)

end ObjectReceiver

/-- `process_peer_request` up to its return, step by step: prepare the receiver, connect, send
the request and run the receiver; the first failure ends it. -/
def PeerRequest.receiveSteps (request : PeerRequest) (faults : StoreFaults) (conn : PeerConnection) :
    Conc SyncError TaskState Unit := do
  let receiver : ObjectReceiver := ⟨request.«from», request.incomingObjects⟩
  receiver.prepareSteps faults
  match conn.connectError, conn.writeError with
  | some e, _ => Conc.throw (.peerConnectionFailed request.«from» e)
  | none, some e => Conc.throw (.peerRequestNotSent request.«from» e)
  | none, none =>
    (receiver.runSteps faults request.«from»).onPart TaskState.node TaskState.setNode .receiverError

/-- The task `Dispatcher::run` spawns for a peer request: `process_peer_request`, whose receiver
is dropped when the task ends, however it ends. -/
def PeerRequest.task (request : PeerRequest) (faults : StoreFaults) (conn : PeerConnection) :
    Conc SyncError TaskState Unit :=
  (request.receiveSteps faults conn).ensuring
    (ObjectReceiver.mk request.«from» request.incomingObjects).dropStep

/-! ## A task alone -/

theorem PeerRequest.solo_receiveSteps (request : PeerRequest) (faults : StoreFaults)
    (conn : PeerConnection) (server : Server) :
    (outcome ((request.receiveSteps faults conn).solo (server, conn.response))).1 =
        (receiveFromPeer request faults conn server).1 ∧
      (outcome ((request.receiveSteps faults conn).solo (server, conn.response))).2.1 =
        (receiveFromPeer request faults conn server).2 := by
  simp only [receiveSteps, Conc.solo_bind]
  cases hp : (ObjectReceiver.mk request.«from» request.incomingObjects).prepare faults
      server.store server.receiving with
  | error e receiving =>
    have h : ((ObjectReceiver.mk request.«from» request.incomingObjects).prepareSteps faults).solo
        (server, conn.response) = .error (.receiverError e) ({ server with receiving }, conn.response) := by
      rw [ObjectReceiver.solo_prepareSteps, hp]
    rw [bind_apply_of_error h]
    simp only [receiveFromPeer, hp]
    exact ⟨rfl, rfl⟩
  | ok _ receiving =>
    have h : ((ObjectReceiver.mk request.«from» request.incomingObjects).prepareSteps faults).solo
        (server, conn.response) = .ok () ({ server with receiving }, conn.response) := by
      rw [ObjectReceiver.solo_prepareSteps, hp]
    rw [bind_apply_of_ok h]
    rcases conn with ⟨_ | ce, _ | we, response⟩
    · simp only [TaskState.solo_onPart, ObjectReceiver.solo_runSteps, receiveFromPeer, hp]
      unfold TaskState.onNode onPart TaskState.node
      cases (ObjectReceiver.mk request.«from» request.incomingObjects).run faults request.«from»
        ⟨server.store, response⟩ <;> exact ⟨rfl, rfl⟩
    all_goals simp only [receiveFromPeer, hp]; exact ⟨rfl, rfl⟩

/-- A task run alone is `process_peer_request`. -/
theorem PeerRequest.alone_task (request : PeerRequest) (faults : StoreFaults) (conn : PeerConnection)
    (server : Server) :
    (Thread.alone ⟨request.task faults conn, conn.response⟩ server).1 =
        (processPeerRequest request faults conn server).1 ∧
      (Thread.alone ⟨request.task faults conn, conn.response⟩ server).2.1 =
        (processPeerRequest request faults conn server).2 := by
  have h := request.solo_receiveSteps faults conn server
  unfold Thread.alone PeerRequest.task processPeerRequest
  dsimp only
  rw [Conc.solo_ensuring]
  cases hr : (request.receiveSteps faults conn).solo (server, conn.response) <;> rw [hr] at h <;>
    rw [← h.1, ← h.2] <;> exact ⟨rfl, rfl⟩

/-- Every step of a task sees and changes the server only at the ids of its peer request. -/
theorem PeerRequest.local_task (request : PeerRequest) (faults : StoreFaults) (conn : PeerConnection) :
    TaskState.StepsLocal request.incomingObjects (request.task faults conn) := by
  let r : ObjectReceiver := ⟨request.«from», request.incomingObjects⟩
  refine Conc.Local.ensuring (Conc.Local.bind (r.local_prepareSteps faults) fun _ => ?_)
    r.local_dropStep
  rcases conn with ⟨_ | ce, _ | we, response⟩
  · exact TaskState.stepsLocal_onPart (ObjectReceiver.local_runSteps fun _ => id)
  all_goals trivial

/-! ## The dispatcher's tasks, interleaved -/

namespace Dispatcher

/-- The tasks the loop of `Dispatcher::run` spawns, one per peer request, in order: the `k`-th
meets the store's faults and the connection to its peer that `tasks k` gives. -/
def spawn (requests : List PeerRequest) (tasks : Nat → StoreFaults × PeerConnection) :
    List (Thread SyncError Server Bytes Unit) :=
  requests.mapIdx fun k request => ⟨request.task (tasks k).1 (tasks k).2, (tasks k).2.response⟩

/-- The tasks after their steps in the order `schedule` gives, each then awaited in turn by the
loop of `Dispatcher::run`, which waits for it to end: their results, in order, and the server
they leave. Every interleaving of the tasks' steps is such a schedule. -/
def awaitAll (requests : List PeerRequest) (tasks : Nat → StoreFaults × PeerConnection)
    (schedule : List Nat) (server : Server) : List (Except SyncError Unit) × Server :=
  Threads.finish (Threads.run server (spawn requests tasks) schedule).1
    (Threads.run server (spawn requests tasks) schedule).2

/-- `Dispatcher::run` on a client connection with local address `localAddress`: the check of
the peer addresses, before any task is spawned; the tasks, interleaved as `schedule` gives; and
the response, written by `respond`, whose check passes again. -/
def run (localAddress : SocketAddr) (requests : List PeerRequest)
    (tasks : Nat → StoreFaults × PeerConnection) (schedule : List Nat) (server : Server)
    (client : Sink) : Except SyncError Unit × Server × Sink :=
  if requests.any (·.containsPeer localAddress) then (.error .peerAddressIsSelf, server, client)
  else
    match awaitAll requests tasks schedule server with
    | (results, server') =>
      match respond localAddress requests (results.map .done) client with
      | (result, client') => (result, server', client')

/-- The `i`-th peer request asks for `y`. -/
def AsksFor (requests : List PeerRequest) (i : Nat) (y : ObjectId) : Prop :=
  ∃ p, requests[i]? = some p ∧ y ∈ p.incomingObjects

variable {requests : List PeerRequest} {tasks : Nat → StoreFaults × PeerConnection}

/-- Peer requests none of whose ids is named twice ask for disjoint ids. -/
theorem asksFor_disjoint (hnd : (requests.map PeerRequest.incomingObjects).flatten.Nodup) :
    ∀ i j, i ≠ j → ∀ y, AsksFor requests i y → ¬AsksFor requests j y := by
  have hpw : requests.Pairwise fun p q => p.incomingObjects.Disjoint q.incomingObjects :=
    List.pairwise_map.1 (List.nodup_flatten.1 hnd).2
  have hlt : ∀ i j, i < j → ∀ y, AsksFor requests i y → ¬AsksFor requests j y := by
    rintro i j hij y ⟨p, hp, hy⟩ ⟨q, hq, hy'⟩
    obtain ⟨hi, rfl⟩ := List.getElem?_eq_some_iff.1 hp
    obtain ⟨hj, rfl⟩ := List.getElem?_eq_some_iff.1 hq
    exact List.pairwise_iff_getElem.1 hpw i j hi hj hij hy hy'
  intro i j hij y hi hj
  rcases Nat.lt_or_gt_of_ne hij with h | h
  · exact hlt i j h y hi hj
  · exact hlt j i h y hj hi

theorem getElem?_spawn {k : Nat} {t : Thread SyncError Server Bytes Unit}
    (h : (spawn requests tasks)[k]? = some t) :
    ∃ p, requests[k]? = some p ∧ t = ⟨p.task (tasks k).1 (tasks k).2, (tasks k).2.response⟩ := by
  rw [spawn, List.getElem?_mapIdx] at h
  cases hp : requests[k]? with
  | none => rw [hp] at h; cases h
  | some p => rw [hp, Option.map_some', Option.some.injEq] at h; exact ⟨p, rfl, h.symm⟩

/-- The `k`-th task is local to the ids of the `k`-th peer request. -/
theorem local_spawn {k : Nat} {t : Thread SyncError Server Bytes Unit}
    (h : (spawn requests tasks)[k]? = some t) : t.Local Server.view (AsksFor requests k) := by
  obtain ⟨p, hp, rfl⟩ := getElem?_spawn h
  exact (p.local_task _ _).mono fun y hy => ⟨p, hp, hy⟩

theorem nodup_of_valid (hvalid : (Request.sync requests).validate = .ok ()) :
    (requests.map PeerRequest.incomingObjects).flatten.Nodup :=
  (validatePeerRequests_eq_ok.1 (validatePeerRequests_of_validate hvalid)).2.1

/-- Every task is local to a footprint that holds the ids of every peer request. -/
theorem local_spawn_of_subset {G : ObjectId → Prop}
    (hG : ∀ p ∈ requests, ∀ y ∈ p.incomingObjects, G y) :
    ∀ t ∈ spawn requests tasks, t.Local Server.view G := by
  intro t ht
  obtain ⟨k, hk⟩ := List.mem_iff_getElem?.1 ht
  obtain ⟨p, hp, rfl⟩ := getElem?_spawn hk
  exact Conc.Local.mono (p.local_task _ _) fun y hy => hG p (List.mem_iff_getElem?.2 ⟨k, hp⟩) y hy

/-- Whatever the SYNC, under every schedule its tasks keep the server at every id outside its
peer requests' ids. -/
theorem view_awaitAll_of_not_mem {y : ObjectId} (hy : ∀ p ∈ requests, y ∉ p.incomingObjects)
    (schedule : List Nat) (server : Server) :
    (awaitAll requests tasks schedule server).2.view y = server.view y := by
  have hloc : ∀ t ∈ spawn requests tasks,
      t.Local Server.view fun y => ∃ p ∈ requests, y ∈ p.incomingObjects :=
    local_spawn_of_subset fun p hp y hyp => ⟨p, hp, hyp⟩
  have hG : ¬∃ p ∈ requests, y ∈ p.incomingObjects := fun ⟨p, hp, hyp⟩ => hy p hp hyp
  exact (Threads.finish_frames (Threads.run_within schedule hloc) hG).trans
    (Threads.run_frames schedule hloc hG)

/-- Whatever the SYNC, under every schedule its tasks cannot tell apart servers that agree at a
footprint holding its ids: they return the same, and leave the servers agreeing there. -/
theorem awaitAll_agree (tasks : Nat → StoreFaults × PeerConnection) {G : ObjectId → Prop} (hG : ∀ p ∈ requests, ∀ y ∈ p.incomingObjects, G y)
    (schedule : List Nat) {s t : Server} (h : ∀ y, G y → s.view y = t.view y) :
    (awaitAll requests tasks schedule s).1 = (awaitAll requests tasks schedule t).1 ∧
      ∀ y, G y → (awaitAll requests tasks schedule s).2.view y = (awaitAll requests tasks schedule t).2.view y := by
  have hloc : ∀ t ∈ spawn requests tasks, t.Local Server.view G := local_spawn_of_subset hG
  obtain ⟨hts, hv⟩ := Threads.run_agree schedule hloc h
  unfold awaitAll
  rw [← hts]
  exact Threads.finish_agree (Threads.run_within schedule hloc) hv

/-- In a SYNC that names no id twice, under every schedule, each task returns what
`process_peer_request` returns for it alone on the server the SYNC found, and leaves the ids of
its peer request as it would alone; the server is as it was at every other id. -/
theorem awaitAll_alone (tasks : Nat → StoreFaults × PeerConnection)
    (hnd : (requests.map PeerRequest.incomingObjects).flatten.Nodup)
    (schedule : List Nat) (server : Server) :
    (awaitAll requests tasks schedule server).1 =
        requests.mapIdx (fun k p => (processPeerRequest p (tasks k).1 (tasks k).2 server).1) ∧
      (∀ k p, requests[k]? = some p → ∀ y ∈ p.incomingObjects,
        (awaitAll requests tasks schedule server).2.view y =
          (processPeerRequest p (tasks k).1 (tasks k).2 server).2.view y) ∧
      ∀ y, (∀ p ∈ requests, y ∉ p.incomingObjects) →
        (awaitAll requests tasks schedule server).2.view y = server.view y := by
  unfold awaitAll
  obtain ⟨hres, hfoot, hout⟩ := Threads.finish_run_alone (asksFor_disjoint hnd)
    (spawn requests tasks) (fun _ _ => local_spawn) server schedule
  refine ⟨?_, fun k p hp y hy => ?_, fun y hy => hout y fun i _ ⟨p, hp, hyp⟩ =>
    hy p (List.mem_iff_getElem?.2 ⟨i, hp⟩) hyp⟩
  · refine hres.trans (List.ext_getElem? fun k => ?_)
    rw [List.getElem?_map, spawn, List.getElem?_mapIdx, List.getElem?_mapIdx]
    cases requests[k]? with
    | none => rfl
    | some p => exact congrArg some (p.alone_task _ _ server).1
  · have ht : (spawn requests tasks)[k]? =
        some ⟨p.task (tasks k).1 (tasks k).2, (tasks k).2.response⟩ := by
      rw [spawn, List.getElem?_mapIdx, hp]
      rfl
    rw [hfoot k _ ht y ⟨p, hp, hy⟩, (p.alone_task _ _ server).2]

theorem map_mapIdx {α β γ : Type} (f : β → γ) (g : Nat → α → β) (l : List α) :
    (l.mapIdx g).map f = l.mapIdx fun k a => f (g k a) :=
  List.ext_getElem? fun k => by simp only [List.getElem?_map, List.getElem?_mapIdx, Option.map_map]; rfl

theorem forall_mem_mapIdx {α β : Type} {f : Nat → α → β} {l : List α} {P : β → Prop} :
    (∀ b ∈ l.mapIdx f, P b) ↔ ∀ i a, l[i]? = some a → P (f i a) := by
  simp only [List.mem_iff_getElem?, List.getElem?_mapIdx, Option.map_eq_some']
  exact ⟨fun h i a ha => h _ ⟨i, a, ha, rfl⟩, fun h b ⟨i, a, ha, hb⟩ => hb ▸ h i a ha⟩

/-- In a SYNC that names no id twice, `receiving` ends as it was minus exactly the SYNC's ids,
under every schedule. -/
theorem receiving_awaitAll (tasks : Nat → StoreFaults × PeerConnection)
    (hnd : (requests.map PeerRequest.incomingObjects).flatten.Nodup) (schedule : List Nat)
    (server : Server) :
    (awaitAll requests tasks schedule server).2.receiving =
      server.receiving \ (requests.map PeerRequest.incomingObjects).flatten.toFinset := by
  obtain ⟨-, hfoot, hout⟩ := awaitAll_alone tasks hnd schedule server
  ext y
  simp only [Finset.mem_sdiff, List.mem_toFinset, List.mem_flatten, List.mem_map]
  by_cases hy : ∃ p ∈ requests, y ∈ p.incomingObjects
  · obtain ⟨p, hp, hyp⟩ := hy
    obtain ⟨k, hk⟩ := List.mem_iff_getElem?.1 hp
    rw [(Server.view_eq_iff.1 (hfoot k p hk y hyp)).2, processPeerRequest_receiving,
      ObjectReceiver.drop, Pool.mem_release]
    exact ⟨fun h => absurd hyp (h.2 rfl), fun h => absurd ⟨_, ⟨p, hp, rfl⟩, hyp⟩ h.2⟩
  · rw [(Server.view_eq_iff.1 (hout y fun p hp hyp => hy ⟨p, hp, hyp⟩)).2]
    exact ⟨fun h => ⟨h, fun ⟨_, ⟨p, hp, hl⟩, hyl⟩ => hy ⟨p, hp, hl ▸ hyl⟩⟩, And.left⟩

variable {localAddress : SocketAddr} {schedule : List Nat} {server : Server} {client : Sink}

theorem run_of_self (h : requests.any (·.containsPeer localAddress) = true) :
    run localAddress requests tasks schedule server client = (.error .peerAddressIsSelf, server, client) := by
  simp only [run, h, if_true]

theorem run_of_not_self (h : requests.any (·.containsPeer localAddress) = false) :
    run localAddress requests tasks schedule server client =
      ((respond localAddress requests ((awaitAll requests tasks schedule server).1.map .done) client).1,
        (awaitAll requests tasks schedule server).2,
        (respond localAddress requests ((awaitAll requests tasks schedule server).1.map .done) client).2) := by
  simp only [run, h, Bool.false_eq_true, if_false]

/-- Whatever the SYNC, the dispatcher keeps the server at every id outside its peer requests'
ids. -/
theorem view_run_of_not_mem {y : ObjectId} (hy : ∀ p ∈ requests, y ∉ p.incomingObjects) :
    (run localAddress requests tasks schedule server client).2.1.view y = server.view y := by
  cases hself : requests.any (·.containsPeer localAddress)
  · rw [run_of_not_self hself]
    exact view_awaitAll_of_not_mem hy schedule server
  · rw [run_of_self hself]

/-- A SYNC that passes `validate` leaves `receiving` a part of what it found. -/
theorem receiving_run_subset (hvalid : (Request.sync requests).validate = .ok ()) :
    (run localAddress requests tasks schedule server client).2.1.receiving ⊆ server.receiving := by
  cases hself : requests.any (·.containsPeer localAddress)
  · rw [run_of_not_self hself, receiving_awaitAll tasks (nodup_of_valid hvalid)]
    exact Finset.sdiff_subset
  · rw [run_of_self hself]

/-- Whatever the SYNC, the dispatcher cannot tell apart servers that agree at a footprint
holding its ids: it returns the same, writes the same to its client, and leaves the servers
agreeing there. -/
theorem run_agree (localAddress : SocketAddr) (requests : List PeerRequest)
    (tasks : Nat → StoreFaults × PeerConnection) (schedule : List Nat) (client : Sink)
    {G : ObjectId → Prop} (hG : ∀ p ∈ requests, ∀ y ∈ p.incomingObjects, G y)
    {s t : Server} (h : ∀ y, G y → s.view y = t.view y) :
    (run localAddress requests tasks schedule s client).1 =
        (run localAddress requests tasks schedule t client).1 ∧
      (∀ y, G y → (run localAddress requests tasks schedule s client).2.1.view y =
        (run localAddress requests tasks schedule t client).2.1.view y) ∧
      (run localAddress requests tasks schedule s client).2.2 =
        (run localAddress requests tasks schedule t client).2.2 := by
  cases hself : requests.any (·.containsPeer localAddress)
  · obtain ⟨hres, hv⟩ := awaitAll_agree tasks hG schedule h
    rw [run_of_not_self hself, run_of_not_self hself, hres]
    exact ⟨rfl, hv, rfl⟩
  · rw [run_of_self hself, run_of_self hself]
    exact ⟨rfl, h, rfl⟩

/-- A SYNC that passes `validate` and names no peer equal to the server, answered over a client
connection that holds: the dispatcher returns `Ok`, having written the code of each task as it
would end alone on the server the SYNC found. -/
theorem run_of_valid (hvalid : (Request.sync requests).validate = .ok ())
    (hself : requests.any (·.containsPeer localAddress) = false) (hk : client.breaksAt = none) :
    run localAddress requests tasks schedule server client =
      (.ok (), (awaitAll requests tasks schedule server).2, { client with sent := client.sent ++
        (requests.mapIdx fun k p =>
          (TaskResult.done (processPeerRequest p (tasks k).1 (tasks k).2 server).1).responseCode) }) := by
  have hnd := nodup_of_valid hvalid
  rw [run_of_not_self hself, (awaitAll_alone tasks hnd schedule server).1, map_mapIdx,
    respond_of_not_self hself hk, map_mapIdx]

/-- In a SYNC that passes `validate` and names no peer equal to the server, under every schedule
of its tasks' steps: the dispatcher answers the client as it would if each task had returned what
`process_peer_request` returns for it alone on the server the SYNC found; each task leaves the
objects under its ids as it would alone; every other object is untouched, and `receiving` ends
as it was minus exactly the SYNC's ids. -/
theorem run_alone (localAddress : SocketAddr) (requests : List PeerRequest)
    (tasks : Nat → StoreFaults × PeerConnection) (schedule : List Nat) (server : Server)
    (client : Sink) (hvalid : (Request.sync requests).validate = .ok ())
    (hself : requests.any (·.containsPeer localAddress) = false) :
    let alone := fun k p => processPeerRequest p (tasks k).1 (tasks k).2 server
    let out := run localAddress requests tasks schedule server client
    (out.1, out.2.2) =
        respond localAddress requests (requests.mapIdx fun k p => .done (alone k p).1) client ∧
      (∀ k p, requests[k]? = some p → ∀ y ∈ p.incomingObjects,
        out.2.1.store.objects y = (alone k p).2.store.objects y) ∧
      (∀ y, (∀ p ∈ requests, y ∉ p.incomingObjects) →
        out.2.1.store.objects y = server.store.objects y) ∧
      out.2.1.receiving =
        server.receiving \ (requests.map PeerRequest.incomingObjects).flatten.toFinset := by
  have hnd := nodup_of_valid hvalid
  obtain ⟨hres, hfoot, hout⟩ := awaitAll_alone tasks hnd schedule server
  dsimp only
  rw [run_of_not_self hself]
  exact ⟨by rw [hres, map_mapIdx], fun k p hp y hy => (Server.view_eq_iff.1 (hfoot k p hp y hy)).1,
    fun y hy => (Server.view_eq_iff.1 (hout y hy)).1, receiving_awaitAll tasks hnd schedule server⟩

/-- A SYNC of a COPY and a TAKE of two ids from two peers, each sending one object, on an empty
server, the tasks' steps alternating. -/
theorem run_alone_copy_take :
    let localAddress : SocketAddr := .v4 ⟨[10, 0, 0, 1], rfl⟩ 2021
    let requests : List PeerRequest := [.copy (.v4 ⟨[10, 0, 0, 2], rfl⟩ 2021) [ObjectId.ofBytes []],
      .take (.v4 ⟨[10, 0, 0, 3], rfl⟩ 2021) [ObjectId.ofBytes [1]]]
    let tasks : Nat → StoreFaults × PeerConnection :=
      fun _ => (StoreFaults.none, ⟨none, none, [StatusCodes.begin, 0, 0, 1, 0, 0, 0, 0, 0, 7]⟩)
    let server : Server := ⟨Plasma.empty, ∅⟩
    let alone := fun k p => processPeerRequest p (tasks k).1 (tasks k).2 server
    let out := run localAddress requests tasks [0, 1, 0, 1, 1, 0] server ⟨[], none⟩
    (Request.sync requests).validate = .ok () ∧
      requests.any (·.containsPeer localAddress) = false ∧
      (out.1, out.2.2) =
        respond localAddress requests (requests.mapIdx fun k p => .done (alone k p).1) ⟨[], none⟩ ∧
      (∀ k p, requests[k]? = some p → ∀ y ∈ p.incomingObjects,
        out.2.1.store.objects y = (alone k p).2.store.objects y) ∧
      (∀ y, (∀ p ∈ requests, y ∉ p.incomingObjects) →
        out.2.1.store.objects y = server.store.objects y) ∧
      out.2.1.receiving =
        server.receiving \ (requests.map PeerRequest.incomingObjects).flatten.toFinset :=
  ⟨rfl, rfl, run_alone _ _ _ _ _ _ rfl rfl⟩

end Dispatcher

end PlasmaStream
