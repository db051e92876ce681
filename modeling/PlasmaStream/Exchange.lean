import PlasmaStream.Handler
import PlasmaStream.Transfer

/-!
# A peer request between two servers

`process_peer_request`, on the server that receives, prepares its receiver, writes
`Request::Copy(objects)` or `Request::Take(objects)` to the peer it pulls from, and runs the
receiver on the peer's answer. The peer's `Handler::run` reads that request, validates it, runs
the sender `build_sender` makes for it, and reads the end of the connection once the task has
closed it.

`processPeerRequest_eq_transfer`: the two servers together compute `transfer`, the model of a
COPY or a TAKE that the theorems on moving objects are stated over. The task returns the
transfer's receive result and leaves the transfer's destination store, with `receiving` as it
found it; the peer's handler returns the transfer's send result and leaves its source store.

1. The request is read back whole (`Request.readFrom_writeInto`) and passes `validate`, so the
   peer's handler runs the sender and then reads the end of the stream
   (`Handler.run_peerRequest`).
2. `prepare` passes (`ObjectReceiver.prepare_of_free`), and the receiver's drop gives back the
   `receiving` set it found (`ObjectReceiver.drop_union`).
-/

namespace PlasmaStream

/-- The request `process_peer_request` writes to the peer: `Request::Copy(objects)` for a COPY,
`Request::Take(objects)` for a TAKE. -/
def PeerRequest.request : PeerRequest → Request
  | .copy _ objects => .copy objects
  | .take _ objects => .take objects

/-- Whether the peer's handler builds its sender to delete what it sent: for a TAKE. -/
def PeerRequest.deleteAfterSend : PeerRequest → Bool
  | .copy .. => false
  | .take .. => true

namespace Handler

variable {peerAddr localAddress : SocketAddr} {env : Nat → RequestEnv} {n : HandlerNode}

/-- The peer's handler on the connection of a peer request that passes `validate`: it serves the
request with the sender for its objects, and returns what the sender returned once the
requester has closed the connection. -/
theorem run_peerRequest {p : PeerRequest} (hfits : p.incomingObjects.length < 2 ^ 16)
    (hvalid : p.request.validate = .ok ()) :
    run peerAddr localAddress env p.request.writeInto n =
      match send ⟨peerAddr, p.incomingObjects, p.deleteAfterSend⟩ (env 0).faults n with
      | .ok () n' => .ok () n'
      | .error e n' => .error (.error e) n' := by
  have hr : p.request.Fits := by cases p <;> exact hfits
  have hserve : serveRequest peerAddr localAddress (env 0) p.request n =
      send ⟨peerAddr, p.incomingObjects, p.deleteAfterSend⟩ (env 0).faults n := by
    cases p <;> simp only [PeerRequest.request] at hvalid <;>
      simp only [serveRequest, PeerRequest.request, PeerRequest.incomingObjects,
        PeerRequest.deleteAfterSend, hvalid]
  rw [← List.append_nil p.request.writeInto, run_writeInto hr, hserve]
  cases send ⟨peerAddr, p.incomingObjects, p.deleteAfterSend⟩ (env 0).faults n <;> rfl

end Handler

theorem processPeerRequest_eq_transfer (p : PeerRequest) (faults : StoreFaults) (server : Server)
    (address : SocketAddr) (env : Nat → RequestEnv) (source : HandlerNode) (c : Connection)
    (hfits : p.incomingObjects.length < 2 ^ 16) (hvalid : p.request.validate = .ok ())
    (hfree : ∀ x ∈ p.incomingObjects, x ∉ server.receiving)
    (hstore : server.store.containsMany faults p.incomingObjects = .ok [])
    (hsink : source.sink = ⟨[], c.sendBreaksAt⟩) :
    processPeerRequest p faults
        ⟨none, none, c.delivered
          (outcome (Handler.run address p.«from» env p.request.writeInto source)).2.sink.sent⟩
        server =
      ((transfer p.incomingObjects p.deleteAfterSend ⟨p.«from», source.store, (env 0).faults⟩
          source.deleting ⟨address, server.store, faults⟩ c).receiveResult.mapError .receiverError,
        ⟨(transfer p.incomingObjects p.deleteAfterSend ⟨p.«from», source.store, (env 0).faults⟩
          source.deleting ⟨address, server.store, faults⟩ c).destination, server.receiving⟩) ∧
    (outcome (Handler.run address p.«from» env p.request.writeInto source)).1 =
      (transfer p.incomingObjects p.deleteAfterSend ⟨p.«from», source.store, (env 0).faults⟩
        source.deleting ⟨address, server.store, faults⟩ c).sendResult.mapError
          (fun e => .error (.send e)) ∧
    (outcome (Handler.run address p.«from» env p.request.writeInto source)).2.store =
      (transfer p.incomingObjects p.deleteAfterSend ⟨p.«from», source.store, (env 0).faults⟩
        source.deleting ⟨address, server.store, faults⟩ c).source := by
  obtain ⟨store, receiving, deleting, sink⟩ := source
  subst hsink
  have hprep := ObjectReceiver.prepare_of_free (r := ⟨p.«from», p.incomingObjects⟩) hfree hstore
  have hdrop := ObjectReceiver.drop_union (r := ⟨p.«from», p.incomingObjects⟩) hfree
  rw [Handler.run_peerRequest hfits hvalid]
  unfold Handler.send
  cases hs : (ObjectSender.mk address p.incomingObjects p.deleteAfterSend).run (env 0).faults
      ⟨store, deleting, ⟨[], c.sendBreaksAt⟩⟩ with
  | ok _ m | error _ m =>
    cases hr : (ObjectReceiver.mk p.«from» p.incomingObjects).run faults p.«from»
        ⟨server.store, c.delivered m.sink.sent⟩ <;>
      simp [processPeerRequest, receiveFromPeer, hprep, hdrop, transfer, hs, hr, Except.mapError]

/-- A COPY of one object between two servers whose stores answer every call. -/
theorem processPeerRequest_eq_transfer_copy :
    let x := ObjectId.ofBytes []
    let peer : SocketAddr := .v4 ⟨[10, 0, 0, 2], rfl⟩ 2021
    let address : SocketAddr := .v4 ⟨[10, 0, 0, 1], rfl⟩ 2021
    let env : Nat → RequestEnv :=
      fun _ => ⟨StoreFaults.none, fun _ => (StoreFaults.none, ⟨none, none, []⟩), []⟩
    let source : HandlerNode := ⟨Plasma.empty.put x (some ⟨[], [1], true, false⟩), ∅, ∅, ⟨[], none⟩⟩
    let served := outcome (Handler.run address peer env (Request.copy [x]).writeInto source)
    let out := transfer [x] false ⟨peer, source.store, StoreFaults.none⟩ ∅
      ⟨address, Plasma.empty, StoreFaults.none⟩ ⟨none, none⟩
    [x].length < 2 ^ 16 ∧ (Request.copy [x]).validate = .ok () ∧
      (∀ y ∈ [x], y ∉ (∅ : Finset ObjectId)) ∧
      Plasma.empty.containsMany StoreFaults.none [x] = .ok [] ∧ source.sink = ⟨[], none⟩ ∧
      processPeerRequest (.copy peer [x]) StoreFaults.none
          ⟨none, none, Connection.delivered ⟨none, none⟩ served.2.sink.sent⟩ ⟨Plasma.empty, ∅⟩ =
        (out.receiveResult.mapError .receiverError, ⟨out.destination, ∅⟩) ∧
      served.1 = out.sendResult.mapError (fun e => .error (.send e)) ∧
      served.2.store = out.source := by
  have hfree : ∀ y ∈ [ObjectId.ofBytes []], y ∉ (∅ : Finset ObjectId) := by simp
  exact ⟨by decide, rfl, hfree, rfl, rfl,
    processPeerRequest_eq_transfer (.copy _ _) _ ⟨_, _⟩ _ _ ⟨_, _, _, _⟩ ⟨_, _⟩ (by decide) rfl hfree
      rfl rfl⟩

/-! ## What the requester reports -/

/-- The peer's handler writes to the connection exactly what its sender writes. -/
theorem Handler.sink_run_peerRequest {p : PeerRequest} {address : SocketAddr}
    {env : Nat → RequestEnv} {source : HandlerNode} (hfits : p.incomingObjects.length < 2 ^ 16)
    (hvalid : p.request.validate = .ok ()) :
    (outcome (Handler.run address p.«from» env p.request.writeInto source)).2.sink =
      (outcome ((ObjectSender.mk address p.incomingObjects p.deleteAfterSend).run (env 0).faults
        ⟨source.store, source.deleting, source.sink⟩)).2.sink := by
  rw [Handler.run_peerRequest hfits hvalid]
  cases hs : (ObjectSender.mk address p.incomingObjects p.deleteAfterSend).run (env 0).faults
      ⟨source.store, source.deleting, source.sink⟩ <;>
    simp [Handler.send, hs]

/-- Between two servers that run this code, the requester reports a peer request as `SUCCESS`
only when it succeeded: the peer's answer starts with `BEGIN` or with its sender's code, and no
code of a sender is `SUCCESS`. -/
theorem processPeerRequest_eq_ok_of_success {p : PeerRequest} {faults : StoreFaults}
    {server : Server} {address : SocketAddr} {env : Nat → RequestEnv} {source : HandlerNode}
    {c : Connection} {conn : PeerConnection} (hfits : p.incomingObjects.length < 2 ^ 16)
    (hvalid : p.request.validate = .ok ()) (hsent : source.sink.sent = [])
    (hconn : conn.response =
      c.delivered (outcome (Handler.run address p.«from» env p.request.writeInto source)).2.sink.sent)
    (h : (TaskResult.done (processPeerRequest p faults conn server).1).responseCode =
      StatusCodes.success) :
    (processPeerRequest p faults conn server).1 = .ok () := by
  rcases (TaskResult.responseCode_eq_success _).1 h with h | ⟨peer, h⟩
  · exact TaskResult.done.inj h
  obtain ⟨rest, hresp, -⟩ := processPeerRequest_peerError (TaskResult.done.inj h)
  have hp := c.delivered_prefix
    (outcome (Handler.run address p.«from» env p.request.writeInto source)).2.sink.sent
  rw [← hconn, hresp, Handler.sink_run_peerRequest hfits hvalid] at hp
  obtain ⟨t, ht⟩ := hp
  rcases ObjectSender.run_head _ _ _ (by rw [← ht, hsent]; rfl) with hb | ⟨e, -, he⟩
  · exact absurd hb (by decide)
  · exact absurd rfl (ObjectSendError.responseCode_ne_success he)

/-- Between two servers that run this code, whatever the stores' faults, whether the connection
to the peer or the write of the request fails, and wherever the connection breaks, the requester
reports a peer request as `SUCCESS` exactly when it succeeded. -/
theorem processPeerRequest_success_iff (p : PeerRequest) (faults : StoreFaults) (server : Server)
    (address : SocketAddr) (env : Nat → RequestEnv) (source : HandlerNode) (c : Connection)
    (connectError writeError : Option IoError)
    (hfits : p.incomingObjects.length < 2 ^ 16) (hvalid : p.request.validate = .ok ())
    (hsent : source.sink.sent = []) :
    let conn : PeerConnection := ⟨connectError, writeError,
      c.delivered (outcome (Handler.run address p.«from» env p.request.writeInto source)).2.sink.sent⟩
    (TaskResult.done (processPeerRequest p faults conn server).1).responseCode = StatusCodes.success ↔
      (processPeerRequest p faults conn server).1 = .ok () :=
  ⟨processPeerRequest_eq_ok_of_success hfits hvalid hsent rfl, fun h => by rw [h]; rfl⟩

/-- A COPY of one object whose request the connection to the peer fails to carry. -/
theorem processPeerRequest_success_iff_copy :
    let x := ObjectId.ofBytes []
    let peer : SocketAddr := .v4 ⟨[10, 0, 0, 2], rfl⟩ 2021
    let env : Nat → RequestEnv :=
      fun _ => ⟨StoreFaults.none, fun _ => (StoreFaults.none, ⟨none, none, []⟩), []⟩
    let source : HandlerNode := ⟨Plasma.empty.put x (some ⟨[], [1], true, false⟩), ∅, ∅, ⟨[], none⟩⟩
    let conn : PeerConnection := ⟨none, some .brokenPipe, Connection.delivered ⟨none, none⟩
      (outcome (Handler.run (.v4 ⟨[10, 0, 0, 1], rfl⟩ 2021) peer env (Request.copy [x]).writeInto
        source)).2.sink.sent⟩
    [x].length < 2 ^ 16 ∧ (Request.copy [x]).validate = .ok () ∧ source.sink.sent = [] ∧
      ((TaskResult.done (processPeerRequest (.copy peer [x]) StoreFaults.none conn
          ⟨Plasma.empty, ∅⟩).1).responseCode = StatusCodes.success ↔
        (processPeerRequest (.copy peer [x]) StoreFaults.none conn ⟨Plasma.empty, ∅⟩).1 = .ok ()) :=
  ⟨by decide, rfl, rfl, processPeerRequest_success_iff (.copy _ _) _ ⟨_, _⟩ _ _ ⟨_, _, _, _⟩ ⟨_, _⟩
    none (some .brokenPipe) (by decide) rfl rfl⟩

/-! ## A SYNC between servers that run this code -/

/-- Each peer request of a SYNC that passes `validate` is written to its peer as a request that
passes `validate`: its ids are distinct, and there are at least one and at most
`MAX_OBJECT_ID_LIST_LEN` of them. -/
theorem PeerRequest.validate_request {requests : List PeerRequest}
    (hvalid : (Request.sync requests).validate = .ok ()) {p : PeerRequest} (hp : p ∈ requests) :
    p.request.validate = .ok () := by
  obtain ⟨hlen, hnd, -⟩ := validatePeerRequests_eq_ok.1 (validatePeerRequests_of_validate hvalid)
  have h := validate_copy_of_nodup (hnd.sublist (List.sublist_flatten_of_mem (List.mem_map_of_mem _ hp)))
    (List.ne_nil_of_length_pos (hlen p hp).1) (hlen p hp).2
  cases p <;> exact h

/-- Between servers that run this code, whatever the stores' faults, the failures of the
connections to the peers and the interleaving of the tasks' steps, a client's SYNC returns `Ok`
exactly when every task succeeded, as it would alone on the server the SYNC found: each peer
answers with `BEGIN` or with its sender's code, never with `SUCCESS`, and the tasks do not
interfere. -/
theorem Client.sync_eq_ok_iff (localAddress : SocketAddr) (requests : List PeerRequest)
    (tasks : Nat → StoreFaults × PeerConnection) (schedule : List Nat) (server : Server)
    (env : Nat → Nat → RequestEnv) (peers : Nat → HandlerNode) (conns : Nat → Connection)
    (hvalid : (Request.sync requests).validate = .ok ())
    (hself : requests.any (·.containsPeer localAddress) = false)
    (hfits : ∀ p ∈ requests, p.incomingObjects.length < 2 ^ 16)
    (hpeers : ∀ k p, requests[k]? = some p → (peers k).sink.sent = [] ∧
      (tasks k).2.response = (conns k).delivered
        (outcome (Handler.run localAddress p.«from» (env k) p.request.writeInto (peers k))).2.sink.sent) :
    Client.sync requests
        (Dispatcher.run localAddress requests tasks schedule server ⟨[], none⟩).2.2.sent = .ok () ↔
      ∀ k p, requests[k]? = some p → (processPeerRequest p (tasks k).1 (tasks k).2 server).1 = .ok () := by
  rw [Dispatcher.run_of_valid hvalid hself rfl, List.nil_append,
    ← Dispatcher.map_mapIdx TaskResult.responseCode, Client.sync_codes hvalid (by simp),
    Dispatcher.forall_mem_mapIdx]
  refine forall_congr' fun k => forall_congr' fun p => imp_congr_right fun hp => ?_
  have hmem : p ∈ requests := List.mem_iff_getElem?.2 ⟨k, hp⟩
  exact ⟨processPeerRequest_eq_ok_of_success (hfits p hmem) (PeerRequest.validate_request hvalid hmem)
    (hpeers k p hp).1 (hpeers k p hp).2, fun h => by rw [h]; rfl⟩

/-- A SYNC of one COPY, whose peer's connection breaks after five bytes of its answer. -/
theorem Client.sync_eq_ok_iff_copy :
    let x := ObjectId.ofBytes []
    let peer : SocketAddr := .v4 ⟨[10, 0, 0, 2], rfl⟩ 2021
    let localAddress : SocketAddr := .v4 ⟨[10, 0, 0, 1], rfl⟩ 2021
    let requests : List PeerRequest := [.copy peer [x]]
    let env : Nat → RequestEnv :=
      fun _ => ⟨StoreFaults.none, fun _ => (StoreFaults.none, ⟨none, none, []⟩), []⟩
    let source : HandlerNode := ⟨Plasma.empty.put x (some ⟨[], [1], true, false⟩), ∅, ∅, ⟨[], none⟩⟩
    let answer := Connection.delivered ⟨none, some 5⟩
      (outcome (Handler.run localAddress peer env (Request.copy [x]).writeInto source)).2.sink.sent
    let tasks : Nat → StoreFaults × PeerConnection := fun _ => (StoreFaults.none, ⟨none, none, answer⟩)
    (Request.sync requests).validate = .ok () ∧
      requests.any (·.containsPeer localAddress) = false ∧
      (∀ p ∈ requests, p.incomingObjects.length < 2 ^ 16) ∧
      (∀ k p, requests[k]? = some p → source.sink.sent = [] ∧
        (tasks k).2.response = Connection.delivered ⟨none, some 5⟩
          (outcome (Handler.run localAddress p.«from» env p.request.writeInto source)).2.sink.sent) ∧
      (Client.sync requests
          (Dispatcher.run localAddress requests tasks [0] ⟨Plasma.empty, ∅⟩ ⟨[], none⟩).2.2.sent = .ok () ↔
        ∀ k p, requests[k]? = some p →
          (processPeerRequest p (tasks k).1 (tasks k).2 ⟨Plasma.empty, ∅⟩).1 = .ok ()) := by
  have hfits : ∀ p ∈ [PeerRequest.copy (.v4 ⟨[10, 0, 0, 2], rfl⟩ 2021) [ObjectId.ofBytes []]],
      p.incomingObjects.length < 2 ^ 16 := by
    simp only [List.mem_singleton, forall_eq]
    decide
  have hpeers : ∀ (k : Nat) (p : PeerRequest),
      [PeerRequest.copy (.v4 ⟨[10, 0, 0, 2], rfl⟩ 2021) [ObjectId.ofBytes []]][k]? = some p →
        ([] : Bytes) = [] ∧
        Connection.delivered ⟨none, some 5⟩
          (outcome (Handler.run (.v4 ⟨[10, 0, 0, 1], rfl⟩ 2021) (.v4 ⟨[10, 0, 0, 2], rfl⟩ 2021)
            (fun _ => ⟨StoreFaults.none, fun _ => (StoreFaults.none, ⟨none, none, []⟩), []⟩)
            (Request.copy [ObjectId.ofBytes []]).writeInto
            ⟨Plasma.empty.put (ObjectId.ofBytes []) (some ⟨[], [1], true, false⟩), ∅, ∅,
              ⟨[], none⟩⟩)).2.sink.sent =
        Connection.delivered ⟨none, some 5⟩
          (outcome (Handler.run (.v4 ⟨[10, 0, 0, 1], rfl⟩ 2021) p.«from»
            (fun _ => ⟨StoreFaults.none, fun _ => (StoreFaults.none, ⟨none, none, []⟩), []⟩)
            p.request.writeInto
            ⟨Plasma.empty.put (ObjectId.ofBytes []) (some ⟨[], [1], true, false⟩), ∅, ∅,
              ⟨[], none⟩⟩)).2.sink.sent := by
    rintro (_ | k) p hp
    · cases hp
      exact ⟨rfl, rfl⟩
    · cases hp
  exact ⟨rfl, rfl, hfits, hpeers, Client.sync_eq_ok_iff _ _ _ _ _ (fun _ _ => _)
    (fun _ => ⟨_, ∅, ∅, ⟨[], none⟩⟩) (fun _ => ⟨none, some 5⟩) rfl rfl hfits hpeers⟩

end PlasmaStream
