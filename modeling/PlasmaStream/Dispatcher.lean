import PlasmaStream.Request
import PlasmaStream.Receiver
import PlasmaStream.Sender

/-!
# Answering a SYNC

`dispatcher.rs`: `Dispatcher::run` refuses a SYNC one of whose peer requests names the server's
own address, before it writes anything; otherwise it spawns one task of `process_peer_request`
per peer request and writes one byte per task, `SUCCESS` or the task's response code.
`client/mod.rs`: `Client::sync` reads one byte per peer request, and `parse_sync_response`
returns `Ok` when each reads as `PeerResult::Ok`. The tasks and their interleaving are in
`Tasks`; here, a task's steps one after the other, and the dispatcher's answer once its tasks
have ended (`Dispatcher.respond`).

* `Dispatcher.collectResponse_eq_map`: the response loop writes the code of each task, in order.
* `Dispatcher.respond_of_not_self`, `Dispatcher.respond_of_self`: what the dispatcher writes.
* `TaskResult.responseCode_eq_success`: a task is reported as `SUCCESS` when it succeeded, and
  also when it failed because the peer answered with the byte `SUCCESS`, which the receiver
  forwards as its `PeerError`.
-/

namespace PlasmaStream

/-! ## A peer request's task -/

/-- What the connection to the peer of a peer request does: whether `connect` fails, whether the
write of the request fails, and the bytes the peer answers with. -/
structure PeerConnection where
  connectError : Option IoError
  writeError : Option IoError
  response : Bytes

/-- A server as a peer request's task sees it: its store and its `receiving` set. -/
structure Server where
  store : Plasma
  receiving : Finset ObjectId

/-- The peer a request pulls its objects from. -/
def PeerRequest.«from» : PeerRequest → SocketAddr
  | .copy «from» _ => «from»
  | .take «from» _ => «from»

/-- The steps of `process_peer_request` up to its return: prepare the receiver, connect, send
the request and run the receiver; a failed step's error is returned. The two arms differ only in
the request they send. -/
def receiveFromPeer (request : PeerRequest) (faults : StoreFaults) (conn : PeerConnection)
    (server : Server) : Except SyncError Unit × Server :=
  let receiver : ObjectReceiver := ⟨request.«from», request.incomingObjects⟩
  match receiver.prepare faults server.store server.receiving with
  | .error e receiving => (.error (.receiverError e), { server with receiving := receiving })
  | .ok () receiving =>
    match conn.connectError, conn.writeError with
    | some e, _ => (.error (.peerConnectionFailed request.«from» e), { server with receiving := receiving })
    | none, some e => (.error (.peerRequestNotSent request.«from» e), { server with receiving := receiving })
    | none, none =>
      match receiver.run faults request.«from» ⟨server.store, conn.response⟩ with
      | .ok () n => (.ok (), ⟨n.store, receiving⟩)
      | .error e n => (.error (.receiverError e), ⟨n.store, receiving⟩)

/-- `process_peer_request`: the receiver is dropped on the way out, whatever the result. -/
def processPeerRequest (request : PeerRequest) (faults : StoreFaults) (conn : PeerConnection)
    (server : Server) : Except SyncError Unit × Server :=
  match receiveFromPeer request faults conn server with
  | (result, server') =>
    (result, { server' with
      receiving := (ObjectReceiver.mk request.«from» request.incomingObjects).drop server'.receiving })

/-- A peer whose first byte is `SUCCESS` in place of `BEGIN` fails the task with a `PeerError`
carrying `SUCCESS`. -/
theorem processPeerRequest_of_success_byte (request : PeerRequest) (faults : StoreFaults)
    (store : Plasma) (hfree : store.containsMany faults request.incomingObjects = .ok [])
    (rest : Bytes) :
    (processPeerRequest request faults ⟨none, none, StatusCodes.success :: rest⟩ ⟨store, ∅⟩).1 =
      .error (.receiverError (.peerError request.«from» StatusCodes.success)) := by
  have hprep : (ObjectReceiver.mk request.«from» request.incomingObjects).prepare faults store ∅ =
      .ok () (∅ ∪ request.incomingObjects.toFinset) := by
    simp [ObjectReceiver.prepare, ObjectReceiver.addToReceiving, reserve, Except.mapError, hfree]
  simp only [processPeerRequest, receiveFromPeer, hprep]
  rfl

/-- A task fails with a `PeerError` only when its receiver ran and the peer's first byte was not
`BEGIN`; the error carries that byte. -/
theorem processPeerRequest_peerError {request : PeerRequest} {faults : StoreFaults}
    {conn : PeerConnection} {server : Server} {peer : SocketAddr} {code : UInt8}
    (h : (processPeerRequest request faults conn server).1 =
      .error (.receiverError (.peerError peer code))) :
    ∃ rest, conn.response = code :: rest ∧ code ≠ StatusCodes.begin := by
  simp only [processPeerRequest, receiveFromPeer] at h
  split at h
  · next e _ hprep =>
    cases h
    exact absurd rfl (ObjectReceiver.prepare_notPeerError _ _ _ hprep peer code)
  · split at h
    · cases h
    · cases h
    · split at h
      · cases h
      · next hr =>
        cases h
        exact ObjectReceiver.run_peerError hr

/-- A task leaves `receiving` as its receiver's drop alone would: whatever `prepare` reserved is
released, however the task ended. -/
theorem processPeerRequest_receiving (request : PeerRequest) (faults : StoreFaults)
    (conn : PeerConnection) (server : Server) :
    (processPeerRequest request faults conn server).2.receiving =
      (ObjectReceiver.mk request.«from» request.incomingObjects).drop server.receiving := by
  rw [← ObjectReceiver.drop_prepare faults server.store]
  simp only [processPeerRequest, receiveFromPeer]
  cases (ObjectReceiver.mk request.«from» request.incomingObjects).prepare faults server.store
      server.receiving with
  | error => rfl
  | ok =>
    dsimp only
    split
    · rfl
    · rfl
    · split <;> rfl

/-! ## The dispatcher -/

/-- How the task of a peer request ended: with what `process_peer_request` returned, or in a
panic. -/
inductive TaskResult where
  | done (result : Except SyncError Unit)
  | panicked

/-- The byte the dispatcher reports for a task. -/
def TaskResult.responseCode : TaskResult → UInt8
  | .done (.ok ()) => StatusCodes.success
  | .done (.error err) => err.responseCode
  | .panicked => StatusCodes.peerRequestPanicked

namespace Dispatcher

/-- One turn of the loop over the tasks: the code of task `i` where `SUCCESS` was. -/
def collectOne (response : List UInt8) : Nat × TaskResult → List UInt8
  | (_, .done (.ok ())) => response
  | (i, .done (.error err)) => response.set i err.responseCode
  | (i, .panicked) => response.set i StatusCodes.peerRequestPanicked

/-- The response of `Dispatcher::run`: `SUCCESS` for each task, overwritten in a loop over the
tasks. -/
def collectResponse (results : List TaskResult) : List UInt8 :=
  results.enum.foldl collectOne (List.replicate results.length StatusCodes.success)

/-- The end of `Dispatcher::run` on a client connection with local address `localAddress`, given
how the tasks spawned for `requests` ended, in order: the check of the peer addresses, which
`run` makes before it spawns any task, and the response. -/
def respond (localAddress : SocketAddr) (requests : List PeerRequest) (results : List TaskResult)
    (client : Sink) : Except SyncError Unit × Sink :=
  if requests.any (·.containsPeer localAddress) then (.error .peerAddressIsSelf, client)
  else
    match client.writeAll (collectResponse results) with
    | (true, k) => (.ok (), k)
    | (false, k) => (.error (.clientConnectionError .brokenPipe), k)

theorem collectOne_eq (xs : List UInt8) (r : TaskResult) (rest : List UInt8) :
    collectOne (xs ++ StatusCodes.success :: rest) (xs.length, r) =
      xs ++ r.responseCode :: rest := by
  rcases r with (err | ⟨⟩) | ⟨⟩
  · simp [collectOne, List.set_append_right, TaskResult.responseCode]
  · rfl
  · simp [collectOne, List.set_append_right, TaskResult.responseCode]

theorem foldl_collectOne :
    ∀ (results : List TaskResult) (xs : List UInt8),
      (results.enumFrom xs.length).foldl collectOne
          (xs ++ List.replicate results.length StatusCodes.success) =
        xs ++ results.map TaskResult.responseCode
  | [], xs => by simp
  | r :: rs, xs => by
    rw [List.enumFrom_cons, List.foldl_cons, List.length_cons, List.replicate_succ, collectOne_eq]
    have := foldl_collectOne rs (xs ++ [r.responseCode])
    simpa using this

/-- The loop writes, for each task, its code. -/
theorem collectResponse_eq_map (results : List TaskResult) :
    collectResponse results = results.map TaskResult.responseCode := by
  simpa using foldl_collectOne results []

variable {localAddress : SocketAddr} {requests : List PeerRequest} {results : List TaskResult}
  {client : Sink}

/-- A SYNC naming the server's own address is refused before anything is written. -/
theorem respond_of_self (h : requests.any (·.containsPeer localAddress) = true) :
    respond localAddress requests results client = (.error .peerAddressIsSelf, client) := by
  simp [respond, h]

/-- Otherwise, over a client connection that holds, the dispatcher writes one code per task. -/
theorem respond_of_not_self (h : requests.any (·.containsPeer localAddress) = false)
    (hk : client.breaksAt = none) :
    respond localAddress requests results client =
      (.ok (), { client with sent := client.sent ++ results.map TaskResult.responseCode }) := by
  simp [respond, h, Sink.writeAll, hk, collectResponse_eq_map]

end Dispatcher

/-- The tasks reported as `SUCCESS`: those that succeeded, and those that failed because the peer
answered `SUCCESS` in place of `BEGIN`. -/
theorem TaskResult.responseCode_eq_success (r : TaskResult) :
    r.responseCode = StatusCodes.success ↔
      r = .done (.ok ()) ∨
        ∃ peer, r = .done (.error (.receiverError (.peerError peer StatusCodes.success))) := by
  rcases r with (err | ⟨⟩) | ⟨⟩
  · rw [TaskResult.responseCode, syncResponseCode_eq_success]
    simp
  · simp [TaskResult.responseCode]
  · simp [TaskResult.responseCode]; decide

/-- `ClientError`. -/
inductive ClientError where
  | malformedRequest (e : RequestError)
  | connectionError (msg : String) (e : IoError)
  | syncError (results : List PeerResult)

/-- `parse_sync_response`. -/
def parseSyncResponse (response : List UInt8) : Except ClientError Unit :=
  let results := response.map PeerResult.ofCode
  let errCount := (results.filter fun result => !result.isOk).length
  if errCount > 0 then .error (.syncError results) else .ok ()

/-- `Client::sync` once the request is written: one byte per peer request is read from what the
server sends back, and parsed. -/
def Client.sync (requests : List PeerRequest) (received : Bytes) : Except ClientError Unit :=
  match (Request.sync requests).validate with
  | .error e => .error (.malformedRequest e)
  | .ok () =>
    match readExact requests.length received with
    | some (response, _) => parseSyncResponse response
    | none => .error (.connectionError "failed to get a response" .unexpectedEof)

/-- The client accepts a response exactly when every byte is `SUCCESS`. -/
theorem parseSyncResponse_eq_ok (response : List UInt8) :
    parseSyncResponse response = .ok () ↔ ∀ b ∈ response, b = StatusCodes.success := by
  have hcount : (response.map PeerResult.ofCode).filter (fun result => !result.isOk) = [] ↔
      ∀ b ∈ response, b = StatusCodes.success := by
    simp [List.filter_eq_nil_iff, PeerResult.isOk_ofCode]
  unfold parseSyncResponse
  dsimp only
  split_ifs with h
  · simp only [reduceCtorEq, false_iff]
    intro hall
    rw [hcount.2 hall] at h
    exact absurd h (by decide)
  · simp only [true_iff]
    exact hcount.1 (List.eq_nil_of_length_eq_zero (Nat.eq_zero_of_not_pos h))

/-- The client of a valid SYNC, reading the codes of its tasks, accepts them exactly when each
task is reported as `SUCCESS`. -/
theorem Client.sync_codes {requests : List PeerRequest} {results : List TaskResult}
    (hvalid : (Request.sync requests).validate = .ok ()) (hlen : results.length = requests.length) :
    Client.sync requests (results.map TaskResult.responseCode) = .ok () ↔
      ∀ r ∈ results, r.responseCode = StatusCodes.success := by
  have hread : readExact requests.length (results.map TaskResult.responseCode) =
      some (results.map TaskResult.responseCode, []) := by
    simpa using readExact_append [] (by simp [hlen] :
      (results.map TaskResult.responseCode).length = requests.length)
  rw [Client.sync, hvalid]
  simp only [hread, parseSyncResponse_eq_ok, List.forall_mem_map]

/-! ## What the client of a SYNC reads -/

/-- A peer that answers `SUCCESS` in place of `BEGIN` fails its task, yet the task is reported
as `SUCCESS` and the client's `sync` returns `Ok`; and a valid SYNC naming the server's own
address gets no response at all. -/
theorem sync_reports_failed_request_as_success :
    (processPeerRequest (.copy (.v4 ⟨[10, 0, 0, 2], rfl⟩ 2021) [ObjectId.ofBytes []]) StoreFaults.none
        ⟨none, none, [StatusCodes.success]⟩ ⟨Plasma.empty, ∅⟩).1 =
      .error (.receiverError (.peerError (.v4 ⟨[10, 0, 0, 2], rfl⟩ 2021) StatusCodes.success)) ∧
    Dispatcher.respond (.v4 ⟨[10, 0, 0, 1], rfl⟩ 2021)
        [.copy (.v4 ⟨[10, 0, 0, 2], rfl⟩ 2021) [ObjectId.ofBytes []]]
        [.done (.error (.receiverError (.peerError (.v4 ⟨[10, 0, 0, 2], rfl⟩ 2021) StatusCodes.success)))]
        ⟨[], none⟩ = (.ok (), ⟨[StatusCodes.success], none⟩) ∧
    Client.sync [.copy (.v4 ⟨[10, 0, 0, 2], rfl⟩ 2021) [ObjectId.ofBytes []]] [StatusCodes.success] =
      .ok () ∧
    (Request.sync [.copy (.v4 ⟨[10, 0, 0, 1], rfl⟩ 2021) [ObjectId.ofBytes []]]).validate = .ok () ∧
    (Dispatcher.respond (.v4 ⟨[10, 0, 0, 1], rfl⟩ 2021)
        [.copy (.v4 ⟨[10, 0, 0, 1], rfl⟩ 2021) [ObjectId.ofBytes []]] [.done (.ok ())]
        ⟨[], none⟩).2.sent = [] :=
  ⟨processPeerRequest_of_success_byte (.copy (.v4 ⟨[10, 0, 0, 2], rfl⟩ 2021) [ObjectId.ofBytes []])
    StoreFaults.none Plasma.empty rfl [], rfl, rfl, rfl, rfl⟩

theorem sync_outcome (localAddress : SocketAddr) (requests : List PeerRequest)
    (results : List TaskResult) (hlen : results.length = requests.length)
    (hvalid : (Request.sync requests).validate = .ok ()) :
    (requests.any (·.containsPeer localAddress) = false →
      ∃ response, Dispatcher.respond localAddress requests results ⟨[], none⟩ = (.ok (), ⟨response, none⟩) ∧
        response.length = requests.length ∧
        (∀ i : Nat, response[i]? = some StatusCodes.success ↔
          results[i]? = some (.done (.ok ())) ∨
            ∃ peer, results[i]? = some (.done (.error (.receiverError (.peerError peer StatusCodes.success))))) ∧
        (Client.sync requests response = .ok () ↔
          ∀ r ∈ results, r = .done (.ok ()) ∨
            ∃ peer, r = .done (.error (.receiverError (.peerError peer StatusCodes.success))))) ∧
    (requests.any (·.containsPeer localAddress) = true →
      Dispatcher.respond localAddress requests results ⟨[], none⟩ = (.error .peerAddressIsSelf, ⟨[], none⟩) ∧
        Client.sync requests [] = .error (.connectionError "failed to get a response" .unexpectedEof)) := by
  have hne : requests ≠ [] := by
    rintro rfl
    exact absurd hvalid (by simp [Request.validate])
  refine ⟨fun hself => ⟨results.map TaskResult.responseCode, ?_, by simp [hlen], fun i => ?_, ?_⟩,
    fun hself => ⟨Dispatcher.respond_of_self hself, ?_⟩⟩
  · exact Dispatcher.respond_of_not_self hself rfl
  · rw [List.getElem?_map]
    cases results[i]? with
    | none => simp
    | some r => simpa using TaskResult.responseCode_eq_success r
  · simp only [Client.sync_codes hvalid hlen, TaskResult.responseCode_eq_success]
  · rw [Client.sync, hvalid]
    have hnone : readExact requests.length ([] : Bytes) = none :=
      readExact_eq_none.2 (List.length_pos.2 hne)
    simp only [hnone]

/-- A SYNC of one COPY, whose task succeeded. -/
theorem sync_outcome_one :
    [TaskResult.done (.ok ())].length =
        [PeerRequest.copy (.v4 ⟨[10, 0, 0, 2], rfl⟩ 2021) [ObjectId.ofBytes []]].length ∧
      (Request.sync [.copy (.v4 ⟨[10, 0, 0, 2], rfl⟩ 2021) [ObjectId.ofBytes []]]).validate = .ok () ∧
      (([PeerRequest.copy (.v4 ⟨[10, 0, 0, 2], rfl⟩ 2021) [ObjectId.ofBytes []]].any
          (·.containsPeer (.v4 ⟨[10, 0, 0, 1], rfl⟩ 2021)) = false →
        ∃ response, Dispatcher.respond (.v4 ⟨[10, 0, 0, 1], rfl⟩ 2021)
            [.copy (.v4 ⟨[10, 0, 0, 2], rfl⟩ 2021) [ObjectId.ofBytes []]] [.done (.ok ())] ⟨[], none⟩ =
            (.ok (), ⟨response, none⟩) ∧
          response.length = 1 ∧
          (∀ i : Nat, response[i]? = some StatusCodes.success ↔
            [TaskResult.done (.ok ())][i]? = some (.done (.ok ())) ∨
              ∃ peer, [TaskResult.done (.ok ())][i]? =
                some (.done (.error (.receiverError (.peerError peer StatusCodes.success))))) ∧
          (Client.sync [.copy (.v4 ⟨[10, 0, 0, 2], rfl⟩ 2021) [ObjectId.ofBytes []]] response = .ok () ↔
            ∀ r ∈ [TaskResult.done (.ok ())], r = .done (.ok ()) ∨
              ∃ peer, r = .done (.error (.receiverError (.peerError peer StatusCodes.success))))) ∧
      ([PeerRequest.copy (.v4 ⟨[10, 0, 0, 2], rfl⟩ 2021) [ObjectId.ofBytes []]].any
          (·.containsPeer (.v4 ⟨[10, 0, 0, 1], rfl⟩ 2021)) = true →
        Dispatcher.respond (.v4 ⟨[10, 0, 0, 1], rfl⟩ 2021)
            [.copy (.v4 ⟨[10, 0, 0, 2], rfl⟩ 2021) [ObjectId.ofBytes []]] [.done (.ok ())] ⟨[], none⟩ =
            (.error .peerAddressIsSelf, ⟨[], none⟩) ∧
          Client.sync [.copy (.v4 ⟨[10, 0, 0, 2], rfl⟩ 2021) [ObjectId.ofBytes []]] [] =
            .error (.connectionError "failed to get a response" .unexpectedEof))) :=
  ⟨rfl, rfl, sync_outcome _ _ _ rfl rfl⟩

end PlasmaStream
