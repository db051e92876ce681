import PlasmaStream.RequestCodec
import PlasmaStream.Tasks

/-!
# A connection's handler

`server/handler.rs`: `Handler::run` reads requests from its socket until the peer closes it,
and serves each in turn: `validate`, then for a COPY or a TAKE the sender `build_sender` makes,
for a SYNC the dispatcher. The first error ends the loop and is returned with `?`; nothing is
written for a request that fails to be read or validated.

The handler reads only in `read_from`, at the head of each turn, so the peer's side of the
connection is the list of bytes it sends, and the loop is a recursion over that list. The sender
of a COPY or TAKE and the tasks of a SYNC meet the rest of the world, the store's own failures
and the connections to peers, as a `RequestEnv`, one per request.

* `Handler.run_flatten`: a connection that carries requests the wire format can carry is served
  as the list of those requests, one after the other, up to the first failure; what follows them
  is read only then.
* `Handler.run_of_cut`: a request the peer stopped sending part way is never served; the handler
  fails with `UnexpectedEof` and leaves the server as the requests before it left it.
-/

namespace PlasmaStream

/-- The errors `Handler::run` passes on with `?`, each boxed into the crate's `Error`. -/
inductive HandlerError where
  | read (e : ReadError)
  | request (e : RequestError)
  | send (e : ObjectSendError)
  | sync (e : SyncError)
deriving DecidableEq

/-- How a handler's task ends short of `Ok(())`: `run` returns an error, or `read_ipv6_address`
panics. -/
inductive HandlerStop where
  | error (e : HandlerError)
  | panic
deriving DecidableEq

/-- A server as the handler of one connection sees it: its store, its `receiving` and `deleting`
sets, and the sending end of the connection. -/
structure HandlerNode where
  store : Plasma
  receiving : Finset ObjectId
  deleting : Finset ObjectId
  sink : Sink

abbrev Handle := EStateM HandlerError HandlerNode

/-- What one request meets outside the server: the store's own failures during its sender's
run, and, for a SYNC, the store's failures and the connection to the peer of its `i`-th task,
and the order in which the steps of its tasks interleave. -/
structure RequestEnv where
  faults : StoreFaults
  tasks : Nat → StoreFaults × PeerConnection
  schedule : List Nat

namespace Handler

variable (peerAddr localAddress : SocketAddr)

/-- The COPY and TAKE arms: `build_sender(peer_addr, object_ids, delete_after_send)` run on the
socket. The sender is dropped at the end of the statement, also when `?` returns its error. -/
def send (s : ObjectSender) (faults : StoreFaults) : Handle Unit := fun n =>
  match s.run faults ⟨n.store, n.deleting, n.sink⟩ with
  | .ok () m => .ok () { n with store := m.store, deleting := s.drop m.deleting, sink := m.sink }
  | .error e m =>
    .error (.send e) { n with store := m.store, deleting := s.drop m.deleting, sink := m.sink }

/-- The SYNC arm: a `Dispatcher` over the server's store runs on the socket. -/
def sync (requests : List PeerRequest) (tasks : Nat → StoreFaults × PeerConnection)
    (schedule : List Nat) : Handle Unit := fun n =>
  match Dispatcher.run localAddress requests tasks schedule ⟨n.store, n.receiving⟩ n.sink with
  | (.ok (), server, sink) =>
    .ok () { n with store := server.store, receiving := server.receiving, sink := sink }
  | (.error e, server, sink) =>
    .error (.sync e) { n with store := server.store, receiving := server.receiving, sink := sink }

/-- A turn of the loop once its request is read: `validate`, then the request's arm. -/
def serveRequest (env : RequestEnv) (request : Request) : Handle Unit := fun n =>
  match request.validate with
  | .error e => .error (.request e) n
  | .ok () =>
    match request with
    | .copy objectIds => send ⟨peerAddr, objectIds, false⟩ env.faults n
    | .take objectIds => send ⟨peerAddr, objectIds, true⟩ env.faults n
    | .sync requests => sync localAddress requests env.tasks env.schedule n

/-- The loop of `run`, with `fuel` turns, over the bytes the peer still sends: read a request;
`None`, the peer having closed the connection, ends the loop with `Ok(())`; a failed read ends
it with the read's error, and the panic of `read_ipv6_address` ends the task. The `k`-th request
read meets `env k`. A request read consumes at least its type byte, so `run`, which gives the
loop one turn more than there are bytes, never runs out of turns (`serve_fuel`). -/
def serve : Nat → (Nat → RequestEnv) → Bytes → HandlerNode →
    EStateM.Result HandlerStop HandlerNode Unit
  | 0, _, _, n => .ok () n
  | fuel + 1, env, bs, n =>
    match Request.readFrom bs with
    | .ok none _ => .ok () n
    | .ok (some request) rest =>
      match serveRequest peerAddr localAddress (env 0) request n with
      | .ok () n' => serve fuel (fun k => env (k + 1)) rest n'
      | .error e n' => .error (.error e) n'
    | .err e => .error (.error (.read e)) n
    | .panic => .error .panic n

/-- `Handler::run` on a connection whose peer sends `bs`, from `peerAddr` to `localAddress`. -/
def run (env : Nat → RequestEnv) (bs : Bytes) (n : HandlerNode) :
    EStateM.Result HandlerStop HandlerNode Unit :=
  serve peerAddr localAddress (bs.length + 1) env bs n

/-- The requests of a connection served one after the other, as `run` serves them once they are
read: the `k`-th meets `env k`, and the first failure ends the run. -/
def serveAll : (Nat → RequestEnv) → List Request → Handle Unit
  | _, [] => pure ()
  | env, request :: rest => fun n =>
    match serveRequest peerAddr localAddress (env 0) request n with
    | .ok () n' => serveAll (fun k => env (k + 1)) rest n'
    | .error e n' => .error e n'

/-! ## The loop over the bytes -/

variable {peerAddr localAddress} {env : Nat → RequestEnv} {n : HandlerNode}

/-- A request read consumes at least its type byte. -/
theorem length_lt_of_readFrom {bs rest : Bytes} {request : Request}
    (h : Request.readFrom bs = .ok (some request) rest) : rest.length < bs.length := by
  obtain ⟨-, rfl⟩ := Request.eq_of_readFrom h
  cases request <;> simp [Request.writeInto] <;> omega

/-- Turns beyond one per byte change nothing. -/
theorem serve_fuel : ∀ {fuel fuel' : Nat} {env : Nat → RequestEnv} {bs : Bytes} {n : HandlerNode},
    bs.length < fuel → bs.length < fuel' →
      serve peerAddr localAddress fuel env bs n = serve peerAddr localAddress fuel' env bs n
  | 0, _, _, _, _, h, _ => absurd h (Nat.not_lt_zero _)
  | _, 0, _, _, _, _, h' => absurd h' (Nat.not_lt_zero _)
  | fuel + 1, fuel' + 1, env, bs, n, h, h' => by
    simp only [serve]
    split
    · rfl
    · next request rest hr =>
      have hlt := length_lt_of_readFrom hr
      split
      · exact serve_fuel (by omega) (by omega)
      · rfl
    · rfl
    · rfl

theorem run_of_readFrom_err {bs : Bytes} {e : ReadError} (h : Request.readFrom bs = .err e) :
    run peerAddr localAddress env bs n = .error (.error (.read e)) n := by
  rw [run, serve, h]

/-- A turn of the loop: the request the peer sent is read back whole and served, and the loop
goes on with the bytes after it. -/
theorem run_writeInto {request : Request} (h : request.Fits) (rest : Bytes) :
    run peerAddr localAddress env (request.writeInto ++ rest) n =
      match serveRequest peerAddr localAddress (env 0) request n with
      | .ok () n' => run peerAddr localAddress (fun k => env (k + 1)) rest n'
      | .error e n' => .error (.error e) n' := by
  have hlt := length_lt_of_readFrom (Request.readFrom_writeInto rest h)
  rw [run, serve, Request.readFrom_writeInto rest h]
  dsimp only
  split
  · exact serve_fuel hlt (Nat.lt_succ_self _)
  · rfl

/-- The loop over a connection that carries requests, and then `rest`: it serves the requests
one after the other, and reads `rest` only once all were served. -/
theorem run_flatten (requests : List Request) (h : ∀ r ∈ requests, r.Fits) (rest : Bytes)
    (env : Nat → RequestEnv) (n : HandlerNode) :
    run peerAddr localAddress env ((requests.map Request.writeInto).flatten ++ rest) n =
      match serveAll peerAddr localAddress env requests n with
      | .ok () n' => run peerAddr localAddress (fun k => env (k + requests.length)) rest n'
      | .error e n' => .error (.error e) n' := by
  induction requests generalizing env n with
  | nil => rfl
  | cons request requests ih =>
    rw [List.map_cons, List.flatten_cons, List.append_assoc,
      run_writeInto (h request (List.mem_cons_self _ _))]
    simp only [serveAll]
    split
    · rw [ih (fun r hr => h r (List.mem_cons_of_mem _ hr))]
      rfl
    · rfl

/-- A connection that carries requests the wire format can carry, and then closes, is served as
the list of those requests: `run` returns `Ok(())` once every one of them was served, and
otherwise the first failure, with the server as each left it. -/
theorem run_requests (requests : List Request) (h : ∀ r ∈ requests, r.Fits)
    (env : Nat → RequestEnv) (n : HandlerNode) :
    run peerAddr localAddress env (requests.map Request.writeInto).flatten n =
      match serveAll peerAddr localAddress env requests n with
      | .ok () n' => .ok () n'
      | .error e n' => .error (.error e) n' := by
  rw [← List.append_nil (requests.map Request.writeInto).flatten, run_flatten requests h]
  split <;> rfl

theorem run_requests_copy :
    (∀ r ∈ [Request.copy [ObjectId.ofBytes []]], r.Fits) ∧
      run (.v4 ⟨[10, 0, 0, 2], rfl⟩ 2021) (.v4 ⟨[10, 0, 0, 1], rfl⟩ 2021) (fun _ => ⟨StoreFaults.none, fun _ => (StoreFaults.none, ⟨none, none, []⟩), []⟩)
          ([Request.copy [ObjectId.ofBytes []]].map Request.writeInto).flatten ⟨Plasma.empty, ∅, ∅, ⟨[], none⟩⟩ =
        match serveAll (.v4 ⟨[10, 0, 0, 2], rfl⟩ 2021) (.v4 ⟨[10, 0, 0, 1], rfl⟩ 2021) (fun _ => ⟨StoreFaults.none, fun _ => (StoreFaults.none, ⟨none, none, []⟩), []⟩) [Request.copy [ObjectId.ofBytes []]] ⟨Plasma.empty, ∅, ∅, ⟨[], none⟩⟩ with
        | .ok () n' => .ok () n'
        | .error e n' => .error (.error e) n' := by
  have h : ∀ r ∈ [Request.copy [ObjectId.ofBytes []]], r.Fits := fun r hr => by
    rw [List.mem_singleton.1 hr]
    exact (by decide : 1 < 2 ^ 16)
  exact ⟨h, run_requests _ h _ _⟩

/-- A request the peer stopped sending part way, after requests it sent whole, is never served:
once those are, `run` fails with `UnexpectedEof`, leaving the server as they left it. -/
theorem run_of_cut (requests : List Request) (h : ∀ r ∈ requests, r.Fits) {request : Request}
    (hr : request.Fits) {cut more : Bytes} (hcut : cut ++ more = request.writeInto)
    (hne : cut ≠ []) (hmore : more ≠ []) (env : Nat → RequestEnv) (n : HandlerNode) :
    run peerAddr localAddress env ((requests.map Request.writeInto).flatten ++ cut) n =
      match serveAll peerAddr localAddress env requests n with
      | .ok () n' => .error (.error (.read .unexpectedEof)) n'
      | .error e n' => .error (.error e) n' := by
  rw [run_flatten requests h]
  split
  · exact run_of_readFrom_err (Request.readFrom_of_cut hr hcut hne hmore)
  · rfl

/-- A COPY served whole, then a TAKE cut after its type byte and the first byte of its count. -/
theorem run_of_cut_take :
    (∀ r ∈ [Request.copy [ObjectId.ofBytes []]], r.Fits) ∧
      (Request.take [ObjectId.ofBytes []]).Fits ∧
      [takeTypeId, 1] ++ (Request.take [ObjectId.ofBytes []]).writeInto.drop 2 =
        (Request.take [ObjectId.ofBytes []]).writeInto ∧
      [takeTypeId, 1] ≠ [] ∧ (Request.take [ObjectId.ofBytes []]).writeInto.drop 2 ≠ [] ∧
      run (.v4 ⟨[10, 0, 0, 2], rfl⟩ 2021) (.v4 ⟨[10, 0, 0, 1], rfl⟩ 2021) (fun _ => ⟨StoreFaults.none, fun _ => (StoreFaults.none, ⟨none, none, []⟩), []⟩)
          (([Request.copy [ObjectId.ofBytes []]].map Request.writeInto).flatten ++ [takeTypeId, 1])
          ⟨Plasma.empty, ∅, ∅, ⟨[], none⟩⟩ =
        match serveAll (.v4 ⟨[10, 0, 0, 2], rfl⟩ 2021) (.v4 ⟨[10, 0, 0, 1], rfl⟩ 2021) (fun _ => ⟨StoreFaults.none, fun _ => (StoreFaults.none, ⟨none, none, []⟩), []⟩) [Request.copy [ObjectId.ofBytes []]] ⟨Plasma.empty, ∅, ∅, ⟨[], none⟩⟩ with
        | .ok () n' => .error (.error (.read .unexpectedEof)) n'
        | .error e n' => .error (.error e) n' := by
  have h : ∀ r ∈ [Request.copy [ObjectId.ofBytes []]], r.Fits := fun r hr => by
    rw [List.mem_singleton.1 hr]
    exact (by decide : 1 < 2 ^ 16)
  have hr : (Request.take [ObjectId.ofBytes []]).Fits := (by decide : 1 < 2 ^ 16)
  have hcut : [takeTypeId, 1] ++ (Request.take [ObjectId.ofBytes []]).writeInto.drop 2 =
      (Request.take [ObjectId.ofBytes []]).writeInto := by decide
  have hmore : (Request.take [ObjectId.ofBytes []]).writeInto.drop 2 ≠ [] := by decide
  exact ⟨h, hr, hcut, by decide, hmore, run_of_cut _ h hr hcut (by decide) hmore _ _⟩

/-- A loop that returns `Ok(())` within its turns read whole requests up to the end of the
stream, and served each of them. -/
theorem serve_eq_ok : ∀ {fuel : Nat} {env : Nat → RequestEnv} {bs : Bytes} {n n' : HandlerNode},
    bs.length < fuel → serve peerAddr localAddress fuel env bs n = .ok () n' →
      ∃ requests : List Request, (∀ r ∈ requests, r.Fits) ∧
        bs = (requests.map Request.writeInto).flatten ∧
        serveAll peerAddr localAddress env requests n = .ok () n'
  | 0, _, _, _, _, hlt, _ => absurd hlt (Nat.not_lt_zero _)
  | fuel + 1, env, bs, n, n', hlt, h => by
    rw [serve] at h
    split at h
    · next rest hr =>
      obtain ⟨rfl, -⟩ := Request.readFrom_eq_none.1 hr
      cases h
      exact ⟨[], fun _ => nofun, rfl, rfl⟩
    · next request rest hr =>
      have hrest := length_lt_of_readFrom hr
      obtain ⟨hfits, rfl⟩ := Request.eq_of_readFrom hr
      split at h
      · next n₁ hs =>
        obtain ⟨requests, hall, rfl, hserve⟩ := serve_eq_ok (by omega) h
        refine ⟨request :: requests, List.forall_mem_cons.2 ⟨hfits, hall⟩, rfl, ?_⟩
        simp only [serveAll, hs]
        exact hserve
      · cases h
    · cases h
    · cases h

/-- `run` returns `Ok(())` exactly when the peer sent whole requests that the wire format can
carry, one after the other, and then closed the connection, and every one of them was served. -/
theorem run_eq_ok_iff {bs : Bytes} {n' : HandlerNode} :
    run peerAddr localAddress env bs n = .ok () n' ↔
      ∃ requests : List Request, (∀ r ∈ requests, r.Fits) ∧
        bs = (requests.map Request.writeInto).flatten ∧
        serveAll peerAddr localAddress env requests n = .ok () n' := by
  refine ⟨serve_eq_ok (Nat.lt_succ_self _), ?_⟩
  rintro ⟨requests, hall, rfl, hserve⟩
  rw [← List.append_nil (requests.map Request.writeInto).flatten, run_flatten requests hall, hserve]
  rfl

end Handler

/-! ## The reservations a connection leaves

A COPY or a TAKE reserves its ids in `deleting` through its sender's check, a SYNC in
`receiving` through its tasks' `prepare`; the drops at the end of the statement release them,
whatever the result. So no request, and no connection, leaves an id reserved that it did not
find so. -/

/-- `n'` holds no reservation that `n` does not. -/
def HandlerNode.SetsWithin (n' n : HandlerNode) : Prop :=
  n'.receiving ⊆ n.receiving ∧ n'.deleting ⊆ n.deleting

theorem HandlerNode.SetsWithin.refl (n : HandlerNode) : n.SetsWithin n :=
  ⟨subset_rfl, subset_rfl⟩

theorem HandlerNode.SetsWithin.trans {n₁ n₂ n₃ : HandlerNode} (h₁ : n₁.SetsWithin n₂)
    (h₂ : n₂.SetsWithin n₃) : n₁.SetsWithin n₃ :=
  ⟨h₁.1.trans h₂.1, h₁.2.trans h₂.2⟩

namespace Handler

variable {peerAddr localAddress : SocketAddr}

theorem outcome_send (s : ObjectSender) (faults : StoreFaults) (n : HandlerNode) :
    (outcome (send s faults n)).2 =
      { n with store := (outcome (s.run faults ⟨n.store, n.deleting, n.sink⟩)).2.store,
               deleting := s.drop (outcome (s.run faults ⟨n.store, n.deleting, n.sink⟩)).2.deleting,
               sink := (outcome (s.run faults ⟨n.store, n.deleting, n.sink⟩)).2.sink } := by
  unfold send
  cases s.run faults ⟨n.store, n.deleting, n.sink⟩ <;> rfl

theorem outcome_sync (requests : List PeerRequest) (tasks : Nat → StoreFaults × PeerConnection)
    (schedule : List Nat) (n : HandlerNode) :
    (outcome (sync localAddress requests tasks schedule n)).2 =
      { n with
        store := (Dispatcher.run localAddress requests tasks schedule ⟨n.store, n.receiving⟩ n.sink).2.1.store,
        receiving :=
          (Dispatcher.run localAddress requests tasks schedule ⟨n.store, n.receiving⟩ n.sink).2.1.receiving,
        sink := (Dispatcher.run localAddress requests tasks schedule ⟨n.store, n.receiving⟩ n.sink).2.2 } := by
  unfold sync
  rcases Dispatcher.run localAddress requests tasks schedule ⟨n.store, n.receiving⟩ n.sink with
    ⟨_ | _, _, _⟩ <;> rfl

/-- One request, however it ends, leaves no reservation it did not find. -/
theorem setsWithin_serveRequest (env : RequestEnv) (request : Request) (n : HandlerNode) :
    (outcome (serveRequest peerAddr localAddress env request n)).2.SetsWithin n := by
  unfold serveRequest
  split
  · exact .refl n
  · next hvalid =>
    cases request with
    | copy objectIds | take objectIds =>
      rw [outcome_send]
      exact ⟨subset_rfl, by rw [ObjectSender.drop_run]; exact release_subset _ _ _⟩
    | sync requests =>
      rw [outcome_sync]
      exact ⟨Dispatcher.receiving_run_subset hvalid, subset_rfl⟩

/-- The loop, over every turn, leaves no reservation it did not find. -/
theorem setsWithin_serve : ∀ (fuel : Nat) (env : Nat → RequestEnv) (bs : Bytes) (n : HandlerNode),
    (outcome (serve peerAddr localAddress fuel env bs n)).2.SetsWithin n
  | 0, _, _, n => .refl n
  | fuel + 1, env, bs, n => by
    rw [serve]
    split
    · exact .refl n
    · next request rest _ =>
      have hstep : (outcome (serveRequest peerAddr localAddress (env 0) request n)).2.SetsWithin n :=
        setsWithin_serveRequest (env 0) request n
      cases h : serveRequest peerAddr localAddress (env 0) request n with
      | ok _ n' => rw [h] at hstep; exact (setsWithin_serve fuel _ rest n').trans hstep
      | error e n' => rw [h] at hstep; exact hstep
    · exact .refl n
    · exact .refl n

/-- Whatever the peer sends, and however its requests and the connection end, a handler leaves
`receiving` and `deleting` each a part of what it found: every id a request reserved is
released before the next request is read. -/
theorem run_releases (env : Nat → RequestEnv) (bs : Bytes) (n : HandlerNode) :
    (outcome (run peerAddr localAddress env bs n)).2.receiving ⊆ n.receiving ∧
      (outcome (run peerAddr localAddress env bs n)).2.deleting ⊆ n.deleting :=
  setsWithin_serve _ env bs n

end Handler

end PlasmaStream
