import PlasmaStream.Handler

/-!
# What a connection changes in the store

A handler serves its connection's requests one after the other (`Handler::run`), and each turn
changes the store only at ids its request names: a COPY only reads its objects, a TAKE deletes
only its own, and the tasks of a SYNC create, fill, seal or roll back only their incoming ids,
under every interleaving of their steps.

* `Handler.run_changed_named`: whatever bytes the peer sends and however the connection ends,
  every object whose entry the connection changed is one a TAKE or a SYNC that the peer sent
  whole, at the head of the stream, may change. A COPY, a cut request, or bytes that do not
  read as a request change nothing.
-/

namespace PlasmaStream

/-- The ids a request names: those of a COPY or a TAKE, and for a SYNC the incoming ids of its
peer requests. -/
def Request.namedIds : Request → List ObjectId
  | .copy objectIds | .take objectIds => objectIds
  | .sync peerRequests => (peerRequests.map PeerRequest.incomingObjects).flatten

/-- The ids whose objects a request may change: none for a COPY, whose sender only reads; the
ids of a TAKE, which it deletes; and for a SYNC the incoming ids of its peer requests. -/
def Request.changedIds : Request → List ObjectId
  | .copy _ => []
  | .take objectIds => objectIds
  | .sync peerRequests => (peerRequests.map PeerRequest.incomingObjects).flatten

namespace Handler

variable {peerAddr localAddress : SocketAddr} {y : ObjectId}

/-- A turn changes no object outside the ids its request may change, however it ends. -/
theorem objects_serveRequest (env : RequestEnv) (request : Request) (n : HandlerNode)
    (hy : y ∉ request.changedIds) :
    (outcome (serveRequest peerAddr localAddress env request n)).2.store.objects y =
      n.store.objects y := by
  unfold serveRequest
  split
  · rfl
  · cases request with
    | copy objectIds =>
      rw [outcome_send]
      exact ObjectSender.objects_run (fun h => absurd h Bool.false_ne_true) _
    | take objectIds =>
      rw [outcome_send]
      exact ObjectSender.objects_run (fun _ => hy) _
    | sync requests =>
      rw [outcome_sync]
      exact (Server.view_eq_iff.1 (Dispatcher.view_run_of_not_mem fun p hp hyp =>
        hy (List.mem_flatten.2 ⟨_, List.mem_map_of_mem _ hp, hyp⟩))).1

/-- The loop changes an object only through a request it read whole from the bytes. -/
theorem changed_of_serve : ∀ (fuel : Nat) (env : Nat → RequestEnv) (bs : Bytes) (n : HandlerNode),
    (outcome (serve peerAddr localAddress fuel env bs n)).2.store.objects y ≠ n.store.objects y →
      ∃ (requests : List Request) (rest : Bytes),
        bs = (requests.map Request.writeInto).flatten ++ rest ∧ ∃ r ∈ requests, y ∈ r.changedIds
  | 0, _, _, _, h => absurd rfl h
  | fuel + 1, env, bs, n, h => by
    rw [serve] at h
    split at h
    · exact absurd rfl h
    · next request rest hr =>
      obtain ⟨-, hbs⟩ := Request.eq_of_readFrom hr
      by_cases hy : y ∈ request.changedIds
      · exact ⟨[request], rest, by simpa using hbs, request, List.mem_singleton_self _, hy⟩
      have hturn : (outcome (serveRequest peerAddr localAddress (env 0) request n)).2.store.objects y =
          n.store.objects y := objects_serveRequest (env 0) request n hy
      cases hs : serveRequest peerAddr localAddress (env 0) request n with
      | ok _ n' =>
        rw [hs, outcome_ok] at hturn
        rw [hs] at h
        obtain ⟨requests, rest', rfl, r, hr, hyr⟩ := changed_of_serve fuel _ rest n' (hturn ▸ h)
        exact ⟨request :: requests, rest', by rw [hbs, List.map_cons, List.flatten_cons,
          List.append_assoc], r, List.mem_cons_of_mem _ hr, hyr⟩
      | error e n' =>
        rw [hs, outcome_error] at hturn
        rw [hs] at h
        exact absurd hturn h
    · exact absurd rfl h
    · exact absurd rfl h

/-- Whatever bytes the peer sends and however the connection ends, an object whose entry the
connection changed is one that a TAKE or a SYNC the peer sent whole, at the head of the stream,
may change: a COPY only reads. -/
theorem run_changed_named (env : Nat → RequestEnv) (bs : Bytes) (n : HandlerNode)
    (h : (outcome (run peerAddr localAddress env bs n)).2.store.objects y ≠ n.store.objects y) :
    ∃ (requests : List Request) (rest : Bytes),
      bs = (requests.map Request.writeInto).flatten ++ rest ∧ ∃ r ∈ requests, y ∈ r.changedIds :=
  changed_of_serve _ env bs n h

end Handler

/-- A TAKE of a sealed object that no other client uses deletes it, and names it. -/
theorem Handler.run_changed_named_take :
    (outcome (Handler.run (.v4 ⟨[10, 0, 0, 2], rfl⟩ 2021) (.v4 ⟨[10, 0, 0, 1], rfl⟩ 2021)
        (fun _ => ⟨StoreFaults.none, fun _ => (StoreFaults.none, ⟨none, none, []⟩), []⟩)
        (Request.take [ObjectId.ofBytes []]).writeInto
        ⟨Plasma.empty.put (ObjectId.ofBytes []) (some ⟨[], [1], true, false⟩), ∅, ∅,
          ⟨[], none⟩⟩)).2.store.objects (ObjectId.ofBytes []) ≠
        (Plasma.empty.put (ObjectId.ofBytes []) (some ⟨[], [1], true, false⟩)).objects
          (ObjectId.ofBytes []) ∧
      ∃ (requests : List Request) (rest : Bytes),
        (Request.take [ObjectId.ofBytes []]).writeInto =
            (requests.map Request.writeInto).flatten ++ rest ∧
          ∃ r ∈ requests, ObjectId.ofBytes [] ∈ r.changedIds := by
  refine ⟨?changed, Handler.run_changed_named _ _ _ ?changed⟩
  decide

end PlasmaStream
