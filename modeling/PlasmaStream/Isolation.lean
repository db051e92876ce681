import PlasmaStream.Footprint

/-!
# Connections over disjoint ids do not interfere

A server runs one `Handler` per connection, all over the same store and the same `receiving`
and `deleting` sets. Each request a handler serves touches those only at the ids it names
(`Request.namedIds`): a sender reads, reserves, and for a TAKE deletes its ids, and the tasks of
a SYNC reserve, receive and release theirs, however their steps interleave
(`Dispatcher.run_agree`). Beyond that, a handler writes only to its own socket.

Each step is local to its ids, in the sense of `Local`: it cannot tell apart servers that agree
at its ids, and it keeps the server as it was at every other id.

* `Handler.serveAll_comm`: two connections whose requests name disjoint ids can be served in
  either order. Each connection gets the same results and writes the same bytes to its socket
  in both orders, and the server ends the same.
-/

namespace PlasmaStream

/-! ## Stores that agree at some ids, as a sender reads them -/

theorem Plasma.EqOn.getMany {ids objectIds : List ObjectId} {s t : Plasma} (h : Plasma.EqOn ids s t)
    (faults : StoreFaults) (hsub : ∀ x ∈ objectIds, x ∈ ids) :
    s.getMany faults objectIds = t.getMany faults objectIds := by
  induction objectIds with
  | nil => rfl
  | cons oid rest ih =>
    simp only [Plasma.getMany, Plasma.get, Plasma.buffer, h oid (hsub oid (List.mem_cons_self _ _)),
      ih fun x hx => hsub x (List.mem_cons_of_mem _ hx)]

/-! ## Sends local to their ids -/

/-- What a send keeps at an id outside its own: the object, and whether it is scheduled for
deletion. -/
def SenderNode.view (y : ObjectId) (n : SenderNode) : Option PlasmaObject × Bool :=
  (n.store.objects y, decide (y ∈ n.deleting))

theorem SenderNode.view_eq_iff {n m : SenderNode} {y : ObjectId} :
    n.view y = m.view y ↔ n.store.objects y = m.store.objects y ∧ (y ∈ n.deleting ↔ y ∈ m.deleting) := by
  simp [SenderNode.view]

/-- A send that touches the store and `deleting` only at `ids`. -/
abbrev Send.Local (ids : List ObjectId) {α : Type} (x : Send α) : Prop :=
  PlasmaStream.Local SenderNode.sink SenderNode.view (· ∈ ids) x

section Send

variable {ids : List ObjectId} {peer : SocketAddr} {bs : Bytes}

theorem writeSocket_local : Send.Local ids (writeSocket peer bs) where
  respects n m h := by
    unfold writeSocket
    rw [h.1]
    split <;> exact ⟨rfl, rfl, h.2⟩
  frames _ _ := writeSocket_frames fun _ _ => rfl

theorem sendAll_local : ∀ {obs : List ObjectBuffer}, Send.Local ids (sendAll peer obs)
  | [] => Local.pure _
  | _ :: _ => Local.bind (Local.bind writeSocket_local fun _ => Local.bind writeSocket_local fun _ => writeSocket_local)
      fun _ => sendAll_local

theorem liftExcept_local {α : Type} {x : Except ObjectSendError α} :
    Send.Local ids (liftExcept x : Send α) where
  respects _ _ h := by cases x <;> exact ⟨rfl, h⟩
  frames _ _ := ObjectSender.liftExcept_frames

namespace ObjectSender

variable {s : ObjectSender} {faults : StoreFaults}

theorem checkDeletingSet_local (hs : ∀ x ∈ s.objectIds, x ∈ ids) : Send.Local ids s.checkDeletingSet where
  respects n m h := by
    have hdel : ∀ x ∈ ids, x ∈ n.deleting ↔ x ∈ m.deleting := fun x hx =>
      (SenderNode.view_eq_iff.1 (h.2 x hx)).2
    have htaken : s.objectIds.filter (· ∈ n.deleting) = s.objectIds.filter (· ∈ m.deleting) :=
      List.filter_congr fun x hx => by simp only [hdel x (hs x hx)]
    simp only [checkDeletingSet, checkDeleting, reserve, htaken]
    by_cases htk : (s.objectIds.filter (· ∈ m.deleting)).isEmpty
    · simp only [htk, if_true, Except.mapError]
      refine ⟨rfl, h.1, fun y hy => SenderNode.view_eq_iff.2 ⟨(SenderNode.view_eq_iff.1 (h.2 y hy)).1, ?_⟩⟩
      cases s.deleteAfterSend <;> simp [hdel y hy]
    · simp only [htk, Bool.false_eq_true, if_false, Except.mapError]
      exact ⟨rfl, h⟩
  frames y hy n := by
    unfold checkDeletingSet
    split
    · next deleting hchk =>
      obtain ⟨-, rfl⟩ := reserve_eq_ok.1 (checkDeleting_eq_ok.1 hchk)
      have hy' : y ∉ s.objectIds := fun h => hy (hs y h)
      cases s.deleteAfterSend <;> simp [SenderNode.view, hy']
    · rfl

theorem deleteMany_local (hs : ∀ x ∈ s.objectIds, x ∈ ids) :
    Send.Local ids (modify fun n : SenderNode =>
      { n with store := (n.store.deleteMany faults s.objectIds).2 }) where
  respects _ _ h := ⟨rfl, h.1, fun y hy => SenderNode.view_eq_iff.2
    ⟨Plasma.EqOn.deleteMany (fun x hx => (SenderNode.view_eq_iff.1 (h.2 x hx)).1) faults _ y hy,
      (SenderNode.view_eq_iff.1 (h.2 y hy)).2⟩⟩
  frames y hy := Frames.modify fun _ => SenderNode.view_eq_iff.2
    ⟨Plasma.deleteMany_objects_of_not_mem _ _ fun h => hy (hs y h), Iff.rfl⟩

theorem getObjects_agree {n m : SenderNode} (hs : ∀ x ∈ s.objectIds, x ∈ ids)
    (h : AgreeAt SenderNode.sink SenderNode.view (· ∈ ids) n m) :
    s.getObjects faults n.store = s.getObjects faults m.store := by
  have hstore : Plasma.EqOn ids n.store m.store := fun x hx => (SenderNode.view_eq_iff.1 (h.2 x hx)).1
  simp only [getObjects, hstore.getMany faults hs]

theorem sendObjects_local (hs : ∀ x ∈ s.objectIds, x ∈ ids) : Send.Local ids (s.sendObjects faults) := by
  unfold sendObjects
  refine Local.bind (checkDeletingSet_local hs) fun _ => Local.get_bind (fun _ => ?_) fun n m h => ?_
  · exact Local.bind liftExcept_local fun _ => Local.bind liftExcept_local fun _ =>
      Local.bind writeSocket_local fun _ => Local.bind sendAll_local fun _ => Local.ite (deleteMany_local hs) (Local.pure _)
  · simp only [getObjects_agree hs h]

/-- A sender is local to its ids. -/
theorem run_local (hs : ∀ x ∈ s.objectIds, x ∈ ids) : Send.Local ids (s.run faults) where
  respects n m h := by
    obtain ⟨hres, hsink, hview⟩ := (sendObjects_local hs).respects n m h
    unfold run
    rcases hn : s.sendObjects faults n with ⟨⟨⟩, n'⟩ | ⟨e, n'⟩ <;>
      rcases hm : s.sendObjects faults m with ⟨⟨⟩, m'⟩ | ⟨e', m'⟩ <;>
      rw [hn, hm] at hres hsink hview <;> cases hres
    · exact ⟨rfl, hsink, hview⟩
    · dsimp only
      cases e.responseCode
      · exact ⟨rfl, hsink, hview⟩
      · exact ⟨rfl, congrArg (fun k : Sink => (k.writeAll _).2) hsink, hview⟩
  frames y hy := run_frames (fun _ _ => rfl) ((sendObjects_local hs).frames y hy)

end ObjectSender

end Send

/-! ## Handlers local to their requests' ids -/

/-- What a handler keeps at an id its requests do not name: the object, and whether the id is
being received or scheduled for deletion. -/
def HandlerNode.view (y : ObjectId) (n : HandlerNode) : Option PlasmaObject × Bool × Bool :=
  (n.store.objects y, decide (y ∈ n.receiving), decide (y ∈ n.deleting))

theorem HandlerNode.view_eq_iff {n m : HandlerNode} {y : ObjectId} :
    n.view y = m.view y ↔ n.store.objects y = m.store.objects y ∧
      (y ∈ n.receiving ↔ y ∈ m.receiving) ∧ (y ∈ n.deleting ↔ y ∈ m.deleting) := by
  simp [HandlerNode.view]

/-- A handler's turn that touches the server only at `ids`, and otherwise only its own socket. -/
abbrev Handle.Local (ids : List ObjectId) {α : Type} (x : Handle α) : Prop :=
  PlasmaStream.Local HandlerNode.sink HandlerNode.view (· ∈ ids) x

namespace Handler

variable {ids : List ObjectId}

/-- The server after a COPY or TAKE: the sender's store and `deleting`, the latter with the
drop applied, and the sender's socket. -/
theorem view_send_agree {s : ObjectSender} {n m : HandlerNode} {n' m' : SenderNode} {y : ObjectId}
    (hv : n'.view y = m'.view y) (hr : y ∈ n.receiving ↔ y ∈ m.receiving) :
    HandlerNode.view y { n with store := n'.store, deleting := s.drop n'.deleting, sink := n'.sink } =
      HandlerNode.view y { m with store := m'.store, deleting := s.drop m'.deleting, sink := m'.sink } := by
  obtain ⟨hobj, hdel⟩ := SenderNode.view_eq_iff.1 hv
  exact HandlerNode.view_eq_iff.2 ⟨hobj, hr, by simp only [ObjectSender.drop, Pool.mem_release, hdel]⟩

/-- The COPY and TAKE arms are local to the sender's ids. -/
theorem send_local {s : ObjectSender} (faults : StoreFaults) (hs : ∀ x ∈ s.objectIds, x ∈ ids) :
    Handle.Local ids (send s faults) where
  respects n m h := by
    have hsend := (ObjectSender.run_local hs : Send.Local ids (s.run faults)).respects
      ⟨n.store, n.deleting, n.sink⟩ ⟨m.store, m.deleting, m.sink⟩ ⟨h.1, fun y hy => by
        obtain ⟨hobj, -, hdel⟩ := HandlerNode.view_eq_iff.1 (h.2 y hy)
        exact SenderNode.view_eq_iff.2 ⟨hobj, hdel⟩⟩
    unfold send
    rcases hn : s.run faults ⟨n.store, n.deleting, n.sink⟩ with ⟨⟨⟩, n'⟩ | ⟨e, n'⟩ <;>
      rcases hm : s.run faults ⟨m.store, m.deleting, m.sink⟩ with ⟨⟨⟩, m'⟩ | ⟨e', m'⟩ <;>
      rw [hn, hm] at hsend <;> obtain ⟨hres, hsink, hview⟩ := hsend <;> cases hres <;>
      exact ⟨rfl, hsink, fun y hy => view_send_agree (hview y hy) (HandlerNode.view_eq_iff.1 (h.2 y hy)).2.1⟩
  frames y hy n := by
    have hsend := (ObjectSender.run_local hs : Send.Local ids (s.run faults)).frames y hy
      ⟨n.store, n.deleting, n.sink⟩
    obtain ⟨hobj, hdel⟩ := SenderNode.view_eq_iff.1 hsend
    have hy' : y ∉ s.objectIds := fun h => hy (hs y h)
    rw [outcome_send]
    refine HandlerNode.view_eq_iff.2 ⟨hobj, Iff.rfl, ?_⟩
    simpa only [ObjectSender.drop, Pool.mem_release, hy', not_false_eq_true, implies_true,
      and_true] using hdel

/-- The SYNC arm is local to its peer requests' ids, under every schedule of its tasks. -/
theorem sync_local (localAddress : SocketAddr) (requests : List PeerRequest)
    (tasks : Nat → StoreFaults × PeerConnection) (schedule : List Nat)
    (hsub : ∀ x ∈ (requests.map PeerRequest.incomingObjects).flatten, x ∈ ids) :
    Handle.Local ids (sync localAddress requests tasks schedule) where
  respects n m h := by
    have hview := fun y hy => HandlerNode.view_eq_iff.1 (h.2 y hy)
    obtain ⟨hres, hv, hsink⟩ := Dispatcher.run_agree localAddress requests tasks schedule n.sink
      (G := (· ∈ ids)) (fun p hp y hy => hsub y (List.mem_flatten.2 ⟨_, List.mem_map_of_mem _ hp, hy⟩))
      (s := ⟨n.store, n.receiving⟩) (t := ⟨m.store, m.receiving⟩)
      fun y hy => Server.view_eq_iff.2 ⟨(hview y hy).1, (hview y hy).2.1⟩
    unfold sync
    rw [← h.1]
    rcases hn : Dispatcher.run localAddress requests tasks schedule ⟨n.store, n.receiving⟩ n.sink with
      ⟨_ | _, sn, kn⟩ <;>
      rcases hm : Dispatcher.run localAddress requests tasks schedule ⟨m.store, m.receiving⟩ n.sink with
        ⟨_ | _, sm, km⟩ <;>
      rw [hn, hm] at hres hv hsink <;> cases hres <;> subst hsink <;>
      exact ⟨rfl, rfl, fun y hy => HandlerNode.view_eq_iff.2
        ⟨(Server.view_eq_iff.1 (hv y hy)).1, (Server.view_eq_iff.1 (hv y hy)).2, (hview y hy).2.2⟩⟩
  frames y hy n := by
    rw [outcome_sync]
    have hv : (Dispatcher.run localAddress requests tasks schedule ⟨n.store, n.receiving⟩ n.sink).2.1.view y =
        Server.view y ⟨n.store, n.receiving⟩ :=
      Dispatcher.view_run_of_not_mem fun p hp hyp =>
        hy (hsub y (List.mem_flatten.2 ⟨_, List.mem_map_of_mem _ hp, hyp⟩))
    exact HandlerNode.view_eq_iff.2 ⟨(Server.view_eq_iff.1 hv).1, (Server.view_eq_iff.1 hv).2, Iff.rfl⟩

variable {peerAddr localAddress : SocketAddr}

/-- A turn is local to the ids its request names. -/
theorem serveRequest_local (env : RequestEnv) (request : Request) :
    Handle.Local request.namedIds (serveRequest peerAddr localAddress env request) := by
  unfold serveRequest
  cases request.validate with
  | error e => exact Local.throw (HandlerError.request e)
  | ok _ =>
    cases request with
    | copy objectIds | take objectIds => exact send_local env.faults fun _ => id
    | sync requests => exact sync_local localAddress requests env.tasks env.schedule fun _ => id

theorem serveAll_cons (env : Nat → RequestEnv) (request : Request) (rest : List Request) :
    serveAll peerAddr localAddress env (request :: rest) =
      (serveRequest peerAddr localAddress (env 0) request >>= fun _ =>
        serveAll peerAddr localAddress (fun k => env (k + 1)) rest) := by
  funext n
  show _ = EStateM.bind _ _ n
  simp only [serveAll, EStateM.bind]
  rcases serveRequest peerAddr localAddress (env 0) request n with ⟨⟨⟩, _⟩ | _ <;> rfl

/-- The requests of a connection, served one after the other, are local to the ids they name. -/
theorem serveAll_local : ∀ (env : Nat → RequestEnv) (requests : List Request),
    Handle.Local (requests.flatMap Request.namedIds) (serveAll peerAddr localAddress env requests)
  | _, [] => Local.pure ()
  | env, request :: rest => by
    rw [serveAll_cons, List.flatMap_cons]
    exact Local.bind ((serveRequest_local (env 0) request).mono fun _ => List.mem_append_left _)
      fun _ => (serveAll_local _ rest).mono fun _ => List.mem_append_right _

end Handler

/-! ## Two connections over disjoint ids -/

/-- Two connections served in turn over one server: `x` on the socket `ka`, then `y` on `kb`.
What each returns and leaves on its socket, and the store, `receiving` and `deleting` they
leave. -/
def Handle.inTurn {α β : Type} (x : Handle α) (y : Handle β) (n : HandlerNode) (ka kb : Sink) :
    (Except HandlerError α × Sink) × (Except HandlerError β × Sink) ×
      (Plasma × Finset ObjectId × Finset ObjectId) :=
  let a := outcome (x { n with sink := ka })
  let b := outcome (y { a.2 with sink := kb })
  ((a.1, a.2.sink), (b.1, b.2.sink), (b.2.store, b.2.receiving, b.2.deleting))

/-- Runs local to disjoint ids commute: in either order, each returns the same and leaves the
same on its socket, and the server ends the same. -/
theorem Handle.Local.inTurn_comm {α β : Type} {ia ib : List ObjectId} {x : Handle α} {y : Handle β}
    (hx : Handle.Local ia x) (hy : Handle.Local ib y) (hd : ∀ i ∈ ia, i ∉ ib) (n : HandlerNode)
    (ka kb : Sink) :
    Handle.inTurn x y n ka kb =
      ((Handle.inTurn y x n kb ka).2.1, (Handle.inTurn y x n kb ka).1, (Handle.inTurn y x n kb ka).2.2) := by
  -- `x` alone, and after `y`, finds the server the same at its ids
  have hA := hx.respects { n with sink := ka } { (outcome (y { n with sink := kb })).2 with sink := ka }
    ⟨rfl, fun i hi => (hy.frames i (hd i hi) { n with sink := kb }).symm⟩
  have hB := hy.respects { (outcome (x { n with sink := ka })).2 with sink := kb } { n with sink := kb }
    ⟨rfl, fun i hi => hx.frames i (fun h => hd i h hi) { n with sink := ka }⟩
  -- at each id, the two orders leave what the run owning it leaves, or else what they found
  have hview : ∀ i, (outcome (y { (outcome (x { n with sink := ka })).2 with sink := kb })).2.view i =
      (outcome (x { (outcome (y { n with sink := kb })).2 with sink := ka })).2.view i := fun i => by
    have hyA := fun h => hy.frames i h { (outcome (x { n with sink := ka })).2 with sink := kb }
    have hxB := fun h => hx.frames i h { (outcome (y { n with sink := kb })).2 with sink := ka }
    by_cases hia : i ∈ ia
    · exact (hyA (hd i hia)).trans (hA.2.2 i hia)
    by_cases hib : i ∈ ib
    · exact (hB.2.2 i hib).trans (hxB hia).symm
    · exact ((hyA hib).trans (hx.frames i hia { n with sink := ka })).trans
        ((hxB hia).trans (hy.frames i hib { n with sink := kb })).symm
  simp only [Handle.inTurn, Prod.mk.injEq]
  exact ⟨⟨hA.1, hA.2.1⟩, ⟨hB.1, hB.2.1⟩, Plasma.ext (funext fun i => (HandlerNode.view_eq_iff.1 (hview i)).1),
    Finset.ext fun i => (HandlerNode.view_eq_iff.1 (hview i)).2.1,
    Finset.ext fun i => (HandlerNode.view_eq_iff.1 (hview i)).2.2⟩

/-- Two connections whose requests name disjoint ids can be served in either order: each
connection gets the same results and writes the same bytes to its socket, and the server ends
with the same store, `receiving` and `deleting`. -/
theorem Handler.serveAll_comm (pa la pb lb : SocketAddr) (ea eb : Nat → RequestEnv)
    (ra rb : List Request) (hd : ∀ x ∈ ra.flatMap Request.namedIds, x ∉ rb.flatMap Request.namedIds)
    (n : HandlerNode) (ka kb : Sink) :
    Handle.inTurn (Handler.serveAll pa la ea ra) (Handler.serveAll pb lb eb rb) n ka kb =
      ((Handle.inTurn (Handler.serveAll pb lb eb rb) (Handler.serveAll pa la ea ra) n kb ka).2.1,
        (Handle.inTurn (Handler.serveAll pb lb eb rb) (Handler.serveAll pa la ea ra) n kb ka).1,
        (Handle.inTurn (Handler.serveAll pb lb eb rb) (Handler.serveAll pa la ea ra) n kb ka).2.2) :=
  Handle.Local.inTurn_comm (Handler.serveAll_local ea ra) (Handler.serveAll_local eb rb) hd n ka kb

/-- A COPY of one object and a TAKE of another, from two clients. -/
theorem Handler.serveAll_comm_copy_take :
    let localAddress : SocketAddr := .v4 ⟨[10, 0, 0, 1], rfl⟩ 2021
    let env : Nat → RequestEnv :=
      fun _ => ⟨StoreFaults.none, fun _ => (StoreFaults.none, ⟨none, none, []⟩), []⟩
    let copy := Handler.serveAll (.v4 ⟨[10, 0, 0, 2], rfl⟩ 2021) localAddress env
      [Request.copy [ObjectId.ofBytes []]]
    let take := Handler.serveAll (.v4 ⟨[10, 0, 0, 3], rfl⟩ 2021) localAddress env
      [Request.take [ObjectId.ofBytes [1]]]
    let server : HandlerNode := ⟨Plasma.empty, ∅, ∅, ⟨[], none⟩⟩
    (∀ x ∈ [Request.copy [ObjectId.ofBytes []]].flatMap Request.namedIds,
        x ∉ [Request.take [ObjectId.ofBytes [1]]].flatMap Request.namedIds) ∧
      Handle.inTurn copy take server ⟨[], none⟩ ⟨[], none⟩ =
        ((Handle.inTurn take copy server ⟨[], none⟩ ⟨[], none⟩).2.1,
          (Handle.inTurn take copy server ⟨[], none⟩ ⟨[], none⟩).1,
          (Handle.inTurn take copy server ⟨[], none⟩ ⟨[], none⟩).2.2) :=
  ⟨by decide, Handler.serveAll_comm _ _ _ _ _ _ _ _ (by decide) _ _ _⟩

end PlasmaStream
