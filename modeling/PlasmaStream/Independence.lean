import PlasmaStream.Dispatcher

/-!
# Tasks over disjoint ids do not interfere

`Dispatcher::run` spawns one task per peer request, and the tasks run concurrently. A task
touches the store and `receiving` only at the ids of its own request: `prepare` checks and
reserves them, the receiver creates, fills, seals and deletes objects under them, and the drop
releases them. A SYNC that passes `validate` names every id once, so its tasks are over
disjoint ids.

Each step of a receive is local to its ids: it cannot tell apart stores that agree there
(`Respects`), and it leaves every other object alone (`Frames`). These are the facts `Tasks`
builds the interleaving of a SYNC's tasks on.

* `processPeerRequest_comm`: two tasks over disjoint ids commute. Each returns what it returns
  when it runs first, and the server ends the same in either order.
-/

namespace PlasmaStream

/-! ## Stores that agree at some ids -/

namespace Plasma

/-- The two stores hold the same objects at `ids`. -/
def EqOn (ids : List ObjectId) (s t : Plasma) : Prop := ∀ x ∈ ids, s.objects x = t.objects x

/-- Two answers of a store call that a run cannot tell apart at `ids`: the same error, or
stores that agree there. -/
def AnswerEqOn (ids : List ObjectId) : Except PlasmaError Plasma → Except PlasmaError Plasma → Prop
  | .ok s, .ok t => EqOn ids s t
  | .error e, .error e' => e = e'
  | _, _ => False

/-- A store call that reads and writes the store only at `ids`. -/
structure CallLocal (ids : List ObjectId) (call : Plasma → Except PlasmaError Plasma) : Prop where
  agree : ∀ {s t : Plasma}, EqOn ids s t → AnswerEqOn ids (call s) (call t)
  frame : ∀ {s s' : Plasma}, call s = .ok s' → ∀ y ∉ ids, s'.objects y = s.objects y

variable {ids : List ObjectId} {s t : Plasma} {oid y : ObjectId}

theorem EqOn.put (h : EqOn ids s t) (oid : ObjectId) (o : Option PlasmaObject) :
    EqOn ids (s.put oid o) (t.put oid o) := fun x hx => by
  simp only [put_objects, h x hx]

theorem EqOn.deleteMany (h : EqOn ids s t) (faults : StoreFaults) (objectIds : List ObjectId) :
    EqOn ids (s.deleteMany faults objectIds).2 (t.deleteMany faults objectIds).2 := fun x hx => by
  rw [deleteMany_objects, deleteMany_objects, h x hx]

theorem EqOn.containsMany (h : EqOn ids s t) (faults : StoreFaults) :
    ∀ {objectIds : List ObjectId}, (∀ x ∈ objectIds, x ∈ ids) →
      s.containsMany faults objectIds = t.containsMany faults objectIds
  | [], _ => rfl
  | oid :: rest, hsub => by
    simp only [Plasma.containsMany, contains, h oid (hsub oid (List.mem_cons_self _ _)),
      h.containsMany faults fun x hx => hsub x (List.mem_cons_of_mem _ hx)]

theorem EqOn.writeData (h : EqOn ids s t) (hoid : oid ∈ ids) (data : Bytes) :
    EqOn ids (s.writeData oid data) (t.writeData oid data) := by
  unfold Plasma.writeData
  rw [h oid hoid]
  split
  · exact h.put _ _
  · exact h

theorem put_objects_of_not_mem (hoid : oid ∈ ids) (hy : y ∉ ids) (o : Option PlasmaObject) :
    (s.put oid o).objects y = s.objects y := by
  rw [put_objects, if_neg fun (h : y = oid) => hy (h ▸ hoid)]

theorem writeData_objects_of_not_mem (hoid : oid ∈ ids) (hy : y ∉ ids) (data : Bytes) :
    (s.writeData oid data).objects y = s.objects y := by
  unfold writeData
  split
  · exact put_objects_of_not_mem hoid hy _
  · rfl

theorem callLocal_create (hoid : oid ∈ ids) (dataSize : Nat) (metadata : Bytes) (fails : Bool) :
    CallLocal ids (·.create oid dataSize metadata fails) where
  agree h := by
    simp only [create, h oid hoid]
    split_ifs
    · exact rfl
    · exact rfl
    · exact h.put _ _
  frame h y hy := by
    obtain ⟨-, -, rfl⟩ := create_eq_ok.1 h
    exact put_objects_of_not_mem hoid hy _

theorem callLocal_seal (hoid : oid ∈ ids) (fails : Bool) : CallLocal ids (·.seal oid fails) where
  agree h := by
    simp only [«seal», h oid hoid]
    split
    · split_ifs
      · exact rfl
      · exact rfl
      · exact h.put _ _
    · exact rfl
  frame h y hy := by
    simp only [«seal»] at h
    split at h
    · split_ifs at h
      cases h
      exact put_objects_of_not_mem hoid hy _
    · cases h

end Plasma

/-! ## Receives that are local to their ids -/

/-- A receive that reads and writes the store only at `ids`: it cannot tell apart nodes with the
same bytes to read and the same objects at `ids`, and it keeps every other object. -/
abbrev Recv.Local (ids : List ObjectId) {α : Type} (x : Recv α) : Prop :=
  PlasmaStream.Local Node.socket (fun y (n : Node) => n.store.objects y) (· ∈ ids) x

section Steps

variable {ids : List ObjectId} {faults : StoreFaults} {peer : SocketAddr} {oid : ObjectId}

theorem readSocket_local {γ : Type} (read : Bytes → Option (γ × Bytes)) :
    Recv.Local ids (readSocket peer read) where
  respects n m h := by
    unfold readSocket
    rw [h.1]
    split
    · exact ⟨rfl, rfl, h.2⟩
    · exact ⟨rfl, h⟩
  frames _ _ n := by
    unfold readSocket
    split <;> rfl

theorem storeCall_local {call : Plasma → Except PlasmaError Plasma} (hc : Plasma.CallLocal ids call) :
    Recv.Local ids (storeCall peer call) where
  respects n m h := by
    have ha := hc.agree h.2
    unfold storeCall
    cases hn : call n.store <;> cases hm : call m.store <;> rw [hn, hm] at ha <;>
      simp only [Plasma.AnswerEqOn] at ha
    · subst ha
      exact ⟨rfl, h⟩
    · exact ⟨rfl, h.1, ha⟩
  frames y hy n := by
    unfold storeCall
    cases hn : call n.store with
    | ok s' => exact hc.frame hn y hy
    | error e => rfl

theorem writeData_local (hoid : oid ∈ ids) (data : Bytes) :
    Recv.Local ids (modify fun n : Node => { n with store := n.store.writeData oid data }) where
  respects _ _ h := ⟨rfl, h.1, Plasma.EqOn.writeData h.2 hoid data⟩
  frames _ hy := Frames.modify fun _ => Plasma.writeData_objects_of_not_mem hoid hy data

theorem receiveObject_local (hoid : oid ∈ ids) : Recv.Local ids (receiveObject faults oid peer) := by
  unfold receiveObject readObjectHeader
  exact Local.bind (Local.bind (readSocket_local _) fun _ => Local.pure _) fun _ =>
    Local.ite (Local.throw _) <| Local.ite (Local.throw _) <| Local.ite (Local.throw _) <|
      Local.bind (readSocket_local _) fun _ =>
        Local.bind (storeCall_local (Plasma.callLocal_create hoid _ _ _)) fun _ =>
          Local.bind (readSocket_local _) fun _ => Local.bind (writeData_local hoid _) fun _ =>
            storeCall_local (Plasma.callLocal_seal hoid _)

/-- The loop, over ids that are all among `ids`, is local to `ids`; its rollback deletes only
ids it has reached. -/
theorem receiveObjects_local :
    ∀ {received rest : List ObjectId}, (∀ x ∈ received ++ rest, x ∈ ids) →
      Recv.Local ids (receiveObjects faults peer received rest)
  | _, [], _ => Local.pure _
  | received, oid :: rest, hids => by
    have hstep : Recv.Local ids (receiveObject faults oid peer) :=
      receiveObject_local (hids oid (by simp))
    have hreached : ∀ x ∈ received ++ [oid], x ∈ ids := fun x hx => hids x (by
      simp only [List.mem_append, List.mem_singleton, List.mem_cons] at hx ⊢
      tauto)
    have hrest : Recv.Local ids (receiveObjects faults peer (received ++ [oid]) rest) :=
      receiveObjects_local fun x hx => hids x (by simpa using hx)
    refine ⟨fun n m h => ?_, fun y hy n => ?_⟩
    · obtain ⟨hres, hnm⟩ := hstep.respects n m h
      cases hn : receiveObject faults oid peer n <;> cases hm : receiveObject faults oid peer m <;>
        rw [hn, hm] at hres hnm <;> cases hres
      · rw [receiveObjects_cons_of_ok hn, receiveObjects_cons_of_ok hm]
        exact hrest.respects _ _ hnm
      · rw [receiveObjects_cons_of_error hn, receiveObjects_cons_of_error hm]
        exact ⟨rfl, hnm.1, Plasma.EqOn.deleteMany hnm.2 _ _⟩
    · have hframe := hstep.frames y hy n
      cases hn : receiveObject faults oid peer n with
      | ok _ n₁ =>
        rw [hn] at hframe
        rw [receiveObjects_cons_of_ok hn]
        exact (hrest.frames y hy n₁).trans hframe
      | error e n₁ =>
        rw [hn] at hframe
        rw [receiveObjects_cons_of_error hn]
        show (n₁.store.deleteMany faults (received ++ [oid])).2.objects y = n.store.objects y
        rw [Plasma.deleteMany_objects_of_not_mem _ _ fun h => hy (hreached y h)]
        exact hframe

theorem ObjectReceiver.run_local {r : ObjectReceiver} (h : ∀ x ∈ r.objectIds, x ∈ ids) :
    Recv.Local ids (r.run faults peer) :=
  Local.bind (readSocket_local _) fun _ =>
    Local.ite (Local.throw _) (receiveObjects_local fun x hx => h x (by simpa using hx))

end Steps

/-- `prepare` cannot tell apart stores that agree at its ids, nor `receiving` sets that agree on
them. -/
theorem ObjectReceiver.prepare_agree {r : ObjectReceiver} (faults : StoreFaults) {s t : Plasma}
    {receiving receiving' : Finset ObjectId} (hs : Plasma.EqOn r.objectIds s t)
    (hr : ∀ x ∈ r.objectIds, x ∈ receiving ↔ x ∈ receiving') :
    (outcome (r.prepare faults s receiving)).1 = (outcome (r.prepare faults t receiving')).1 := by
  have htaken : r.objectIds.filter (· ∈ receiving) = r.objectIds.filter (· ∈ receiving') :=
    List.filter_congr fun x hx => by simp only [hr x hx]
  simp only [ObjectReceiver.prepare, ObjectReceiver.addToReceiving, reserve, htaken,
    hs.containsMany faults fun _ => id, Except.mapError]
  split_ifs
  · cases t.containsMany faults r.objectIds with
    | error => rfl
    | ok inStore => by_cases h : inStore.isEmpty = true <;> simp [h]
  · rfl

/-! ## One task -/

section Task

variable (p : PeerRequest) (faults : StoreFaults) (conn : PeerConnection)

/-- The receiver of a task is local to the task's ids. -/
theorem PeerRequest.run_local :
    Recv.Local p.incomingObjects ((ObjectReceiver.mk p.«from» p.incomingObjects).run faults p.«from») :=
  ObjectReceiver.run_local fun _ => id

/-- A task cannot tell apart servers that agree at its ids: it returns the same and leaves the
same objects there. -/
theorem processPeerRequest_local {s t : Server} (hstore : Plasma.EqOn p.incomingObjects s.store t.store)
    (hrecv : ∀ x ∈ p.incomingObjects, x ∈ s.receiving ↔ x ∈ t.receiving) :
    (processPeerRequest p faults conn s).1 = (processPeerRequest p faults conn t).1 ∧
      Plasma.EqOn p.incomingObjects (processPeerRequest p faults conn s).2.store
        (processPeerRequest p faults conn t).2.store := by
  have hprep := ObjectReceiver.prepare_agree (r := ⟨p.«from», p.incomingObjects⟩) faults hstore hrecv
  have hrun := (PeerRequest.run_local p faults).respects ⟨s.store, conn.response⟩
    ⟨t.store, conn.response⟩ ⟨rfl, hstore⟩
  simp only [processPeerRequest, receiveFromPeer]
  rcases hs : (ObjectReceiver.mk p.«from» p.incomingObjects).prepare faults s.store s.receiving with
      ⟨⟨⟩, _⟩ | _ <;>
    rcases ht : (ObjectReceiver.mk p.«from» p.incomingObjects).prepare faults t.store t.receiving with
      ⟨⟨⟩, _⟩ | _ <;>
    rw [hs, ht] at hprep <;> cases hprep
  · dsimp only
    split
    · exact ⟨rfl, hstore⟩
    · exact ⟨rfl, hstore⟩
    · obtain ⟨hres, -, hst⟩ := hrun
      rcases hn : (ObjectReceiver.mk p.«from» p.incomingObjects).run faults p.«from»
          ⟨s.store, conn.response⟩ with ⟨⟨⟩, _⟩ | _ <;>
        rcases hm : (ObjectReceiver.mk p.«from» p.incomingObjects).run faults p.«from»
          ⟨t.store, conn.response⟩ with ⟨⟨⟩, _⟩ | _ <;>
        rw [hn, hm] at hres hst <;> cases hres
      · exact ⟨rfl, hst⟩
      · exact ⟨rfl, hst⟩
  · exact ⟨rfl, hstore⟩

/-- A task leaves every object outside its ids as it found it. -/
theorem processPeerRequest_frame (s : Server) {y : ObjectId} (hy : y ∉ p.incomingObjects) :
    (processPeerRequest p faults conn s).2.store.objects y = s.store.objects y := by
  have hrun := (PeerRequest.run_local p faults).frames y hy ⟨s.store, conn.response⟩
  simp only [processPeerRequest, receiveFromPeer]
  rcases (ObjectReceiver.mk p.«from» p.incomingObjects).prepare faults s.store s.receiving with
    ⟨⟨⟩, _⟩ | _
  · dsimp only
    split
    · rfl
    · rfl
    · revert hrun
      rcases (ObjectReceiver.mk p.«from» p.incomingObjects).run faults p.«from»
          ⟨s.store, conn.response⟩ with ⟨⟨⟩, _⟩ | _ <;>
        exact id
  · rfl

/-- After a task, the server is as the task found it at every id outside the task's ids. -/
theorem processPeerRequest_agree_of_disjoint (s : Server) {ids : List ObjectId}
    (hd : ∀ x ∈ ids, x ∉ p.incomingObjects) :
    Plasma.EqOn ids (processPeerRequest p faults conn s).2.store s.store ∧
      ∀ x ∈ ids, x ∈ (processPeerRequest p faults conn s).2.receiving ↔ x ∈ s.receiving :=
  ⟨fun x hx => processPeerRequest_frame p faults conn s (hd x hx), fun x hx => by
    rw [processPeerRequest_receiving, ObjectReceiver.drop, Pool.mem_release]
    exact ⟨And.left, fun h => ⟨h, fun _ => hd x hx⟩⟩⟩

end Task

theorem Server.ext_of {s t : Server} (hstore : s.store = t.store)
    (hrecv : s.receiving = t.receiving) : s = t := by
  cases s
  cases t
  cases hstore
  cases hrecv
  rfl

/-- Two tasks over disjoint ids commute: each returns what it returns when it runs first, and
the server ends the same in either order. -/
theorem processPeerRequest_comm (a b : PeerRequest) (fa fb : StoreFaults) (ca cb : PeerConnection)
    (s : Server) (hd : ∀ x ∈ a.incomingObjects, x ∉ b.incomingObjects) :
    (processPeerRequest b fb cb (processPeerRequest a fa ca s).2).1 =
        (processPeerRequest b fb cb s).1 ∧
      (processPeerRequest a fa ca (processPeerRequest b fb cb s).2).1 =
        (processPeerRequest a fa ca s).1 ∧
      (processPeerRequest b fb cb (processPeerRequest a fa ca s).2).2 =
        (processPeerRequest a fa ca (processPeerRequest b fb cb s).2).2 := by
  have hd' : ∀ x ∈ b.incomingObjects, x ∉ a.incomingObjects := fun x hb ha => hd x ha hb
  obtain ⟨hsa, hra⟩ := processPeerRequest_agree_of_disjoint a fa ca s hd'
  obtain ⟨hsb, hrb⟩ := processPeerRequest_agree_of_disjoint b fb cb s hd
  obtain ⟨hresb, hstb⟩ := processPeerRequest_local b fb cb hsa hra
  obtain ⟨hresa, hsta⟩ := processPeerRequest_local a fa ca hsb hrb
  refine ⟨hresb, hresa, Server.ext_of (Plasma.ext (funext fun x => ?_)) ?_⟩
  · by_cases hxa : x ∈ a.incomingObjects
    · rw [processPeerRequest_frame _ _ _ _ (hd x hxa), hsta x hxa]
    by_cases hxb : x ∈ b.incomingObjects
    · rw [hstb x hxb, processPeerRequest_frame _ _ _ _ hxa]
    · rw [processPeerRequest_frame _ _ _ _ hxb, processPeerRequest_frame _ _ _ _ hxa,
        processPeerRequest_frame _ _ _ _ hxa, processPeerRequest_frame _ _ _ _ hxb]
  · simp only [processPeerRequest_receiving, ObjectReceiver.drop, release, if_true]
    exact sdiff_sdiff_comm

/-- A COPY whose peer sends one object, and a TAKE whose peer closes the connection, of two
different ids, on an empty server. -/
theorem processPeerRequest_comm_copy_take :
    let copy : PeerRequest := .copy (.v4 ⟨[10, 0, 0, 2], rfl⟩ 2021) [ObjectId.ofBytes []]
    let take : PeerRequest := .take (.v4 ⟨[10, 0, 0, 2], rfl⟩ 2021) [ObjectId.ofBytes [1]]
    let sendsOne : PeerConnection := ⟨none, none, [StatusCodes.begin, 0, 0, 1, 0, 0, 0, 0, 0, 7]⟩
    let closes : PeerConnection := ⟨none, none, []⟩
    let server : Server := ⟨Plasma.empty, ∅⟩
    (∀ x ∈ copy.incomingObjects, x ∉ take.incomingObjects) ∧
      (processPeerRequest take StoreFaults.none closes
          (processPeerRequest copy StoreFaults.none sendsOne server).2).1 =
        (processPeerRequest take StoreFaults.none closes server).1 ∧
      (processPeerRequest copy StoreFaults.none sendsOne
          (processPeerRequest take StoreFaults.none closes server).2).1 =
        (processPeerRequest copy StoreFaults.none sendsOne server).1 ∧
      (processPeerRequest take StoreFaults.none closes
          (processPeerRequest copy StoreFaults.none sendsOne server).2).2 =
        (processPeerRequest copy StoreFaults.none sendsOne
          (processPeerRequest take StoreFaults.none closes server).2).2 :=
  ⟨by decide, processPeerRequest_comm _ _ _ _ _ _ _ (by decide)⟩

end PlasmaStream
