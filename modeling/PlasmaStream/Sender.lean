import PlasmaStream.Wire
import PlasmaStream.Coordination
import PlasmaStream.Plasma

/-!
# The object sender

`sender.rs`: `send_objects` checks the `deleting` set, gets every object from the local store,
checks their sizes, and only then writes `BEGIN` and the objects, each as a `u64` header
`meta_size | (data_size << 16)`, the metadata and the data. With `delete_after_send` it calls
`delete_many` once all are written, and only logs its error. `run` writes the response code of
an error that has one in place of `BEGIN`, ignoring whether that write succeeds.

A run is an `EStateM` over the store, the `deleting` set and the sending end of the socket.

* `ObjectSender.run_writes`: over every id list, store, `deleting` set and connection, a run
  returns `Ok` having written `BEGIN` and every requested object in request order; or fails at a
  guard, having written at most its response code, which is not `BEGIN`; or fails at a write,
  having written a prefix of `BEGIN` and the objects that ends where the connection broke. Only
  a run that returns `Ok` deletes.
* `send_breaks_inside_object`: that prefix can end inside an object, since `send_object` writes
  the header, the metadata and the data in three writes.
-/

namespace PlasmaStream

/-- The sending end of a connection: the bytes written, and after how many bytes in all the
connection breaks, if it ever does. -/
structure Sink where
  sent : Bytes
  breaksAt : Option Nat

/-- `write_all`: the bytes written until the connection breaks, and whether all of them were. -/
def Sink.writeAll (k : Sink) (bs : Bytes) : Bool × Sink :=
  match k.breaksAt with
  | none => (true, { k with sent := k.sent ++ bs })
  | some n =>
    if k.sent.length + bs.length ≤ n then (true, { k with sent := k.sent ++ bs })
    else (false, { k with sent := k.sent ++ bs.take (n - k.sent.length) })

/-- A sending server as a send sees it: its store, its `deleting` set and the socket. -/
structure SenderNode where
  store : Plasma
  deleting : Finset ObjectId
  sink : Sink

abbrev Send := EStateM ObjectSendError SenderNode

/-- A write into the socket, failing as a `ConnectionError` of `peer`. -/
def writeSocket (peer : SocketAddr) (bs : Bytes) : Send Unit := fun n =>
  match n.sink.writeAll bs with
  | (true, k) => .ok () { n with sink := k }
  | (false, k) => .error (.connectionError (some peer) .brokenPipe) { n with sink := k }

/-- The header of `send_object`: `meta_size | (data_size << 16)`, a `u64`. -/
def objectHeader (metaSize dataSize : Nat) : Nat := (metaSize ||| dataSize <<< 16) % 2 ^ 64

/-- The header `send_object` writes for sizes that fit: metadata size below, data size above. -/
theorem objectHeader_eq {metaSize dataSize : Nat} (hm : metaSize < 2 ^ 16)
    (hd : dataSize ≤ maxDataSize) :
    objectHeader metaSize dataSize = metaSize + 2 ^ 16 * dataSize := by
  rw [objectHeader, Nat.shiftLeft_eq, Nat.or_comm, Nat.mul_comm, ← Nat.mul_add_lt_is_or hm,
    Nat.add_comm, Nat.mod_eq_of_lt]
  simp only [maxDataSize] at hd
  omega

theorem objectHeader_mod {metaSize dataSize : Nat} (hm : metaSize < 2 ^ 16)
    (hd : dataSize ≤ maxDataSize) :
    objectHeader metaSize dataSize % 2 ^ 16 = metaSize ∧
      objectHeader metaSize dataSize >>> 16 = dataSize ∧
      objectHeader metaSize dataSize < 2 ^ 64 := by
  rw [objectHeader_eq hm hd, Nat.shiftRight_eq_div_pow]
  simp only [maxDataSize] at hd
  omega

/-- The bytes `send_object` writes. -/
def encodeObject (ob : ObjectBuffer) : Bytes :=
  toLeBytes 8 (objectHeader ob.metadata.length ob.data.length) ++ ob.metadata ++ ob.data

/-- `send_object`. -/
def sendObject (peer : SocketAddr) (ob : ObjectBuffer) : Send Unit := do
  writeSocket peer (toLeBytes 8 (objectHeader ob.metadata.length ob.data.length))
  writeSocket peer ob.metadata
  writeSocket peer ob.data

/-- The loop of `send_objects` over the objects, stopping at the first failed write. -/
def sendAll (peer : SocketAddr) : List ObjectBuffer → Send Unit
  | [] => pure ()
  | ob :: rest => do
    sendObject peer ob
    sendAll peer rest

namespace ObjectSender

/-- `check_deleting`, on the server's `deleting` set. -/
def checkDeletingSet (s : ObjectSender) : Send Unit := fun n =>
  match s.checkDeleting n.deleting with
  | .ok deleting => .ok () { n with deleting := deleting }
  | .error e => .error e n

/-- `get_objects`: the objects, or the ids of those that are missing. -/
def getObjects (s : ObjectSender) (faults : StoreFaults) (store : Plasma) :
    Except ObjectSendError (List ObjectBuffer) :=
  match store.getMany faults s.objectIds with
  | .ok objects =>
    let missing := (s.objectIds.zip objects).filterMap fun p => if p.2.isNone then some p.1 else none
    if missing.isEmpty then .ok (objects.filterMap id) else .error (.objectsNotFound s.peerAddr missing)
  | .error e => .error (.storeError s.peerAddr e)

/-- `check_object_sizes`. -/
def checkObjectSizes (s : ObjectSender) : List ObjectBuffer → Except ObjectSendError Unit
  | [] => .ok ()
  | ob :: rest =>
    if ob.metadata.length > maxMetaSize then
      .error (.objectMetaTooLarge s.peerAddr ob.id ob.metadata.length)
    else if ob.data.length > maxDataSize then
      .error (.objectDataTooLarge s.peerAddr ob.id ob.data.length)
    else s.checkObjectSizes rest

def sendObjects (s : ObjectSender) (faults : StoreFaults) : Send Unit := do
  s.checkDeletingSet
  let objects ← liftExcept (s.getObjects faults (← get).store)
  liftExcept (s.checkObjectSizes objects)
  writeSocket s.peerAddr [StatusCodes.begin]
  sendAll s.peerAddr objects
  if s.deleteAfterSend then
    modify fun n => { n with store := (n.store.deleteMany faults s.objectIds).2 }

def run (s : ObjectSender) (faults : StoreFaults) : Send Unit := fun n =>
  match s.sendObjects faults n with
  | .ok () n' => .ok () n'
  | .error e n' =>
    match e.responseCode with
    | some code => .error e { n' with sink := (n'.sink.writeAll [code]).2 }
    | none => .error e n'

end ObjectSender

/-! ## One step at a time -/

section Steps

variable {peer : SocketAddr} {n n' : SenderNode} {bs : Bytes}

theorem writeAll_of_true {k k' : Sink} (h : k.writeAll bs = (true, k')) :
    k' = { k with sent := k.sent ++ bs } := by
  unfold Sink.writeAll at h
  split at h
  · cases h; rfl
  · split_ifs at h <;> cases h; rfl

/-- `write_all` writes a prefix of its bytes, and all of them when it reports success. -/
theorem Sink.writeAll_prefix (k : Sink) (bs : Bytes) :
    ∃ p, p <+: bs ∧ (k.writeAll bs).2 = { k with sent := k.sent ++ p } ∧
      ((k.writeAll bs).1 = true → p = bs) := by
  unfold Sink.writeAll
  split
  · exact ⟨bs, List.prefix_refl _, rfl, fun _ => rfl⟩
  · split_ifs
    · exact ⟨bs, List.prefix_refl _, rfl, fun _ => rfl⟩
    · exact ⟨_, List.take_prefix _ _, rfl, fun h => by cases h⟩

theorem Sink.writeAll_unbroken {k : Sink} (h : k.breaksAt = none) (bs : Bytes) :
    k.writeAll bs = (true, { k with sent := k.sent ++ bs }) := by
  simp [Sink.writeAll, h]

/-- More bytes written after a `write_all` that got through are one `write_all` of all of them. -/
theorem Sink.writeAll_append {k k₁ : Sink} {cs : Bytes} (h : k.writeAll bs = (true, k₁)) :
    k₁.writeAll cs = k.writeAll (bs ++ cs) := by
  obtain ⟨sent, _ | m⟩ := k
  · simp only [Sink.writeAll, Prod.mk.injEq, true_and] at h
    subst h
    simp [Sink.writeAll]
  · simp only [Sink.writeAll] at h
    split_ifs at h with h₁
    · simp only [Prod.mk.injEq, true_and] at h
      subst h
      simp only [Sink.writeAll, List.length_append] at h₁ ⊢
      split_ifs with h₂ h₃ h₃
      · simp
      · omega
      · omega
      · rw [List.take_append_eq_append_take, List.take_of_length_le (l := bs) (by omega), Nat.sub_sub]
        simp
    · simp at h

/-- A `write_all` that failed got out as many of its bytes as the connection still took. -/
theorem Sink.writeAll_eq_false {k k' : Sink} (h : k.writeAll bs = (false, k')) :
    ∃ m, k.breaksAt = some m ∧ m < k.sent.length + bs.length ∧
      k' = { k with sent := k.sent ++ bs.take (m - k.sent.length) } := by
  unfold Sink.writeAll at h
  split at h
  · cases h
  · next m hm =>
    split_ifs at h with h₁
    · simp at h
    · simp only [Prod.mk.injEq, true_and] at h
      exact ⟨m, hm, by omega, h.symm⟩

/-- `n'` is `n` after one `write_all` of `bs` that reported `ok`, with nothing else changed. -/
def SenderNode.Wrote (n n' : SenderNode) (ok : Bool) (bs : Bytes) : Prop :=
  n.sink.writeAll bs = (ok, n'.sink) ∧ n' = { n with sink := n'.sink }

/-- A write that got through, and then another, are one write of both. -/
theorem SenderNode.Wrote.append {n₁ : SenderNode} {ok : Bool} {cs : Bytes}
    (h₁ : n.Wrote n₁ true bs) (h₂ : n₁.Wrote n' ok cs) : n.Wrote n' ok (bs ++ cs) :=
  ⟨by rw [← Sink.writeAll_append h₁.1, h₂.1],
    h₂.2.trans (congrArg (fun m : SenderNode => { m with sink := n'.sink }) h₁.2)⟩

theorem SenderNode.Wrote.sent (h : n.Wrote n' true bs) :
    n' = { n with sink := { n.sink with sent := n.sink.sent ++ bs } } :=
  h.2.trans (by rw [writeAll_of_true h.1])

theorem writeSocket_eq_ok (h : writeSocket peer bs n = .ok () n') : n.Wrote n' true bs := by
  unfold writeSocket at h
  split at h
  · next k hk => cases h; exact ⟨hk, rfl⟩
  · cases h

/-- A write into a connection that holds. -/
theorem writeSocket_unbroken {store : Plasma} {deleting : Finset ObjectId} {sent : Bytes} :
    writeSocket peer bs ⟨store, deleting, ⟨sent, none⟩⟩ =
      .ok () ⟨store, deleting, ⟨sent ++ bs, none⟩⟩ :=
  rfl

/-- A failed write is a `ConnectionError`, from a `write_all` the connection broke. -/
theorem writeSocket_eq_error {e : ObjectSendError} (h : writeSocket peer bs n = .error e n') :
    e = .connectionError (some peer) .brokenPipe ∧ n.Wrote n' false bs := by
  unfold writeSocket at h
  split at h
  · cases h
  · next k hk => cases h; exact ⟨rfl, hk, rfl⟩

theorem sendObject_eq_ok {ob : ObjectBuffer} (h : sendObject peer ob n = .ok () n') :
    n.Wrote n' true (encodeObject ob) := by
  obtain ⟨_, n₁, h₁, h⟩ := bind_apply_eq_ok h
  obtain ⟨_, n₂, h₂, h⟩ := bind_apply_eq_ok h
  simpa only [encodeObject, List.append_assoc] using
    (writeSocket_eq_ok h₁).append ((writeSocket_eq_ok h₂).append (writeSocket_eq_ok h))

/-- A failed `send_object` broke the connection inside the object's bytes. -/
theorem sendObject_eq_error {ob : ObjectBuffer} {e : ObjectSendError}
    (h : sendObject peer ob n = .error e n') :
    e = .connectionError (some peer) .brokenPipe ∧ ∃ q, q <+: encodeObject ob ∧ n.Wrote n' false q := by
  rcases bind_apply_eq_error h with h | ⟨_, n₁, h₁, h⟩
  · obtain ⟨he, hw⟩ := writeSocket_eq_error h
    exact ⟨he, _, (List.prefix_append _ _).trans (List.prefix_append _ _), hw⟩
  rcases bind_apply_eq_error h with h | ⟨_, n₂, h₂, h⟩
  · obtain ⟨he, hw⟩ := writeSocket_eq_error h
    exact ⟨he, _, List.prefix_append _ _, (writeSocket_eq_ok h₁).append hw⟩
  · obtain ⟨he, hw⟩ := writeSocket_eq_error h
    exact ⟨he, _, by rw [encodeObject, List.append_assoc],
      (writeSocket_eq_ok h₁).append ((writeSocket_eq_ok h₂).append hw)⟩

theorem sendObject_unbroken {ob : ObjectBuffer} {store : Plasma} {deleting : Finset ObjectId}
    {sent : Bytes} :
    sendObject peer ob ⟨store, deleting, ⟨sent, none⟩⟩ =
      .ok () ⟨store, deleting, ⟨sent ++ encodeObject ob, none⟩⟩ := by
  rw [sendObject, bind_apply_of_ok writeSocket_unbroken, bind_apply_of_ok writeSocket_unbroken,
    writeSocket_unbroken]
  simp [encodeObject]

theorem sendAll_eq_ok : ∀ {obs : List ObjectBuffer} {n n' : SenderNode},
    sendAll peer obs n = .ok () n' →
    n' = { n with sink := { n.sink with sent := n.sink.sent ++ (obs.map encodeObject).flatten } }
  | [], n, n', h => by cases h; simp
  | ob :: obs, n, n', h => by
    obtain ⟨_, n₁, h₁, h⟩ := bind_apply_eq_ok h
    rw [sendAll_eq_ok h, (sendObject_eq_ok h₁).sent]
    simp

/-- The loop stops at the first failed write, the connection broken inside the objects' bytes. -/
theorem sendAll_eq_error {e : ObjectSendError} :
    ∀ {obs : List ObjectBuffer} {n n' : SenderNode}, sendAll peer obs n = .error e n' →
      e = .connectionError (some peer) .brokenPipe ∧
        ∃ q, q <+: (obs.map encodeObject).flatten ∧ n.Wrote n' false q
  | [], n, n', h => by cases h
  | ob :: obs, n, n', h => by
    rcases bind_apply_eq_error h with h | ⟨_, n₁, h₁, h⟩
    · obtain ⟨he, q, hq, hw⟩ := sendObject_eq_error h
      exact ⟨he, q, hq.trans (List.prefix_append _ _), hw⟩
    · obtain ⟨he, q, hq, hw⟩ := sendAll_eq_error h
      exact ⟨he, _, (List.prefix_append_right_inj _).2 hq, (sendObject_eq_ok h₁).append hw⟩

theorem sendAll_unbroken {store : Plasma} {deleting : Finset ObjectId} :
    ∀ {obs : List ObjectBuffer} {sent : Bytes}, sendAll peer obs ⟨store, deleting, ⟨sent, none⟩⟩ =
      .ok () ⟨store, deleting, ⟨sent ++ (obs.map encodeObject).flatten, none⟩⟩
  | [], sent => by simp [sendAll]; rfl
  | ob :: obs, sent => by
    rw [sendAll, bind_apply_of_ok sendObject_unbroken, sendAll_unbroken]
    simp

/-- A write touches only the socket: it keeps whatever a view that ignores the socket sees, the
store and `deleting` among them. -/
theorem writeSocket_frames {γ : Type} {view : SenderNode → γ}
    (hv : ∀ (n : SenderNode) (k : Sink), view { n with sink := k } = view n) :
    Frames view (writeSocket peer bs) := fun n => by
  unfold writeSocket
  split <;> exact hv _ _

theorem sendObject_frames {γ : Type} {view : SenderNode → γ}
    (hv : ∀ (n : SenderNode) (k : Sink), view { n with sink := k } = view n) {ob : ObjectBuffer} :
    Frames view (sendObject peer ob) :=
  Frames.bind (writeSocket_frames hv) fun _ => Frames.bind (writeSocket_frames hv) fun _ =>
    writeSocket_frames hv

theorem sendAll_frames {γ : Type} {view : SenderNode → γ}
    (hv : ∀ (n : SenderNode) (k : Sink), view { n with sink := k } = view n) :
    ∀ {obs : List ObjectBuffer}, Frames view (sendAll peer obs)
  | [] => Frames.pure _
  | _ :: _ => Frames.bind (sendObject_frames hv) fun _ => sendAll_frames hv

end Steps

/-! ## A whole send -/

theorem missing_eq_nil {f : ObjectId → Option ObjectBuffer} :
    ∀ {objectIds : List ObjectId},
      ((objectIds.zip (objectIds.map f)).filterMap
          fun p => if p.2.isNone then some p.1 else none).isEmpty ↔
        ∀ x ∈ objectIds, (f x).isSome
  | [] => by simp
  | x :: rest => by
    cases hx : f x
    · simp [hx]
    · simp only [List.map_cons, List.zip_cons_cons, List.filterMap_cons, hx, Option.isNone_some,
        Bool.false_eq_true, if_false, missing_eq_nil]
      simp [hx]

namespace ObjectSender

variable {s : ObjectSender} {faults : StoreFaults} {store : Plasma} {n n' : SenderNode}

theorem getObjects_eq_ok {objects : List ObjectBuffer}
    (h : s.getObjects faults store = .ok objects) :
    (∀ x ∈ s.objectIds, faults.get x = false ∧ (store.buffer x).isSome) ∧
      objects = s.objectIds.filterMap store.buffer := by
  unfold getObjects at h
  split at h
  · next obs hobs =>
    obtain ⟨hf, rfl⟩ := Plasma.getMany_eq_ok hobs
    dsimp only at h
    split_ifs at h with hm
    cases h
    exact ⟨fun x hx => ⟨hf x hx, missing_eq_nil.1 hm x hx⟩, by simp [List.filterMap_map]⟩
  · cases h

theorem getObjects_of_sealed
    (h : ∀ x ∈ s.objectIds, faults.get x = false ∧ (store.buffer x).isSome) :
    s.getObjects faults store = .ok (s.objectIds.filterMap store.buffer) := by
  rw [getObjects, Plasma.getMany_of_no_faults fun x hx => (h x hx).1]
  simp only
  rw [if_pos (missing_eq_nil.2 fun x hx => (h x hx).2)]
  simp [List.filterMap_map]

theorem checkObjectSizes_eq_ok :
    ∀ {objects : List ObjectBuffer}, s.checkObjectSizes objects = .ok () ↔
      ∀ ob ∈ objects, ob.metadata.length ≤ maxMetaSize ∧ ob.data.length ≤ maxDataSize
  | [] => by simp [checkObjectSizes]
  | ob :: rest => by
    have ih : s.checkObjectSizes rest = .ok () ↔ _ := checkObjectSizes_eq_ok
    rw [checkObjectSizes, List.forall_mem_cons, ← ih]
    split_ifs with hm hd
    · exact iff_of_false nofun fun h => absurd h.1.1 (by omega)
    · exact iff_of_false nofun fun h => absurd h.1.2 (by omega)
    · exact ⟨fun h => ⟨⟨by omega, by omega⟩, h⟩, fun h => h.2⟩

theorem checkDeletingSet_eq_ok (h : s.checkDeletingSet n = .ok () n') :
    n' = { n with deleting := n'.deleting } := by
  unfold checkDeletingSet at h
  split at h <;> cases h; rfl

theorem checkDeletingSet_eq_error {e : ObjectSendError} (h : s.checkDeletingSet n = .error e n') :
    n' = n := by
  unfold checkDeletingSet at h
  split at h <;> cases h; rfl

theorem checkDeletingSet_of_free (h : ∀ x ∈ s.objectIds, x ∉ n.deleting) :
    s.checkDeletingSet n =
      .ok () { n with deleting :=
        if s.deleteAfterSend then n.deleting ∪ s.objectIds.toFinset else n.deleting } := by
  rw [checkDeletingSet, (checkDeleting_eq_ok.2 (reserve_eq_ok.2 ⟨h, rfl⟩))]

theorem liftExcept_eq_ok {α : Type} {x : Except ObjectSendError α} {a : α}
    (h : (liftExcept x : Send α) n = .ok a n') : x = .ok a ∧ n' = n := by
  cases x <;> cases h; exact ⟨rfl, rfl⟩

theorem liftExcept_eq_error {α : Type} {x : Except ObjectSendError α} {e : ObjectSendError}
    (h : (liftExcept x : Send α) n = .error e n') : n' = n := by
  cases x <;> cases h; rfl

/-- A send that succeeded got every object, found their sizes admissible, wrote `BEGIN` and the
objects, and then deleted them if asked to. -/
theorem sendObjects_eq_ok (h : s.sendObjects faults n = .ok () n') :
    ∃ objects, s.getObjects faults n.store = .ok objects ∧ s.checkObjectSizes objects = .ok () ∧
      n'.sink.sent = n.sink.sent ++ StatusCodes.begin :: (objects.map encodeObject).flatten ∧
      n'.store = if s.deleteAfterSend then (n.store.deleteMany faults s.objectIds).2 else n.store := by
  obtain ⟨_, n₁, h₁, k₁⟩ := bind_apply_eq_ok h
  rw [get_bind_apply] at k₁
  obtain ⟨objects, n₂, h₂, k₂⟩ := bind_apply_eq_ok k₁
  obtain ⟨_, n₃, h₃, k₃⟩ := bind_apply_eq_ok k₂
  obtain ⟨_, n₄, h₄, k₄⟩ := bind_apply_eq_ok k₃
  obtain ⟨_, n₅, h₅, h⟩ := bind_apply_eq_ok k₄
  obtain ⟨hg, rfl⟩ := liftExcept_eq_ok h₂
  obtain ⟨hc, rfl⟩ := liftExcept_eq_ok h₃
  rw [checkDeletingSet_eq_ok h₁] at hg h₄
  rw [(writeSocket_eq_ok h₄).sent] at h₅
  rw [sendAll_eq_ok h₅] at h
  refine ⟨objects, hg, hc, ?_⟩
  split at h <;> cases h <;> simp [*]

theorem checkDeletingSet_error_code {e : ObjectSendError}
    (h : s.checkDeletingSet n = .error e n') : e.responseCode.isSome := by
  unfold checkDeletingSet checkDeleting at h
  cases hr : reserve n.deleting s.objectIds s.deleteAfterSend <;>
    simp only [hr, Except.mapError] at h <;> cases h
  rfl

theorem getObjects_error_code {e : ObjectSendError} (h : s.getObjects faults store = .error e) :
    e.responseCode.isSome := by
  unfold getObjects at h
  split at h
  · dsimp only at h
    split_ifs at h
    cases h; rfl
  · cases h; rfl

theorem checkObjectSizes_error_code {e : ObjectSendError} :
    ∀ {objects : List ObjectBuffer}, s.checkObjectSizes objects = .error e → e.responseCode.isSome
  | [], h => by cases h
  | ob :: rest, h => by
    rw [checkObjectSizes] at h
    split_ifs at h
    · cases h; rfl
    · cases h; rfl
    · exact checkObjectSizes_error_code h

theorem liftExcept_error_source {α : Type} {x : Except ObjectSendError α} {e : ObjectSendError}
    (h : (liftExcept x : Send α) n = .error e n') : x = .error e := by
  cases x <;> cases h; rfl

/-- How a send fails. At a guard, before anything is written, with an error that has a response
code; or at a write, once every guard passed, the connection broken inside `BEGIN` and the
objects. Either way the store is as it was: the objects are deleted only after all of them are
written. -/
theorem sendObjects_error_cases {e : ObjectSendError} (h : s.sendObjects faults n = .error e n') :
    n'.store = n.store ∧
      ((e.responseCode.isSome ∧ n'.sink = n.sink) ∨
        (e = .connectionError (some s.peerAddr) .brokenPipe ∧
          ∃ objects, s.getObjects faults n.store = .ok objects ∧
            ∃ q, q <+: StatusCodes.begin :: (objects.map encodeObject).flatten ∧
              n.sink.writeAll q = (false, n'.sink))) := by
  rcases bind_apply_eq_error h with h₁ | ⟨_, n₁, h₁, k₁⟩
  · rw [checkDeletingSet_eq_error h₁]
    exact ⟨rfl, .inl ⟨checkDeletingSet_error_code h₁, rfl⟩⟩
  have e₁ := checkDeletingSet_eq_ok h₁
  rw [get_bind_apply] at k₁
  rcases bind_apply_eq_error k₁ with h₂ | ⟨objects, n₂, h₂, k₂⟩
  · rw [liftExcept_eq_error h₂, e₁]
    exact ⟨rfl, .inl ⟨getObjects_error_code (liftExcept_error_source h₂), rfl⟩⟩
  obtain ⟨hg, rfl⟩ := liftExcept_eq_ok h₂
  rw [e₁] at hg
  rcases bind_apply_eq_error k₂ with h₃ | ⟨_, n₃, h₃, k₃⟩
  · rw [liftExcept_eq_error h₃, e₁]
    exact ⟨rfl, .inl ⟨checkObjectSizes_error_code (liftExcept_error_source h₃), rfl⟩⟩
  obtain ⟨-, rfl⟩ := liftExcept_eq_ok h₃
  rcases bind_apply_eq_error k₃ with h₄ | ⟨_, n₄, h₄, k₄⟩
  · obtain ⟨he, hw, hn⟩ := writeSocket_eq_error h₄
    rw [hn, e₁] at hw ⊢
    exact ⟨rfl, .inr ⟨he, objects, hg, _, List.prefix_append [StatusCodes.begin] _, hw⟩⟩
  rcases bind_apply_eq_error k₄ with h₅ | ⟨_, n₅, h₅, k₅⟩
  · obtain ⟨he, q, hq, hw, hn⟩ := sendAll_eq_error h₅
    have hw' := (writeSocket_eq_ok h₄).append ⟨hw, hn⟩
    rw [e₁] at hw'
    refine ⟨?_, .inr ⟨he, objects, hg, _, (List.prefix_append_right_inj [StatusCodes.begin]).2 hq, hw'.1⟩⟩
    rw [hw'.2]
  · split at k₅ <;> cases k₅

/-- A send that failed left the store as it was. -/
theorem sendObjects_eq_error {e : ObjectSendError} (h : s.sendObjects faults n = .error e n') :
    n'.store = n.store :=
  (sendObjects_error_cases h).1

theorem run_eq_ok (h : s.run faults n = .ok () n') : s.sendObjects faults n = .ok () n' := by
  unfold run at h
  split at h
  · cases h; assumption
  · split at h <;> cases h

theorem run_eq_error {e : ObjectSendError} (h : s.run faults n = .error e n') :
    n'.store = n.store := by
  unfold run at h
  split at h
  · cases h
  · next hs => split at h <;> cases h <;> simpa using sendObjects_eq_error hs

theorem liftExcept_ok_bind {α β : Type} {a : α} {f : α → Send β} :
    (liftExcept (.ok a : Except ObjectSendError α) >>= f) n = f a n := rfl

/-- Over a connection that holds, a sender whose checks pass writes `BEGIN` and every object. -/
theorem run_unbroken {deleting : Finset ObjectId} {sent : Bytes} {objects : List ObjectBuffer}
    (hfree : ∀ x ∈ s.objectIds, x ∉ deleting) (hg : s.getObjects faults store = .ok objects)
    (hc : s.checkObjectSizes objects = .ok ()) :
    s.run faults ⟨store, deleting, ⟨sent, none⟩⟩ =
      .ok () ⟨if s.deleteAfterSend then (store.deleteMany faults s.objectIds).2 else store,
        if s.deleteAfterSend then deleting ∪ s.objectIds.toFinset else deleting,
        ⟨sent ++ StatusCodes.begin :: (objects.map encodeObject).flatten, none⟩⟩ := by
  rw [run, sendObjects, bind_apply_of_ok (checkDeletingSet_of_free hfree), get_bind_apply]
  simp only [hg, hc, liftExcept_ok_bind]
  rw [bind_apply_of_ok writeSocket_unbroken, bind_apply_of_ok sendAll_unbroken]
  cases s.deleteAfterSend <;>
    simp [modify, modifyGet, MonadStateOf.modifyGet, EStateM.modifyGet, pure, EStateM.pure]

/-! ## What a run writes -/

theorem run_writes (s : ObjectSender) (faults : StoreFaults) (n : SenderNode) :
    (∃ n', s.run faults n = .ok () n' ∧ (∀ x ∈ s.objectIds, (n.store.buffer x).isSome) ∧
      n'.sink.sent = n.sink.sent ++
        StatusCodes.begin :: ((s.objectIds.filterMap n.store.buffer).map encodeObject).flatten ∧
      n'.store = if s.deleteAfterSend then (n.store.deleteMany faults s.objectIds).2 else n.store) ∨
    (∃ e n' code p, s.run faults n = .error e n' ∧ e.responseCode = some code ∧
      code ≠ StatusCodes.begin ∧ p <+: [code] ∧ (n.sink.breaksAt = none → p = [code]) ∧
      n'.sink.sent = n.sink.sent ++ p ∧ n'.store = n.store) ∨
    (∃ e n' p, s.run faults n = .error e n' ∧ e.responseCode = none ∧
      (∀ x ∈ s.objectIds, (n.store.buffer x).isSome) ∧
      p <+: StatusCodes.begin :: ((s.objectIds.filterMap n.store.buffer).map encodeObject).flatten ∧
      n'.sink.sent = n.sink.sent ++ p ∧
      (∃ m, n.sink.breaksAt = some m ∧ (n.sink.sent ++ p).length = max n.sink.sent.length m) ∧
      n'.store = n.store) := by
  cases h : s.sendObjects faults n with
  | ok _ n' =>
    obtain ⟨objects, hg, -, hsent, hstore⟩ := sendObjects_eq_ok h
    obtain ⟨hall, rfl⟩ := getObjects_eq_ok hg
    exact .inl ⟨n', by simp [run, h], fun x hx => (hall x hx).2, hsent, hstore⟩
  | error e n' =>
    obtain ⟨hstore, ⟨hcode, hsink⟩ | ⟨rfl, objects, hg, q, hq, hsink⟩⟩ := sendObjects_error_cases h
    · obtain ⟨code, hc⟩ := Option.isSome_iff_exists.1 hcode
      obtain ⟨p, hp, hk, hfull⟩ := n'.sink.writeAll_prefix [code]
      refine .inr (.inl ⟨e, { n' with sink := (n'.sink.writeAll [code]).2 }, code, p,
        by simp [run, h, hc], hc, ObjectSendError.responseCode_ne_begin hc, hp, fun hb => hfull ?_,
        by simp only [hk]; rw [hsink], hstore⟩)
      rw [hsink, Sink.writeAll_unbroken hb]
    · obtain ⟨hall, rfl⟩ := getObjects_eq_ok hg
      obtain ⟨m, hm, hlt, hk⟩ := Sink.writeAll_eq_false hsink
      refine .inr (.inr ⟨.connectionError (some s.peerAddr) .brokenPipe, n',
        q.take (m - n.sink.sent.length), by simp [run, h, ObjectSendError.responseCode], rfl,
        fun x hx => (hall x hx).2, (List.take_prefix _ _).trans hq, by rw [hk],
        ⟨m, hm, ?_⟩, hstore⟩)
      simp only [List.length_append, List.length_take]
      omega

/-- The first byte a run writes is `BEGIN`, or the code of the error it returns. -/
theorem run_head (s : ObjectSender) (faults : StoreFaults) (n : SenderNode) {b : UInt8}
    {rest : Bytes} (h : (outcome (s.run faults n)).2.sink.sent = n.sink.sent ++ b :: rest) :
    b = StatusCodes.begin ∨
      ∃ e, (outcome (s.run faults n)).1 = .error e ∧ e.responseCode = some b := by
  cases hs : s.sendObjects faults n with
  | ok _ n' =>
    obtain ⟨objects, -, -, hsent, -⟩ := sendObjects_eq_ok hs
    simp only [run, hs, outcome_ok, hsent, List.append_cancel_left_eq, List.cons.injEq] at h
    exact .inl h.1.symm
  | error e n' =>
    obtain ⟨-, ⟨hcode, hsink⟩ | ⟨rfl, _, -, q, hq, hsink⟩⟩ := sendObjects_error_cases hs
    · obtain ⟨code, hc⟩ := Option.isSome_iff_exists.1 hcode
      obtain ⟨p, hp, hk, -⟩ := n.sink.writeAll_prefix [code]
      simp only [run, hs, hc, outcome_error, hsink, hk, List.append_cancel_left_eq] at h
      subst h
      exact .inr ⟨e, by simp only [run, hs, hc, outcome_error],
        by rw [hc, (List.cons_prefix_cons.1 hp).1]⟩
    · obtain ⟨p, hp, hk, -⟩ := n.sink.writeAll_prefix q
      simp only [hsink] at hk
      simp only [run, hs, ObjectSendError.responseCode, outcome_error, hk,
        List.append_cancel_left_eq] at h
      subst h
      exact .inl (List.cons_prefix_cons.1 (hp.trans hq)).1

/-! ### What a run does to `deleting` -/

theorem liftExcept_frames {α γ : Type} {view : SenderNode → γ} {x : Except ObjectSendError α} :
    Frames view (liftExcept x : Send α) := fun _ => by
  cases x <;> rfl

/-- Past `check_deleting`, a sender leaves `deleting` alone. -/
theorem deleting_sendObjects (n : SenderNode) :
    (outcome (s.sendObjects faults n)).2.deleting = (outcome (s.checkDeletingSet n)).2.deleting := by
  unfold sendObjects
  refine Frames.bind_right (fun _ => ?_) n
  exact Frames.bind Frames.get fun _ => Frames.bind liftExcept_frames fun _ =>
    Frames.bind liftExcept_frames fun _ => Frames.bind (writeSocket_frames fun _ _ => by rfl) fun _ =>
      Frames.bind (sendAll_frames fun _ _ => by rfl) fun _ =>
        Frames.ite (Frames.modify fun _ => rfl) (Frames.pure _)

theorem deleting_run (n : SenderNode) :
    (outcome (s.run faults n)).2.deleting = (outcome (s.sendObjects faults n)).2.deleting := by
  unfold run
  cases s.sendObjects faults n with
  | ok => rfl
  | error e n' => dsimp only; cases e.responseCode <;> rfl

/-- The drop of a sender gives back the `deleting` set its run found, however the run ended: what
`check_deleting` added, the drop removes. -/
theorem drop_run (n : SenderNode) :
    s.drop (outcome (s.run faults n)).2.deleting = s.drop n.deleting := by
  rw [deleting_run, deleting_sendObjects]
  unfold checkDeletingSet
  split
  · next deleting h =>
    rw [outcome_ok, (reserve_eq_ok.1 (checkDeleting_eq_ok.1 h)).2]
    exact release_reserved _ _ _
  · rfl

/-! ### What a run does to the store -/

/-- The code `run` writes after a failure touches only the socket. -/
theorem run_frames {γ : Type} {view : SenderNode → γ}
    (hv : ∀ (n : SenderNode) (k : Sink), view { n with sink := k } = view n)
    (h : Frames view (s.sendObjects faults)) : Frames view (s.run faults) := fun n => by
  rw [← h n]
  unfold run
  cases s.sendObjects faults n with
  | ok => rfl
  | error e n' => dsimp only; cases e.responseCode <;> simp only [outcome_error, hv]

/-- A sender changes an object only when it deletes and the object is one of its own: a COPY
only reads the store, and a TAKE deletes only its own ids. -/
theorem objects_run {y : ObjectId} (hy : s.deleteAfterSend = true → y ∉ s.objectIds) :
    Frames (fun n : SenderNode => n.store.objects y) (s.run faults) := by
  refine run_frames (fun _ _ => rfl) ?_
  unfold sendObjects
  refine Frames.bind (fun n => ?_) fun _ => Frames.bind Frames.get fun _ =>
    Frames.bind liftExcept_frames fun _ => Frames.bind liftExcept_frames fun _ =>
      Frames.bind (writeSocket_frames fun _ _ => by rfl) fun _ =>
        Frames.bind (sendAll_frames fun _ _ => by rfl) fun _ => ?_
  · unfold checkDeletingSet
    split <;> rfl
  · split
    · next hd =>
      refine Frames.modify fun n => ?_
      simp only [Plasma.deleteMany_objects]
      exact if_neg fun h => hy hd (List.takeWhile_subset _ h.1)
    · exact Frames.pure _

end ObjectSender

/-- A connection that breaks after `BEGIN` and the first object's header: the write of its
metadata fails, and what was written is neither a status byte nor `BEGIN` and whole objects. On
a connection broken from the start, a sender refused by its guard writes nothing at all. -/
theorem send_breaks_inside_object :
    (∃ n', (ObjectSender.mk (.v4 ⟨[10, 0, 0, 2], rfl⟩ 2021) [ObjectId.ofBytes []] false).run
        StoreFaults.none
        ⟨Plasma.empty.put (ObjectId.ofBytes []) (some ⟨[7], [1], true, false⟩), ∅, ⟨[], some 9⟩⟩ =
          .error (.connectionError (some (.v4 ⟨[10, 0, 0, 2], rfl⟩ 2021)) .brokenPipe) n' ∧
        n'.sink.sent = [StatusCodes.begin, 1, 0, 1, 0, 0, 0, 0, 0] ∧
        ∀ k, n'.sink.sent ≠ StatusCodes.begin ::
          ((([⟨ObjectId.ofBytes [], [7], [1]⟩] : List ObjectBuffer).take k).map
            encodeObject).flatten) ∧
    ∃ n', (ObjectSender.mk (.v4 ⟨[10, 0, 0, 2], rfl⟩ 2021) [ObjectId.ofBytes []] true).run
        StoreFaults.none ⟨Plasma.empty, ∅, ⟨[], some 0⟩⟩ =
          .error (.objectsNotFound (.v4 ⟨[10, 0, 0, 2], rfl⟩ 2021) [ObjectId.ofBytes []]) n' ∧
        n'.sink.sent = [] := by
  refine ⟨⟨_, rfl, rfl, fun k => ?_⟩, _, rfl, rfl⟩
  cases k
  · decide
  · simp only [List.take_succ_cons, List.take_nil, List.map_cons, List.map_nil, List.flatten_cons,
      List.flatten_nil, List.append_nil]
    decide

end PlasmaStream
