import PlasmaStream.Wire
import PlasmaStream.Coordination
import PlasmaStream.Plasma

/-!
# The object receiver

`receiver.rs`: `prepare` reserves the ids in `receiving` and checks the local store has none of
them; `run` reads the peer's status byte and then one object after the other, each a `u64`
header (metadata size in the low 16 bits, data size above), the metadata and the data, created
and sealed in the local store. On a failure at object `i` it deletes `object_ids[..=i]`,
ignoring the result, and returns the error.

A run is an `EStateM` over the store and the bytes the socket still delivers: a failed call
leaves its changes to the store in place, as the daemon does.
-/

namespace PlasmaStream

/-- A receiving server as a receive sees it: its store and what its socket still delivers. -/
structure Node where
  store : Plasma
  socket : Bytes

abbrev Recv := EStateM ObjectReceiveError Node

/-- A read of the socket, failing as a `ConnectionError` of `peer`. -/
def readSocket {α : Type} (peer : SocketAddr) (read : Bytes → Option (α × Bytes)) : Recv α :=
  fun n =>
    match read n.socket with
    | some (a, rest) => .ok a { n with socket := rest }
    | none => .error (.connectionError (some peer) .unexpectedEof) n

/-- A store call, failing as a `StoreError` of `peer`. -/
def storeCall (peer : SocketAddr) (call : Plasma → Except PlasmaError Plasma) : Recv Unit :=
  fun n =>
    match call n.store with
    | .ok s => .ok () { n with store := s }
    | .error e => .error (.storeError peer e) n

/-- `read_object_header`: `(header as u16, header >> 16)`. -/
def readObjectHeader (fromPeer : SocketAddr) : Recv (Nat × Nat) := do
  let header ← readSocket fromPeer readU64Le
  return (header % 2 ^ 16, header >>> 16)

/-- `receive_object`. -/
def receiveObject (faults : StoreFaults) (oid : ObjectId) (fromPeer : SocketAddr) : Recv Unit := do
  let (metaSize, dataSize) ← readObjectHeader fromPeer
  if dataSize = 0 then throw (.zeroLengthObjectData fromPeer oid)
  else if dataSize > maxDataSize then throw (.objectDataTooLarge fromPeer oid dataSize)
  else if metaSize > maxMetaSize then throw (.objectMetaTooLarge fromPeer oid metaSize)
  else do
    let metaBuf ← readSocket fromPeer (readExact metaSize)
    storeCall fromPeer (·.create oid dataSize metaBuf (faults.create oid))
    let data ← readSocket fromPeer (readExact dataSize)
    modify fun n => { n with store := n.store.writeData oid data }
    storeCall fromPeer (·.seal oid (faults.seal oid))

/-- The loop of `run` from object `i` on, `received` being `object_ids[..i]`. -/
def receiveObjects (faults : StoreFaults) (peerAddress : SocketAddr) :
    List ObjectId → List ObjectId → Recv Unit
  | _, [] => pure ()
  | received, oid :: rest => fun n =>
    match receiveObject faults oid peerAddress n with
    | .ok () n' => receiveObjects faults peerAddress (received ++ [oid]) rest n'
    | .error err n' =>
      .error err { n' with store := (n'.store.deleteMany faults (received ++ [oid])).2 }

namespace ObjectReceiver

/-- `prepare`, over the `receiving` set; of the store it calls only `contains_many`, which reads.
The ids stay reserved when the store check fails: only the drop removes them. -/
def prepare (r : ObjectReceiver) (faults : StoreFaults) (store : Plasma) :
    EStateM ObjectReceiveError (Finset ObjectId) Unit := fun receiving =>
  match r.addToReceiving receiving with
  | .error e => .error e receiving
  | .ok receiving' =>
    match store.containsMany faults r.objectIds with
    | .error err => .error (.storeError r.peerAddr err) receiving'
    | .ok inStore =>
      if inStore.isEmpty then .ok () receiving'
      else .error (.alreadyInStore r.peerAddr inStore) receiving'

/-- `run`, reading from a peer at `peerAddress`. -/
def run (r : ObjectReceiver) (faults : StoreFaults) (peerAddress : SocketAddr) : Recv Unit := do
  let status ← readSocket peerAddress readU8
  if status ≠ StatusCodes.begin then throw (.peerError peerAddress status)
  else receiveObjects faults peerAddress [] r.objectIds

end ObjectReceiver

/-! ## One step at a time

What each step of a receive can do, said once: the runs below are proved from these lemmas and
never unfold the steps again. -/

section Steps

variable {peer : SocketAddr} {n n' : Node}

theorem readSocket_eq_ok {α : Type} {read : Bytes → Option (α × Bytes)} {a : α} :
    readSocket peer read n = .ok a n' ↔
      ∃ rest, read n.socket = some (a, rest) ∧ n' = { n with socket := rest } := by
  unfold readSocket
  cases read n.socket with
  | none => simp
  | some r => cases r; simp [and_assoc, eq_comm]

theorem readSocket_eq_error {α : Type} {read : Bytes → Option (α × Bytes)} {e : ObjectReceiveError}
    (h : readSocket peer read n = .error e n') : n' = n := by
  unfold readSocket at h
  split at h <;> cases h; rfl

theorem storeCall_eq_ok {call : Plasma → Except PlasmaError Plasma} :
    storeCall peer call n = .ok () n' ↔ ∃ s, call n.store = .ok s ∧ n' = { n with store := s } := by
  unfold storeCall
  split <;> simp_all [eq_comm]

theorem storeCall_eq_error {call : Plasma → Except PlasmaError Plasma} {e : ObjectReceiveError}
    (h : storeCall peer call n = .error e n') : n' = n := by
  unfold storeCall at h
  split at h <;> cases h; rfl

theorem readObjectHeader_eq_ok {sizes : Nat × Nat} :
    readObjectHeader peer n = .ok sizes n' ↔
      ∃ header rest, readU64Le n.socket = some (header, rest) ∧
      sizes = (header % 2 ^ 16, header >>> 16) ∧ n' = { n with socket := rest } := by
  constructor
  · intro h
    obtain ⟨header, n₁, h₁, h⟩ := bind_apply_eq_ok h
    obtain ⟨rest, hr, rfl⟩ := readSocket_eq_ok.1 h₁
    cases h
    exact ⟨header, rest, hr, rfl, rfl⟩
  · rintro ⟨header, rest, hr, rfl, rfl⟩
    rw [readObjectHeader, bind_apply_of_ok (readSocket_eq_ok.2 ⟨rest, hr, rfl⟩)]
    rfl

theorem readObjectHeader_eq_error {e : ObjectReceiveError}
    (h : readObjectHeader peer n = .error e n') : n' = n := by
  rcases bind_apply_eq_error h with h | ⟨_, _, _, h⟩
  · exact readSocket_eq_error h
  · cases h

theorem receiveObject_eq_ok {faults : StoreFaults} {oid : ObjectId}
    (h : receiveObject faults oid peer n = .ok () n') :
    ∃ header metaBuf data, 0 < header >>> 16 ∧ header >>> 16 ≤ maxDataSize ∧ header < 2 ^ 64 ∧
      metaBuf.length = header % 2 ^ 16 ∧ data.length = header >>> 16 ∧
      n.socket = toLeBytes 8 header ++ metaBuf ++ data ++ n'.socket ∧
      n.store.objects oid = none ∧ faults.create oid = false ∧ faults.seal oid = false ∧
      n'.store = n.store.put oid (some ⟨metaBuf, data, true, false⟩) := by
  obtain ⟨⟨m, d⟩, n₁, h₁, h⟩ := bind_apply_eq_ok h
  obtain ⟨header, rest, hread, hsizes, rfl⟩ := readObjectHeader_eq_ok.1 h₁
  obtain ⟨rfl, rfl⟩ := Prod.mk.inj hsizes
  obtain ⟨hlt, hsock⟩ := eq_of_readLe hread
  obtain ⟨h0, h⟩ := ite_throw_apply_eq_ok h
  obtain ⟨hd, h⟩ := ite_throw_apply_eq_ok h
  obtain ⟨-, h⟩ := ite_throw_apply_eq_ok h
  obtain ⟨metaBuf, n₂, h₂, h⟩ := bind_apply_eq_ok h
  obtain ⟨rest₂, hmeta, rfl⟩ := readSocket_eq_ok.1 h₂
  obtain ⟨_, n₃, h₃, h⟩ := bind_apply_eq_ok h
  obtain ⟨s₃, hcreate, rfl⟩ := storeCall_eq_ok.1 h₃
  obtain ⟨hfree, hfc, rfl⟩ := Plasma.create_eq_ok.1 hcreate
  obtain ⟨data, n₄, h₄, h⟩ := bind_apply_eq_ok h
  obtain ⟨rest₄, hdata, rfl⟩ := readSocket_eq_ok.1 h₄
  obtain ⟨_, n₅, h₅, h⟩ := bind_apply_eq_ok h
  cases h₅
  obtain ⟨s₆, hseal, rfl⟩ := storeCall_eq_ok.1 h
  dsimp only at hfree hmeta hdata hseal ⊢
  rw [Plasma.writeData_put, Plasma.seal_put_unsealed rfl] at hseal
  obtain ⟨hfs, rfl⟩ := hseal
  obtain ⟨hml, rfl⟩ := readExact_eq_some.1 hmeta
  obtain ⟨hdl, rfl⟩ := readExact_eq_some.1 hdata
  refine ⟨header, metaBuf, data, Nat.pos_of_ne_zero h0, not_lt.1 hd, hlt, hml, hdl, ?_, hfree,
    hfc, hfs, by simp⟩
  simp [hsock]

theorem receiveObject_eq_error {faults : StoreFaults} {oid : ObjectId} {e : ObjectReceiveError}
    (h : receiveObject faults oid peer n = .error e n') :
    n'.store = n.store ∨ ∃ metaBuf data, n.store.objects oid = none ∧
      n'.store = n.store.put oid (some ⟨metaBuf, data, false, false⟩) := by
  rcases bind_apply_eq_error h with h | ⟨⟨m, d⟩, n₁, h₁, h⟩
  · exact .inl (by rw [readObjectHeader_eq_error h])
  obtain ⟨header, rest, -, -, rfl⟩ := readObjectHeader_eq_ok.1 h₁
  rcases ite_throw_apply_eq_error h with rfl | ⟨-, h⟩
  · exact .inl rfl
  rcases ite_throw_apply_eq_error h with rfl | ⟨-, h⟩
  · exact .inl rfl
  rcases ite_throw_apply_eq_error h with rfl | ⟨-, h⟩
  · exact .inl rfl
  rcases bind_apply_eq_error h with h | ⟨metaBuf, n₂, h₂, h⟩
  · exact .inl (by rw [readSocket_eq_error h])
  obtain ⟨rest₂, -, rfl⟩ := readSocket_eq_ok.1 h₂
  rcases bind_apply_eq_error h with h | ⟨_, n₃, h₃, h⟩
  · exact .inl (by rw [storeCall_eq_error h])
  obtain ⟨s₃, hcreate, rfl⟩ := storeCall_eq_ok.1 h₃
  obtain ⟨hfree, -, rfl⟩ := Plasma.create_eq_ok.1 hcreate
  rcases bind_apply_eq_error h with h | ⟨data, n₄, h₄, h⟩
  · exact .inr ⟨metaBuf, _, hfree, by rw [readSocket_eq_error h]⟩
  obtain ⟨rest₄, -, rfl⟩ := readSocket_eq_ok.1 h₄
  rcases bind_apply_eq_error h with h | ⟨_, n₅, h₅, h⟩
  · cases h
  cases h₅
  exact .inr ⟨metaBuf, data, hfree, by rw [storeCall_eq_error h]; simp⟩

/-- A failed `receive_object` changes at most the object under its own id, and leaves that
one unsealed. -/
theorem receiveObject_error_objects {faults : StoreFaults} {oid : ObjectId}
    {e : ObjectReceiveError} (h : receiveObject faults oid peer n = .error e n') (x : ObjectId) :
    n'.store.objects x = n.store.objects x ∨ x = oid ∧ n'.store.contains x = false := by
  rcases receiveObject_eq_error h with hs | ⟨_, _, _, hs⟩
  · exact .inl (by rw [hs])
  · by_cases hx : x = oid
    · exact .inr ⟨hx, by simp [Plasma.contains, hs, hx]⟩
    · exact .inl (by simp [hs, hx])

theorem receiveObject_of_sizes {faults : StoreFaults} {oid : ObjectId} {store : Plasma}
    {header : Nat} {metaBuf data : Bytes} (rest : Bytes) (hh : header < 2 ^ 64)
    (hm : header % 2 ^ 16 = metaBuf.length) (hd : header >>> 16 = data.length)
    (hd0 : 0 < data.length) (hdmax : data.length ≤ maxDataSize) (hfree : store.objects oid = none)
    (hc : faults.create oid = false) (hs : faults.seal oid = false) :
    receiveObject faults oid peer ⟨store, toLeBytes 8 header ++ metaBuf ++ data ++ rest⟩ =
      .ok () ⟨store.put oid (some ⟨metaBuf, data, true, false⟩), rest⟩ := by
  have h₁ : readObjectHeader peer ⟨store, toLeBytes 8 header ++ metaBuf ++ data ++ rest⟩ =
      .ok (header % 2 ^ 16, header >>> 16) ⟨store, metaBuf ++ (data ++ rest)⟩ :=
    readObjectHeader_eq_ok.2 ⟨header, _, by
      rw [List.append_assoc, List.append_assoc]
      exact readLe_toLeBytes _ (show header < 256 ^ 8 from hh), rfl, rfl⟩
  have hmeta : metaBuf.length ≤ maxMetaSize := by
    rw [← hm]; exact (Nat.mod_lt _ (Nat.two_pow_pos 16)).le
  rw [receiveObject, bind_apply_of_ok h₁]
  simp only [hm, hd, if_neg (Nat.pos_iff_ne_zero.1 hd0), if_neg (not_lt.2 hdmax),
    if_neg (not_lt.2 hmeta)]
  rw [bind_apply_of_ok (readSocket_eq_ok.2 ⟨_, readExact_append _ rfl, rfl⟩),
    bind_apply_of_ok (storeCall_eq_ok.2 ⟨_, Plasma.create_eq_ok.2 ⟨hfree, hc, rfl⟩, rfl⟩),
    bind_apply_of_ok (readSocket_eq_ok.2 ⟨_, readExact_append _ rfl, rfl⟩), modify_bind_apply]
  exact storeCall_eq_ok.2 ⟨_, by simpa using (Plasma.seal_put_unsealed rfl).2 ⟨hs, rfl⟩, by simp⟩

end Steps
/-! ## The receive loop -/

section Loop

variable {faults : StoreFaults} {peer : SocketAddr} {n n' : Node} {oid : ObjectId}
  {received rest : List ObjectId} {rest' : Bytes}

theorem receiveObjects_cons_of_ok (h : receiveObject faults oid peer n = .ok () n') :
    receiveObjects faults peer received (oid :: rest) n =
      receiveObjects faults peer (received ++ [oid]) rest n' := by
  simp only [receiveObjects, h]

theorem receiveObjects_cons_of_error {e : ObjectReceiveError}
    (h : receiveObject faults oid peer n = .error e n') :
    receiveObjects faults peer received (oid :: rest) n =
      .error e { n' with store := (n'.store.deleteMany faults (received ++ [oid])).2 } := by
  simp only [receiveObjects, h]

/-- A receive that succeeds only creates objects under free ids: every object already there
stays as it was. -/
theorem receiveObjects_keeps {x : ObjectId} {o : PlasmaObject} :
    ∀ {received ids : List ObjectId} {n n' : Node},
      receiveObjects faults peer received ids n = .ok () n' → n.store.objects x = some o →
        n'.store.objects x = some o
  | _, [], _, _, h, hx => by cases h; exact hx
  | _, oid :: ids, n, _, h, hx => by
    cases h₁ : receiveObject faults oid peer n with
    | error e n₁ => rw [receiveObjects_cons_of_error h₁] at h; cases h
    | ok _ n₁ =>
      rw [receiveObjects_cons_of_ok h₁] at h
      obtain ⟨_, _, _, -, -, -, -, -, -, hfree, -, -, hstore⟩ := receiveObject_eq_ok h₁
      have hxo : x ≠ oid := by rintro rfl; simp [hfree] at hx
      exact receiveObjects_keeps h (by simp [hstore, hxo, hx])

namespace ObjectReceiver

variable {r : ObjectReceiver}

theorem run_of_begin (h : n.socket = StatusCodes.begin :: rest') :
    r.run faults peer n = receiveObjects faults peer [] r.objectIds { n with socket := rest' } := by
  rw [run, bind_apply_of_ok (readSocket_eq_ok.2 ⟨rest', by rw [h]; rfl, rfl⟩)]
  simp

theorem run_eq_error {e : ObjectReceiveError} (h : r.run faults peer n = .error e n') :
    n'.store = n.store ∨ ∃ rest', n.socket = StatusCodes.begin :: rest' ∧
      receiveObjects faults peer [] r.objectIds { n with socket := rest' } = .error e n' := by
  rcases bind_apply_eq_error h with h | ⟨status, n₁, h₁, h⟩
  · exact .inl (by rw [readSocket_eq_error h])
  obtain ⟨rest', hs, rfl⟩ := readSocket_eq_ok.1 h₁
  rcases ite_throw_apply_eq_error h with rfl | ⟨hb, h⟩
  · exact .inl rfl
  · exact .inr ⟨rest', by rw [readU8_eq_some.1 hs, not_not.1 hb], h⟩

theorem run_eq_ok (h : r.run faults peer n = .ok () n') :
    ∃ rest', n.socket = StatusCodes.begin :: rest' ∧
      receiveObjects faults peer [] r.objectIds { n with socket := rest' } = .ok () n' := by
  obtain ⟨status, n₁, h₁, h⟩ := bind_apply_eq_ok h
  obtain ⟨rest', hs, rfl⟩ := readSocket_eq_ok.1 h₁
  obtain ⟨hb, h⟩ := ite_throw_apply_eq_ok h
  exact ⟨rest', by rw [readU8_eq_some.1 hs, not_not.1 hb], h⟩

/-- `prepare` passes when none of the ids is being received and the store answers that it holds
none of them; the ids are then in `receiving`. -/
theorem prepare_of_free {store : Plasma} {receiving : Finset ObjectId}
    (hfree : ∀ x ∈ r.objectIds, x ∉ receiving)
    (hstore : store.containsMany faults r.objectIds = .ok []) :
    r.prepare faults store receiving = .ok () (receiving ∪ r.objectIds.toFinset) := by
  have hres : r.addToReceiving receiving = .ok (receiving ∪ r.objectIds.toFinset) :=
    addToReceiving_eq_ok.2 (reserve_eq_ok.2 ⟨hfree, rfl⟩)
  simp [prepare, hres, hstore]

/-- The drop of a receiver gives back the `receiving` set `prepare` found, however `prepare`
ended: what it added, the drop removes. -/
theorem drop_prepare (faults : StoreFaults) (store : Plasma) (receiving : Finset ObjectId) :
    r.drop (outcome (r.prepare faults store receiving)).2 = r.drop receiving := by
  unfold prepare
  split
  · rfl
  · next receiving' h =>
    have hr : receiving' = receiving ∪ r.objectIds.toFinset :=
      (reserve_eq_ok.1 (addToReceiving_eq_ok.1 h)).2
    subst hr
    split
    · exact release_reserved receiving r.objectIds true
    · split_ifs <;> exact release_reserved receiving r.objectIds true

end ObjectReceiver

end Loop

/-! ## Where a `PeerError` comes from

Only `run`'s check of the status byte raises `PeerError`; every error of the object loop is of
another kind. -/

section PeerError

variable {faults : StoreFaults} {peer : SocketAddr}

/-- The error is not a `PeerError`. -/
def NotPeerError (e : ObjectReceiveError) : Prop := ∀ peer code, e ≠ .peerError peer code

theorem readSocket_notPeerError {α : Type} {read : Bytes → Option (α × Bytes)} :
    ErrorsIn NotPeerError (readSocket peer read) := fun n _ _ h => by
  unfold readSocket at h
  split at h <;> cases h
  exact fun _ _ => nofun

theorem storeCall_notPeerError {call : Plasma → Except PlasmaError Plasma} :
    ErrorsIn NotPeerError (storeCall peer call) := fun n _ _ h => by
  unfold storeCall at h
  split at h <;> cases h
  exact fun _ _ => nofun

theorem receiveObject_notPeerError {oid : ObjectId} :
    ErrorsIn NotPeerError (receiveObject faults oid peer) := by
  unfold receiveObject readObjectHeader
  exact ErrorsIn.bind (ErrorsIn.bind readSocket_notPeerError fun _ => ErrorsIn.pure _) fun _ =>
    ErrorsIn.ite (ErrorsIn.throw fun _ _ => nofun) <| ErrorsIn.ite (ErrorsIn.throw fun _ _ => nofun) <|
      ErrorsIn.ite (ErrorsIn.throw fun _ _ => nofun) <|
        ErrorsIn.bind readSocket_notPeerError fun _ => ErrorsIn.bind storeCall_notPeerError fun _ =>
          ErrorsIn.bind readSocket_notPeerError fun _ =>
            ErrorsIn.bind (ErrorsIn.modify _) fun _ => storeCall_notPeerError

theorem receiveObjects_notPeerError :
    ∀ (received objectIds : List ObjectId),
      ErrorsIn NotPeerError (receiveObjects faults peer received objectIds)
  | _, [] => ErrorsIn.pure _
  | received, oid :: rest => fun n e n' h => by
    cases h₁ : receiveObject faults oid peer n with
    | ok _ n₁ =>
      rw [receiveObjects_cons_of_ok h₁] at h
      exact receiveObjects_notPeerError _ rest _ _ _ h
    | error e₁ n₁ =>
      rw [receiveObjects_cons_of_error h₁] at h
      cases h
      exact receiveObject_notPeerError _ _ _ h₁

theorem ObjectReceiver.prepare_notPeerError {r : ObjectReceiver} {store : Plasma} :
    ErrorsIn NotPeerError (r.prepare faults store) := fun receiving _ _ h => by
  unfold ObjectReceiver.prepare at h
  split at h
  · next e he =>
    cases h
    cases hr : reserve receiving r.objectIds true <;>
      simp only [ObjectReceiver.addToReceiving, hr, Except.mapError, reduceCtorEq,
        Except.error.injEq] at he
    subst he
    exact fun _ _ => nofun
  · split at h
    · cases h
      exact fun _ _ => nofun
    · split_ifs at h
      cases h
      exact fun _ _ => nofun

/-- A receive fails with `PeerError` only when the peer's first byte is not `BEGIN`, and then
with that byte. -/
theorem ObjectReceiver.run_peerError {r : ObjectReceiver} {n n' : Node} {peer' : SocketAddr}
    {code : UInt8} (h : r.run faults peer n = .error (.peerError peer' code) n') :
    ∃ rest, n.socket = code :: rest ∧ code ≠ StatusCodes.begin := by
  rcases bind_apply_eq_error h with h | ⟨status, n₁, h₁, h⟩
  · exact absurd rfl (readSocket_notPeerError _ _ _ h peer' code)
  obtain ⟨rest, hs, rfl⟩ := readSocket_eq_ok.1 h₁
  by_cases hb : status = StatusCodes.begin
  · rw [if_neg (not_not.2 hb)] at h
    exact absurd rfl (receiveObjects_notPeerError _ _ _ _ _ h peer' code)
  · rw [if_pos hb] at h
    cases h
    exact ⟨rest, readU8_eq_some.1 hs, hb⟩

end PeerError

end PlasmaStream
