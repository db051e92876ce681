import PlasmaStream.Receiver
import PlasmaStream.Sender

/-!
# Moving objects between two servers

A COPY or TAKE of `object_ids` from a peer: the receiving server's `process_peer_request` has
prepared its receiver and sent the request; the sending server's `Handler::run` builds a sender
for it and runs it; the receiver then reads what of the sender's bytes reach it.

* `receiveObject_of_prefix`: the receiver's decoding of the sender's header agrees with the
  sender's packing on every object whose metadata is shorter than 2^16 bytes, on any prefix of
  the stream.
* `receiveObjects_of_prefix`, `receiveObjects_encoded`: a receive that succeeds on a prefix of
  the sender's stream stored exactly the sent objects; a complete stream of objects with data
  is received whole.
-/

namespace PlasmaStream

/-! ## One object -/

section Objects

variable {faults : StoreFaults} {peer : SocketAddr} {n n' : Node} {oid : ObjectId}

/-- A receive that succeeds on a prefix of `send_object`'s bytes read exactly that object. -/
theorem receiveObject_of_prefix {ob : ObjectBuffer} {rest : Bytes}
    (h : receiveObject faults oid peer n = .ok () n') (hp : n.socket <+: encodeObject ob ++ rest)
    (hm : ob.metadata.length < 2 ^ 16) (hd : ob.data.length ≤ maxDataSize) :
    n.store.objects oid = none ∧
      n'.store = n.store.put oid (some ⟨ob.metadata, ob.data, true, false⟩) ∧
      n'.socket <+: rest := by
  obtain ⟨header, metaBuf, data, -, -, hh, hml, hdl, hsock, hfree, -, -, hstore⟩ :=
    receiveObject_eq_ok h
  obtain ⟨hmod, hshift, hlt⟩ := objectHeader_mod hm hd
  obtain ⟨t, ht⟩ := hp
  rw [hsock, encodeObject] at ht
  simp only [List.append_assoc] at ht
  obtain ⟨hhead, ht₁⟩ := List.append_inj ht (by simp)
  have hH : header = objectHeader ob.metadata.length ob.data.length := by
    have := congrArg ofLeBytes hhead
    rwa [ofLeBytes_toLeBytes, ofLeBytes_toLeBytes, Nat.mod_eq_of_lt (show header < 256 ^ 8 from hh),
      Nat.mod_eq_of_lt (show _ < 256 ^ 8 from hlt)] at this
  subst hH
  obtain ⟨rfl, ht₂⟩ := List.append_inj ht₁ (by rw [hml, hmod])
  obtain ⟨rfl, ht₃⟩ := List.append_inj ht₂ (by rw [hdl, hshift])
  exact ⟨hfree, hstore, t, ht₃⟩

end Objects

/-! ## A stream of objects -/

section Stream

variable {faults : StoreFaults} {peer : SocketAddr} {rest : Bytes}

/-- What fits the header: metadata shorter than 2^16 bytes, data of at most `MAX_DATA_SIZE`. -/
def ObjectBuffer.Fits (ob : ObjectBuffer) : Prop :=
  ob.metadata.length < 2 ^ 16 ∧ ob.data.length ≤ maxDataSize

/-- A receive that succeeds on a prefix of the sender's objects stored each of them, sealed. -/
theorem receiveObjects_of_prefix :
    ∀ {objs : List ObjectBuffer} {received : List ObjectId} {n n' : Node},
      receiveObjects faults peer received (objs.map ObjectBuffer.id) n = .ok () n' →
      n.socket <+: (objs.map encodeObject).flatten ++ rest → (∀ ob ∈ objs, ob.Fits) →
      ∀ ob ∈ objs, n'.store.objects ob.id = some ⟨ob.metadata, ob.data, true, false⟩
  | [], _, _, _, _, _, _ => by simp
  | ob :: objs, received, n, n', h, hp, hfits => by
    cases h₁ : receiveObject faults ob.id peer n with
    | error e n₁ => rw [List.map_cons, receiveObjects_cons_of_error h₁] at h; cases h
    | ok _ n₁ =>
      rw [List.map_cons, receiveObjects_cons_of_ok h₁] at h
      have hob := hfits ob (List.mem_cons_self _ _)
      obtain ⟨-, hstore, hrest⟩ :=
        receiveObject_of_prefix h₁ (by simpa [List.append_assoc] using hp) hob.1 hob.2
      intro ob' hob'
      rcases List.mem_cons.1 hob' with rfl | hob'
      · exact receiveObjects_keeps h (by simp [hstore])
      · exact receiveObjects_of_prefix h hrest (fun o ho => hfits o (List.mem_cons_of_mem _ ho))
          ob' hob'

/-- A complete stream of objects with data, under distinct ids the store does not hold, is
received whole. -/
theorem receiveObjects_encoded :
    ∀ {objs : List ObjectBuffer} {received : List ObjectId} {store : Plasma},
      (objs.map ObjectBuffer.id).Nodup → (∀ ob ∈ objs, ob.Fits ∧ 0 < ob.data.length) →
      (∀ ob ∈ objs, store.objects ob.id = none) →
      ∃ n', receiveObjects StoreFaults.none peer received (objs.map ObjectBuffer.id)
        ⟨store, (objs.map encodeObject).flatten ++ rest⟩ = .ok () n'
  | [], _, _, _, _, _ => ⟨_, rfl⟩
  | ob :: objs, received, store, hnodup, hfits, hfree => by
    obtain ⟨⟨hm, hd⟩, hd0⟩ := hfits ob (List.mem_cons_self _ _)
    obtain ⟨hmod, hshift, hlt⟩ := objectHeader_mod hm hd
    have h₁ : receiveObject StoreFaults.none ob.id peer
        ⟨store, encodeObject ob ++ ((objs.map encodeObject).flatten ++ rest)⟩ =
          .ok () ⟨store.put ob.id (some ⟨ob.metadata, ob.data, true, false⟩),
            (objs.map encodeObject).flatten ++ rest⟩ :=
      receiveObject_of_sizes _ hlt hmod hshift hd0 hd (hfree ob (List.mem_cons_self _ _)) rfl rfl
    simp only [List.nodup_cons, List.map_cons] at hnodup
    rw [List.map_cons, List.map_cons, List.flatten_cons, List.append_assoc,
      receiveObjects_cons_of_ok h₁]
    refine receiveObjects_encoded hnodup.2 (fun o ho => hfits o (List.mem_cons_of_mem _ ho)) ?_
    intro o ho
    have hne : o.id ≠ ob.id := fun he => hnodup.1 (he ▸ List.mem_map_of_mem _ ho)
    simp [hne, hfree o (List.mem_cons_of_mem _ ho)]

end Stream

/-! ## A transfer -/

/-- A server as a transfer sees it: its address, its store, and which of its store's calls fail. -/
structure Peer where
  address : SocketAddr
  store : Plasma
  faults : StoreFaults

/-- Where the connection fails: after how many bytes in all the sender's writes fail, and after
how many of the bytes written the receiver's reads do; `none` for never. -/
structure Connection where
  sendBreaksAt : Option Nat
  receiveBreaksAt : Option Nat

/-- The bytes of `sent` that reach the receiver. -/
def Connection.delivered (c : Connection) (sent : Bytes) : Bytes :=
  match c.receiveBreaksAt with
  | none => sent
  | some k => sent.take k

theorem Connection.delivered_prefix (c : Connection) (sent : Bytes) :
    c.delivered sent <+: sent := by
  unfold delivered
  split
  · exact List.prefix_refl _
  · exact List.take_prefix _ _

/-- Both servers after a transfer: what each run returned, the bytes the sender wrote, and each
store. -/
structure Outcome where
  sendResult : Except ObjectSendError Unit
  sent : Bytes
  source : Plasma
  receiveResult : Except ObjectReceiveError Unit
  destination : Plasma

/-- A COPY (`deleteAfterSend = false`) or TAKE (`true`) of `objectIds` from `source` to
`destination`, from the moment the request reached the source: the source's handler runs the
sender it builds for the request, and the destination's receiver, already prepared, runs on
what of the sender's bytes reach it. -/
def transfer (objectIds : List ObjectId) (deleteAfterSend : Bool) (source : Peer)
    (deleting : Finset ObjectId) (destination : Peer) (c : Connection) : Outcome :=
  match outcome ((ObjectSender.mk destination.address objectIds deleteAfterSend).run source.faults
      ⟨source.store, deleting, ⟨[], c.sendBreaksAt⟩⟩) with
  | (sendResult, src) =>
    match outcome ((ObjectReceiver.mk source.address objectIds).run destination.faults source.address
        ⟨destination.store, c.delivered src.sink.sent⟩) with
    | (receiveResult, dst) => ⟨sendResult, src.sink.sent, src.store, receiveResult, dst.store⟩

/-- The object `o` that was stored under `x` is in one of the two stores: still in the source,
or in the destination with the same metadata and data. -/
def Outcome.Keeps (out : Outcome) (x : ObjectId) (o : PlasmaObject) : Prop :=
  out.source.objects x = some o ∨ out.destination.objects x = some ⟨o.metadata, o.data, true, false⟩

instance (out : Outcome) (x : ObjectId) (o : PlasmaObject) : Decidable (out.Keeps x o) :=
  inferInstanceAs (Decidable (_ ∨ _))

/-! ## What a TAKE keeps -/

/-- The objects a sender got from `store`, when none has metadata of exactly `MAX_META_SIZE` bytes
and `check_object_sizes` admits them, fit the header. -/
theorem fits_of_getObjects {s : ObjectSender} {faults : StoreFaults} {store : Plasma}
    {objects : List ObjectBuffer}
    (hmeta : ∀ y ∈ s.objectIds, ∀ p, store.objects y = some p → p.metadata.length ≠ maxMetaSize)
    (hg : s.getObjects faults store = .ok objects) (hc : s.checkObjectSizes objects = .ok ()) :
    ∀ ob ∈ objects, ob.Fits := by
  intro ob hob
  obtain ⟨-, rfl⟩ := ObjectSender.getObjects_eq_ok hg
  obtain ⟨y, hy, hb⟩ := List.mem_filterMap.1 hob
  obtain ⟨p, hp, -, rfl⟩ := Plasma.buffer_eq_some hb
  have hsize := ObjectSender.checkObjectSizes_eq_ok.1 hc _ hob
  exact ⟨lt_of_le_of_ne hsize.1 (hmeta y hy p hp), hsize.2⟩

theorem take_keeps_unless_sender_ok (objectIds : List ObjectId) (source : Peer)
    (deleting : Finset ObjectId) (destination : Peer) (c : Connection) {x : ObjectId}
    {o : PlasmaObject}
    (hmeta : ∀ y ∈ objectIds, ∀ p, source.store.objects y = some p →
      p.metadata.length ≠ maxMetaSize)
    (hx : x ∈ objectIds) (ho : source.store.objects x = some o) :
    (transfer objectIds true source deleting destination c).Keeps x o ∨
      ((transfer objectIds true source deleting destination c).sendResult = .ok () ∧
        (∃ e, (transfer objectIds true source deleting destination c).receiveResult = .error e) ∧
        (transfer objectIds true source deleting destination c).sent =
          StatusCodes.begin :: ((objectIds.filterMap source.store.buffer).map encodeObject).flatten) := by
  cases hs : (ObjectSender.mk destination.address objectIds true).run source.faults
      ⟨source.store, deleting, ⟨[], c.sendBreaksAt⟩⟩ with
  | error e n' =>
    refine .inl (.inl ?_)
    simp only [transfer, hs, outcome_error]
    rw [ObjectSender.run_eq_error hs]
    exact ho
  | ok _ n' =>
    obtain ⟨objects, hg, hc, hsent, -⟩ := ObjectSender.sendObjects_eq_ok (ObjectSender.run_eq_ok hs)
    have hfits := fits_of_getObjects hmeta hg hc
    obtain ⟨hall, rfl⟩ := ObjectSender.getObjects_eq_ok hg
    dsimp only at hsent hall hfits
    rw [List.nil_append] at hsent
    cases hr : (ObjectReceiver.mk source.address objectIds).run destination.faults source.address
        ⟨destination.store, c.delivered n'.sink.sent⟩ with
    | error e n'' =>
      exact .inr ⟨by simp [transfer, hs], ⟨e, by simp [transfer, hs, hr]⟩, by simp [transfer, hs, hsent]⟩
    | ok _ n'' =>
      refine .inl (.inr ?_)
      simp only [transfer, hs, hr, outcome_ok]
      obtain ⟨rest', hsock, hrecv⟩ := ObjectReceiver.run_eq_ok hr
      dsimp only at hsock hrecv
      have hp :
          rest' <+: ((objectIds.filterMap source.store.buffer).map encodeObject).flatten ++ [] := by
        have := c.delivered_prefix n'.sink.sent
        rw [hsock, hsent, List.cons_prefix_cons] at this
        simpa using this.2
      rw [← Plasma.map_id_filterMap_buffer fun y hy => (hall y hy).2] at hrecv
      obtain ⟨ob, hob⟩ := Option.isSome_iff_exists.1 (hall x hx).2
      obtain ⟨p, hp', -, rfl⟩ := Plasma.buffer_eq_some hob
      rw [ho] at hp'
      cases hp'
      exact receiveObjects_of_prefix hrecv hp hfits _ (List.mem_filterMap.2 ⟨x, hx, hob⟩)

/-- The TAKE of one object over a connection that holds, between stores that answer every
call. -/
theorem take_keeps_unless_sender_ok_one :
    let source : Peer := ⟨.v4 ⟨[10, 0, 0, 1], rfl⟩ 2021,
      Plasma.empty.put (ObjectId.ofBytes []) (some ⟨[], [1], true, false⟩), StoreFaults.none⟩
    let out := transfer [ObjectId.ofBytes []] true source ∅
      ⟨.v4 ⟨[10, 0, 0, 2], rfl⟩ 2021, Plasma.empty, StoreFaults.none⟩ ⟨none, none⟩
    (∀ y ∈ [ObjectId.ofBytes []], ∀ p, source.store.objects y = some p →
        p.metadata.length ≠ maxMetaSize) ∧
      (out.Keeps (ObjectId.ofBytes []) ⟨[], [1], true, false⟩ ∨
        (out.sendResult = .ok () ∧ (∃ e, out.receiveResult = .error e) ∧
          out.sent = StatusCodes.begin ::
            (([ObjectId.ofBytes []].filterMap source.store.buffer).map encodeObject).flatten)) := by
  intro source out
  have hmeta : ∀ y ∈ [ObjectId.ofBytes []], ∀ p, source.store.objects y = some p →
      p.metadata.length ≠ maxMetaSize := by
    intro y hy p hp
    rw [List.mem_singleton.1 hy] at hp
    cases hp
    decide
  exact ⟨hmeta, take_keeps_unless_sender_ok _ _ _ _ _ hmeta (List.mem_singleton_self _) rfl⟩

/-- A TAKE loses the object when the receiving store's `create` fails, and when the connection
breaks after the sender's last write: the sender returns `Ok` and deletes it either way. -/
theorem take_loses_object :
    let source : Peer := ⟨.v4 ⟨[10, 0, 0, 1], rfl⟩ 2021,
      Plasma.empty.put (ObjectId.ofBytes []) (some ⟨[], [1], true, false⟩), StoreFaults.none⟩
    let take := fun (faults : StoreFaults) (c : Connection) => transfer [ObjectId.ofBytes []] true
      source ∅ ⟨.v4 ⟨[10, 0, 0, 2], rfl⟩ 2021, Plasma.empty, faults⟩ c
    (take { StoreFaults.none with create := fun _ => true } ⟨none, none⟩).sendResult = .ok () ∧
      ¬(take { StoreFaults.none with create := fun _ => true } ⟨none, none⟩).Keeps
        (ObjectId.ofBytes []) ⟨[], [1], true, false⟩ ∧
      (take StoreFaults.none ⟨none, some 5⟩).sendResult = .ok () ∧
      ¬(take StoreFaults.none ⟨none, some 5⟩).Keeps (ObjectId.ofBytes []) ⟨[], [1], true, false⟩ :=
  ⟨rfl, by decide, rfl, by decide⟩

/-! ## What a transfer delivers -/

theorem transfer_delivers (objectIds : List ObjectId) (deleteAfterSend : Bool) (a b : SocketAddr)
    (src dst : Plasma) (deleting : Finset ObjectId) (hnodup : objectIds.Nodup)
    (hsrc : ∀ x ∈ objectIds, ∃ o, src.objects x = some o ∧ o.sealed = true ∧
      o.metadata.length < 2 ^ 16 ∧ 0 < o.data.length ∧ o.data.length ≤ maxDataSize)
    (hdel : ∀ x ∈ objectIds, x ∉ deleting) (hdst : ∀ x ∈ objectIds, dst.objects x = none) :
    (transfer objectIds deleteAfterSend ⟨a, src, StoreFaults.none⟩ deleting ⟨b, dst, StoreFaults.none⟩
        ⟨none, none⟩).sendResult = .ok () ∧
      (transfer objectIds deleteAfterSend ⟨a, src, StoreFaults.none⟩ deleting
        ⟨b, dst, StoreFaults.none⟩ ⟨none, none⟩).receiveResult = .ok () ∧
      ∀ x ∈ objectIds, ∀ o, src.objects x = some o →
        (transfer objectIds deleteAfterSend ⟨a, src, StoreFaults.none⟩ deleting
          ⟨b, dst, StoreFaults.none⟩ ⟨none, none⟩).destination.objects x =
            some ⟨o.metadata, o.data, true, false⟩ := by
  have hbuf : ∀ x ∈ objectIds, StoreFaults.none.get x = false ∧ (src.buffer x).isSome := by
    intro x hx
    obtain ⟨o, ho, hs, -⟩ := hsrc x hx
    exact ⟨rfl, by simp [Plasma.buffer_of_sealed ho hs]⟩
  have hobs : ∀ ob ∈ objectIds.filterMap src.buffer, ob.Fits ∧ 0 < ob.data.length := by
    intro ob hob
    obtain ⟨y, hy, hb⟩ := List.mem_filterMap.1 hob
    obtain ⟨p, hp, -, rfl⟩ := Plasma.buffer_eq_some hb
    obtain ⟨o, ho, -, hm, hd0, hd⟩ := hsrc y hy
    rw [hp] at ho
    cases ho
    exact ⟨⟨hm, hd⟩, hd0⟩
  have hs : (ObjectSender.mk b objectIds deleteAfterSend).run StoreFaults.none
      ⟨src, deleting, ⟨[], none⟩⟩ = _ := ObjectSender.run_unbroken hdel
    (ObjectSender.getObjects_of_sealed hbuf)
    (ObjectSender.checkObjectSizes_eq_ok.2 fun ob hob => ⟨(hobs ob hob).1.1.le, (hobs ob hob).1.2⟩)
  have hids := Plasma.map_id_filterMap_buffer fun x hx => (hbuf x hx).2
  have hfree : ∀ ob ∈ objectIds.filterMap src.buffer, dst.objects ob.id = none :=
    fun ob hob => hdst ob.id (hids ▸ List.mem_map_of_mem _ hob)
  obtain ⟨n', hr⟩ : ∃ n', receiveObjects StoreFaults.none a [] objectIds
      ⟨dst, ((objectIds.filterMap src.buffer).map encodeObject).flatten ++ []⟩ = .ok () n' := by
    nth_rewrite 1 [← hids]
    exact receiveObjects_encoded (by rwa [hids]) hobs hfree
  rw [List.append_nil] at hr
  simp only [transfer, hs, outcome_ok, Connection.delivered, List.nil_append,
    ObjectReceiver.run_of_begin (n := ⟨dst, _⟩) rfl, hr, true_and]
  intro x hx o ho
  obtain ⟨p, hp, hps, -⟩ := hsrc x hx
  rw [hp] at ho
  cases ho
  have hob := Plasma.buffer_of_sealed hp hps
  nth_rewrite 1 [← hids] at hr
  exact receiveObjects_of_prefix hr (List.prefix_append _ []) (fun ob h => (hobs ob h).1) _
    (List.mem_filterMap.2 ⟨x, hx, hob⟩)

/-- An object with no data: `check_object_sizes` admits it and the sender sends it, but the
receiver refuses it. -/
example :
    let copy := transfer [ObjectId.ofBytes []] false
      ⟨.v4 ⟨[10, 0, 0, 1], rfl⟩ 2021,
        Plasma.empty.put (ObjectId.ofBytes []) (some ⟨[], [], true, false⟩), StoreFaults.none⟩ ∅
      ⟨.v4 ⟨[10, 0, 0, 2], rfl⟩ 2021, Plasma.empty, StoreFaults.none⟩ ⟨none, none⟩
    (ObjectSender.mk (.v4 ⟨[10, 0, 0, 2], rfl⟩ 2021) [ObjectId.ofBytes []] false).checkObjectSizes
        [⟨ObjectId.ofBytes [], [], []⟩] = .ok () ∧
      copy.sendResult = .ok () ∧
      copy.receiveResult =
        .error (.zeroLengthObjectData (.v4 ⟨[10, 0, 0, 1], rfl⟩ 2021) (ObjectId.ofBytes [])) :=
  ⟨rfl, rfl, rfl⟩

/-- Two objects with data, moved by a COPY between empty stores. -/
theorem transfer_delivers_two :
    let src := (Plasma.empty.put (ObjectId.ofBytes []) (some ⟨[7], [1, 2], true, false⟩)).put
      (ObjectId.ofBytes [1]) (some ⟨[], [3], true, false⟩)
    [ObjectId.ofBytes [], ObjectId.ofBytes [1]].Nodup ∧
      (∀ x ∈ [ObjectId.ofBytes [], ObjectId.ofBytes [1]], ∃ o, src.objects x = some o ∧
        o.sealed = true ∧ o.metadata.length < 2 ^ 16 ∧ 0 < o.data.length ∧
        o.data.length ≤ maxDataSize) ∧
      (∀ x ∈ [ObjectId.ofBytes [], ObjectId.ofBytes [1]], x ∉ (∅ : Finset ObjectId)) ∧
      (∀ x ∈ [ObjectId.ofBytes [], ObjectId.ofBytes [1]], Plasma.empty.objects x = none) ∧
      (transfer [ObjectId.ofBytes [], ObjectId.ofBytes [1]] false
          ⟨.v4 ⟨[10, 0, 0, 1], rfl⟩ 2021, src, StoreFaults.none⟩ ∅
          ⟨.v4 ⟨[10, 0, 0, 2], rfl⟩ 2021, Plasma.empty, StoreFaults.none⟩ ⟨none, none⟩).receiveResult =
        .ok () := by
  intro src
  have hnodup : [ObjectId.ofBytes [], ObjectId.ofBytes [1]].Nodup := by decide
  have hsrc : ∀ x ∈ [ObjectId.ofBytes [], ObjectId.ofBytes [1]], ∃ o, src.objects x = some o ∧
      o.sealed = true ∧ o.metadata.length < 2 ^ 16 ∧ 0 < o.data.length ∧
      o.data.length ≤ maxDataSize := by
    intro x hx
    rcases List.mem_pair.1 hx with rfl | rfl
    · exact ⟨_, rfl, rfl, by decide, by decide, by decide⟩
    · exact ⟨_, rfl, rfl, by decide, by decide, by decide⟩
  have hdel : ∀ x ∈ [ObjectId.ofBytes [], ObjectId.ofBytes [1]], x ∉ (∅ : Finset ObjectId) :=
    fun x _ => Finset.not_mem_empty x
  have hdst : ∀ x ∈ [ObjectId.ofBytes [], ObjectId.ofBytes [1]], Plasma.empty.objects x = none :=
    fun _ _ => rfl
  exact ⟨hnodup, hsrc, hdel, hdst,
    (transfer_delivers _ false _ _ _ _ _ hnodup hsrc hdel hdst).2.1⟩

/-! ## Metadata of `MAX_META_SIZE` bytes

`check_object_sizes` admits metadata of up to `MAX_META_SIZE` = 2^16 bytes, and the comment in
`send_object` says the header's low 16 bits hold a size of up to 64 KB; but 2^16 does not fit
16 bits. The header of such an object says it has no metadata and one byte of data more than
the data size has in its lowest bit, and the receiver reads that many bytes of the metadata as
the object's data. -/

/-- The transfer of an object whose metadata has `MAX_META_SIZE` bytes `v` and whose data is one
byte: both runs return `Ok`, and the receiver stores the object with no metadata and the data
`[v]`; a TAKE has deleted the source's object. -/
theorem transfer_of_max_meta (deleteAfterSend : Bool) (a b : SocketAddr) (x : ObjectId)
    (v w : UInt8) :
    let out := transfer [x] deleteAfterSend
      ⟨a, Plasma.empty.put x (some ⟨List.replicate maxMetaSize v, [w], true, false⟩),
        StoreFaults.none⟩ ∅ ⟨b, Plasma.empty, StoreFaults.none⟩ ⟨none, none⟩
    out.sendResult = .ok () ∧ out.receiveResult = .ok () ∧
      out.destination.objects x = some ⟨[], [v], true, false⟩ ∧
      (deleteAfterSend = true → out.source.objects x = none) := by
  intro out
  have hbuf : ∀ y ∈ [x], StoreFaults.none.get y = false ∧
      ((Plasma.empty.put x (some ⟨List.replicate maxMetaSize v, [w], true, false⟩)).buffer y).isSome :=
    fun y hy => ⟨rfl, by simp [List.mem_singleton.1 hy, Plasma.buffer]⟩
  have hs : (ObjectSender.mk b [x] deleteAfterSend).run StoreFaults.none
      ⟨Plasma.empty.put x (some ⟨List.replicate maxMetaSize v, [w], true, false⟩), ∅, ⟨[], none⟩⟩ = _ :=
    ObjectSender.run_unbroken (fun y _ => Finset.not_mem_empty y) (ObjectSender.getObjects_of_sealed hbuf)
    (ObjectSender.checkObjectSizes_eq_ok.2 fun ob hob => by
      simp [Plasma.buffer] at hob
      subst hob
      exact ⟨by simp, by simp [maxDataSize]⟩)
  have hheader : objectHeader maxMetaSize [w].length = 65536 := by
    rw [List.length_singleton]; decide
  have hsock : ((List.filterMap (Plasma.empty.put x
      (some ⟨List.replicate maxMetaSize v, [w], true, false⟩)).buffer [x]).map encodeObject).flatten =
        toLeBytes 8 65536 ++ [] ++ [v] ++ (List.replicate 65535 v ++ [w]) := by
    simp only [List.filterMap_cons, List.filterMap_nil, Plasma.buffer, Plasma.put_objects, if_true,
      List.map_cons, List.map_nil, List.flatten_cons, List.flatten_nil, List.append_nil,
      encodeObject, hheader, List.length_replicate]
    rw [show maxMetaSize = 65535 + 1 from rfl, List.replicate_succ]
    simp only [List.append_assoc, List.cons_append, List.singleton_append, List.nil_append]
  have hr : receiveObject StoreFaults.none x a
      ⟨Plasma.empty, toLeBytes 8 65536 ++ [] ++ [v] ++ (List.replicate 65535 v ++ [w])⟩ =
        .ok () ⟨Plasma.empty.put x (some ⟨[], [v], true, false⟩), List.replicate 65535 v ++ [w]⟩ :=
    receiveObject_of_sizes _ (by decide) rfl rfl (by simp) (by simp [maxDataSize]) rfl rfl rfl
  have ht : out = ⟨.ok (), StatusCodes.begin ::
      (toLeBytes 8 65536 ++ [] ++ [v] ++ (List.replicate 65535 v ++ [w])),
      if deleteAfterSend then ((Plasma.empty.put x
        (some ⟨List.replicate maxMetaSize v, [w], true, false⟩)).deleteMany StoreFaults.none [x]).2
      else Plasma.empty.put x (some ⟨List.replicate maxMetaSize v, [w], true, false⟩),
      .ok (), Plasma.empty.put x (some ⟨[], [v], true, false⟩)⟩ := by
    simp only [out, transfer, hs, outcome_ok, Connection.delivered, List.nil_append, hsock,
      ObjectReceiver.run_of_begin (n := ⟨Plasma.empty, _⟩) rfl, receiveObjects_cons_of_ok hr]
    rfl
  rw [ht]
  exact ⟨rfl, rfl, by simp, fun hd => by simp [hd, Plasma.deleteMany_objects, Plasma.Deletable]⟩

/-- A COPY of an object with `MAX_META_SIZE` bytes of metadata: `check_object_sizes` admits it,
both runs return `Ok`, and the receiver stores it with no metadata and one byte of data. -/
theorem copy_of_max_meta_misread :
    let source : Peer := ⟨.v4 ⟨[10, 0, 0, 1], rfl⟩ 2021, Plasma.empty.put (ObjectId.ofBytes [])
      (some ⟨List.replicate maxMetaSize 0xaa, [1], true, false⟩), StoreFaults.none⟩
    let out := transfer [ObjectId.ofBytes []] false source ∅
      ⟨.v4 ⟨[10, 0, 0, 2], rfl⟩ 2021, Plasma.empty, StoreFaults.none⟩ ⟨none, none⟩
    (ObjectSender.mk (.v4 ⟨[10, 0, 0, 2], rfl⟩ 2021) [ObjectId.ofBytes []] false).checkObjectSizes
        [⟨ObjectId.ofBytes [], List.replicate maxMetaSize 0xaa, [1]⟩] = .ok () ∧
      out.sendResult = .ok () ∧ out.receiveResult = .ok () ∧
      out.destination.objects (ObjectId.ofBytes []) = some ⟨[], [0xaa], true, false⟩ := by
  obtain ⟨hs, hr, hd, -⟩ := transfer_of_max_meta false (.v4 ⟨[10, 0, 0, 1], rfl⟩ 2021)
    (.v4 ⟨[10, 0, 0, 2], rfl⟩ 2021) (ObjectId.ofBytes []) 0xaa 1
  refine ⟨ObjectSender.checkObjectSizes_eq_ok.2 fun ob hob => ?_, hs, hr, hd⟩
  rw [List.mem_singleton.1 hob]
  exact ⟨(List.length_replicate _ _).le, by decide⟩

/-- The TAKE of the same object: both runs return `Ok`, the source has deleted the object, and
the destination holds other metadata and data. -/
example :
    let source : Peer := ⟨.v4 ⟨[10, 0, 0, 1], rfl⟩ 2021, Plasma.empty.put (ObjectId.ofBytes [])
      (some ⟨List.replicate maxMetaSize 0xaa, [1], true, false⟩), StoreFaults.none⟩
    let out := transfer [ObjectId.ofBytes []] true source ∅
      ⟨.v4 ⟨[10, 0, 0, 2], rfl⟩ 2021, Plasma.empty, StoreFaults.none⟩ ⟨none, none⟩
    out.sendResult = .ok () ∧ out.receiveResult = .ok () ∧
      ¬out.Keeps (ObjectId.ofBytes []) ⟨List.replicate maxMetaSize 0xaa, [1], true, false⟩ := by
  obtain ⟨hs, hr, hd, hsrc⟩ := transfer_of_max_meta true (.v4 ⟨[10, 0, 0, 1], rfl⟩ 2021)
    (.v4 ⟨[10, 0, 0, 2], rfl⟩ 2021) (ObjectId.ofBytes []) 0xaa 1
  refine ⟨hs, hr, ?_⟩
  rintro (h | h)
  · rw [hsrc rfl] at h
    cases h
  · rw [hd] at h
    exact absurd (congrArg PlasmaObject.data (Option.some.inj h)) (by decide)

end PlasmaStream
