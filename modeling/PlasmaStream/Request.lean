import PlasmaStream.Wire
import Mathlib.Data.List.Nodup

/-!
# Requests, their wire form, and validation

`request.rs`: the three requests a server reads from a connection (SYNC from a client, COPY and
TAKE from a peer server), the two peer requests a SYNC carries, how each is read from and
written into a socket, and `validate`.

`read_from` reads a request type byte, then the fields of that type; it returns `None` when the
connection is closed before the type byte. Every failure of an inner read is passed on with `?`,
which `ReadResult.bind` models. `read_ipv6_address` is `unimplemented!()`: reading an IPv6 peer
address panics, the third way a read can end.

`validate_eq_ok_iff`: `validate` accepts exactly the requests whose id lists have between 1 and
`MAX_OBJECT_ID_LIST_LEN` distinct entries, and the SYNCs of 1 to `MAX_NUM_SYNC_PEERS` peer
requests of such lengths whose incoming ids, all together, are distinct.
-/

namespace PlasmaStream

def syncTypeId : UInt8 := 1
def copyTypeId : UInt8 := 2
def takeTypeId : UInt8 := 3
def ipv4TypeId : UInt8 := 4
def ipv6TypeId : UInt8 := 6

/-- `RequestError`. -/
inductive RequestError where
  | invalidRequestType (t : UInt8)
  | invalidPeerRequestType (t : UInt8)
  | invalidPeerAddressType (t : UInt8)
  | objectIdListTooShort
  | objectIdListTooLong (n : Nat)
  | duplicateObjectIds
  | peerRequestListTooShort
  | peerRequestListTooLong (n : Nat)
deriving DecidableEq

/-- The error `read_from` returns: an I/O error of the socket, which on a stream that ends is
`UnexpectedEof`, or a `RequestError`. -/
inductive ReadError where
  | unexpectedEof
  | request (e : RequestError)
deriving DecidableEq

/-- How a read ends: with the value and the bytes after it, with an error, or with a panic. -/
inductive ReadResult (α : Type) where
  | ok (a : α) (rest : Bytes)
  | err (e : ReadError)
  | panic
deriving DecidableEq

namespace ReadResult

variable {α β : Type}

/-- `?` after a read: go on with the value and the bytes left, or pass the failure on. -/
def bind : ReadResult α → (α → Bytes → ReadResult β) → ReadResult β
  | ok a rest, f => f a rest
  | err e, _ => err e
  | panic, _ => panic

/-- A read of the socket itself, which fails only at the end of the stream. -/
def ofIo : Option (α × Bytes) → ReadResult α
  | some (a, rest) => ok a rest
  | none => err .unexpectedEof

@[simp] theorem ok_bind (a : α) (rest : Bytes) (f : α → Bytes → ReadResult β) :
    (ok a rest).bind f = f a rest := rfl

@[simp] theorem err_bind (e : ReadError) (f : α → Bytes → ReadResult β) :
    (err e).bind f = err e := rfl

@[simp] theorem panic_bind (f : α → Bytes → ReadResult β) : (panic : ReadResult α).bind f = panic :=
  rfl

@[simp] theorem ofIo_some (a : α) (rest : Bytes) : ofIo (some (a, rest)) = ok a rest := rfl

@[simp] theorem ofIo_none : ofIo (none : Option (α × Bytes)) = err .unexpectedEof := rfl

theorem bind_eq_ok {r : ReadResult α} {f : α → Bytes → ReadResult β} {b : β} {rest : Bytes} :
    r.bind f = ok b rest ↔ ∃ a mid, r = ok a mid ∧ f a mid = ok b rest := by
  cases r <;> simp [bind, and_assoc]

theorem bind_eq_panic {r : ReadResult α} {f : α → Bytes → ReadResult β} :
    r.bind f = panic ↔ r = panic ∨ ∃ a mid, r = ok a mid ∧ f a mid = panic := by
  cases r <;> simp [bind, and_assoc]

theorem ofIo_eq_ok {o : Option (α × Bytes)} {a : α} {rest : Bytes} :
    ofIo o = ok a rest ↔ o = some (a, rest) := by
  rcases o with _ | ⟨a', rest'⟩ <;> simp [ofIo]

@[simp] theorem ofIo_ne_panic (o : Option (α × Bytes)) : ofIo o ≠ panic := by
  rcases o with _ | ⟨a', rest'⟩ <;> simp [ofIo]

end ReadResult

open ReadResult

/-! ## Peer addresses and object id lists -/

/-- `read_ipv4_address`: a `u32`, whose bytes become the octets, lowest first. -/
def readIpv4Address (bs : Bytes) : ReadResult Ipv4Addr :=
  (ofIo (readU32Le bs)).bind fun a rest =>
    ok ⟨[UInt8.ofNat a, UInt8.ofNat (a >>> 8), UInt8.ofNat (a >>> 16), UInt8.ofNat (a >>> 24)],
      rfl⟩ rest

/-- `read_ipv6_address`: `unimplemented!()`. -/
def readIpv6Address (_ : Bytes) : ReadResult Ipv6Addr := panic

/-- `read_socket_addr`: the family tag and the port, then the address of that family. -/
def readSocketAddr (bs : Bytes) : ReadResult SocketAddr :=
  (ofIo (readU8 bs)).bind fun addrType bs =>
  (ofIo (readU16Le bs)).bind fun port bs =>
    if addrType = ipv4TypeId then
      (readIpv4Address bs).bind fun addr rest => ok (.v4 addr (UInt16.ofNat port)) rest
    else if addrType = ipv6TypeId then
      (readIpv6Address bs).bind fun addr rest => ok (.v6 addr (UInt16.ofNat port)) rest
    else err (.request (.invalidPeerAddressType addrType))

/-- The cast that ends `read_object_id_list`: `n` consecutive 20-byte ids. -/
def toObjectIds : Nat → Bytes → List ObjectId
  | 0, _ => []
  | n + 1, bs => ObjectId.ofBytes (bs.take objectIdBytes) :: toObjectIds n (bs.drop objectIdBytes)

/-- `read_object_id_list`: a `u16` count, then all the ids' bytes in one `read_exact`. -/
def readObjectIdList (bs : Bytes) : ReadResult (List ObjectId) :=
  (ofIo (readU16Le bs)).bind fun numIds bs =>
  (ofIo (readExact (objectIdBytes * numIds) bs)).bind fun result rest =>
    ok (toObjectIds numIds result) rest

/-- `write_object_id_list`: the count as `u16`, then the ids. -/
def writeObjectIdList (objectIds : List ObjectId) : Bytes :=
  toLeBytes 2 objectIds.length ++ (objectIds.map ObjectId.bytes).flatten

/-- `write_peer_addr`. -/
def writePeerAddr : SocketAddr → Bytes
  | .v4 ip port => ipv4TypeId :: toLeBytes 2 port.toNat ++ ip.octets
  | .v6 ip port => ipv6TypeId :: toLeBytes 2 port.toNat ++ ip.octets

/-! ## Peer requests -/

/-- `PeerRequest`: where to pull the objects from, and which. -/
inductive PeerRequest where
  | copy («from» : SocketAddr) (objects : List ObjectId)
  | take («from» : SocketAddr) (objects : List ObjectId)
deriving DecidableEq

namespace PeerRequest

def readFrom (bs : Bytes) : ReadResult PeerRequest :=
  (ofIo (readU8 bs)).bind fun requestType bs =>
    if requestType = copyTypeId then
      (readSocketAddr bs).bind fun «from» bs =>
      (readObjectIdList bs).bind fun objects rest => ok (copy «from» objects) rest
    else if requestType = takeTypeId then
      (readSocketAddr bs).bind fun «from» bs =>
      (readObjectIdList bs).bind fun objects rest => ok (take «from» objects) rest
    else err (.request (.invalidPeerRequestType requestType))

def writeInto : PeerRequest → Bytes
  | copy «from» objects => copyTypeId :: writePeerAddr «from» ++ writeObjectIdList objects
  | take «from» objects => takeTypeId :: writePeerAddr «from» ++ writeObjectIdList objects

def incomingObjects : PeerRequest → List ObjectId
  | copy _ objects => objects
  | take _ objects => objects

/-- `contains_peer`. -/
def containsPeer (p : PeerRequest) (address : SocketAddr) : Bool :=
  match p with
  | copy «from» _ => «from» == address
  | take «from» _ => «from» == address

end PeerRequest

/-! ## Requests -/

/-- `Request`. -/
inductive Request where
  | sync (peerRequests : List PeerRequest)
  | copy (objectIds : List ObjectId)
  | take (objectIds : List ObjectId)
deriving DecidableEq

/-- The loop of the SYNC arm of `read_from`: `n` peer requests, one after the other. -/
def readPeerRequests : Nat → Bytes → ReadResult (List PeerRequest)
  | 0, bs => ok [] bs
  | n + 1, bs =>
    (PeerRequest.readFrom bs).bind fun p bs =>
    (readPeerRequests n bs).bind fun ps rest => ok (p :: ps) rest

namespace Request

def readFrom : Bytes → ReadResult (Option Request)
  | [] => ok none []
  | requestType :: bs =>
    if requestType = syncTypeId then
      (ofIo (readU16Le bs)).bind fun numPeerRequests bs =>
      (readPeerRequests numPeerRequests bs).bind fun peerRequests rest =>
        ok (some (sync peerRequests)) rest
    else if requestType = copyTypeId then
      (readObjectIdList bs).bind fun objectIds rest => ok (some (copy objectIds)) rest
    else if requestType = takeTypeId then
      (readObjectIdList bs).bind fun objectIds rest => ok (some (take objectIds)) rest
    else err (.request (.invalidRequestType requestType))

def writeInto : Request → Bytes
  | sync peerRequests =>
    syncTypeId :: toLeBytes 2 peerRequests.length ++ (peerRequests.map PeerRequest.writeInto).flatten
  | copy objectIds => copyTypeId :: writeObjectIdList objectIds
  | take objectIds => takeTypeId :: writeObjectIdList objectIds

end Request

/-! ## Validation -/

/-- The length checks `validate` makes on every object id list. -/
def checkObjectIdListLen (objectIds : List ObjectId) : Except RequestError Unit :=
  if objectIds.isEmpty then .error .objectIdListTooShort
  else if objectIds.length > maxObjectIdListLen then .error (.objectIdListTooLong objectIds.length)
  else .ok ()

/-- The `HashSet::insert` loop: add each id to the ids seen so far, failing at the first one
that is already there. -/
def insertUnique : List ObjectId → List ObjectId → Except RequestError (List ObjectId)
  | seen, [] => .ok seen
  | seen, oid :: rest => if oid ∈ seen then .error .duplicateObjectIds else insertUnique (oid :: seen) rest

/-- The `HashSet` loop succeeds exactly when the ids are distinct and none was seen before. -/
theorem insertUnique_eq_ok {seen seen' objectIds : List ObjectId} :
    insertUnique seen objectIds = .ok seen' ↔
      objectIds.Nodup ∧ (∀ oid ∈ objectIds, oid ∉ seen) ∧ seen' = objectIds.reverse ++ seen := by
  induction objectIds generalizing seen with
  | nil => simp [insertUnique, eq_comm]
  | cons oid rest ih =>
    by_cases h : oid ∈ seen
    · simp [insertUnique, h]
    · simp only [insertUnique, if_neg h, ih, List.nodup_cons, List.forall_mem_cons,
        List.reverse_cons, List.append_assoc, List.singleton_append]
      simp only [List.mem_cons, not_or]
      constructor
      · rintro ⟨hn, hr, rfl⟩
        exact ⟨⟨fun hm => (hr oid hm).1 rfl, hn⟩, ⟨h, fun x hx => (hr x hx).2⟩, rfl⟩
      · rintro ⟨⟨hn, hnd⟩, ⟨-, hr⟩, rfl⟩
        exact ⟨hnd, fun x hx => ⟨fun he => hn (he ▸ hx), hr x hx⟩, rfl⟩

theorem insertUnique_eq_error {seen objectIds : List ObjectId} {e : RequestError}
    (h : insertUnique seen objectIds = .error e) :
    ¬(objectIds.Nodup ∧ ∀ oid ∈ objectIds, oid ∉ seen) :=
  fun hn => by rw [insertUnique_eq_ok.2 ⟨hn.1, hn.2, rfl⟩] at h; cases h

theorem insertUnique_of_nodup {seen objectIds : List ObjectId} (h : objectIds.Nodup)
    (hd : ∀ oid ∈ objectIds, oid ∉ seen) :
    insertUnique seen objectIds = .ok (objectIds.reverse ++ seen) :=
  insertUnique_eq_ok.2 ⟨h, hd, rfl⟩

def PeerRequest.validate : PeerRequest → Except RequestError Unit
  | .copy _ objects | .take _ objects => checkObjectIdListLen objects

/-- The SYNC loop of `validate`, with one set of ids shared by all peer requests. -/
def validatePeerRequests : List ObjectId → List PeerRequest → Except RequestError Unit
  | _, [] => .ok ()
  | seen, p :: ps => do
    p.validate
    let seen ← insertUnique seen p.incomingObjects
    validatePeerRequests seen ps

def Request.validate : Request → Except RequestError Unit
  | .sync peerRequests =>
    if peerRequests.isEmpty then .error .peerRequestListTooShort
    else if peerRequests.length > maxNumSyncPeers then
      .error (.peerRequestListTooLong peerRequests.length)
    else validatePeerRequests [] peerRequests
  | .take objectIds | .copy objectIds => do
    checkObjectIdListLen objectIds
    let _ ← insertUnique [] objectIds

theorem validate_copy_of_nodup {objectIds : List ObjectId} (h : objectIds.Nodup)
    (hne : objectIds ≠ []) (hlen : objectIds.length ≤ maxObjectIdListLen) :
    (Request.copy objectIds).validate = .ok () := by
  simp [Request.validate, checkObjectIdListLen, hne, Nat.not_lt.mpr hlen,
    insertUnique_of_nodup h (fun _ _ h => List.not_mem_nil _ h)]
  rfl

/-! ## What `validate` accepts -/

theorem checkObjectIdListLen_eq_ok {objectIds : List ObjectId} :
    checkObjectIdListLen objectIds = .ok () ↔
      1 ≤ objectIds.length ∧ objectIds.length ≤ maxObjectIdListLen := by
  unfold checkObjectIdListLen
  cases objectIds <;> simp

/-- The SYNC loop, with one set shared by all peer requests, accepts exactly when each list has
an admissible length and the incoming ids of all peer requests together are distinct and new. -/
theorem validatePeerRequests_eq_ok {seen : List ObjectId} {peerRequests : List PeerRequest} :
    validatePeerRequests seen peerRequests = .ok () ↔
      (∀ p ∈ peerRequests, 1 ≤ p.incomingObjects.length ∧
        p.incomingObjects.length ≤ maxObjectIdListLen) ∧
      (peerRequests.map PeerRequest.incomingObjects).flatten.Nodup ∧
      ∀ oid ∈ (peerRequests.map PeerRequest.incomingObjects).flatten, oid ∉ seen := by
  induction peerRequests generalizing seen with
  | nil => simp [validatePeerRequests]
  | cons p ps ih =>
    have hp : p.validate = .ok () ↔
        1 ≤ p.incomingObjects.length ∧ p.incomingObjects.length ≤ maxObjectIdListLen := by
      cases p <;> exact checkObjectIdListLen_eq_ok
    simp only [validatePeerRequests, List.forall_mem_cons, List.map_cons, List.flatten_cons,
      List.nodup_append, List.mem_append]
    cases hv : p.validate with
    | error e => simp [← hp, hv, Bind.bind, Except.bind]
    | ok _ =>
      cases hi : insertUnique seen p.incomingObjects with
      | error e =>
        simp only [Bind.bind, Except.bind, hi, reduceCtorEq, false_iff]
        exact fun h => insertUnique_eq_error hi ⟨h.2.1.1, fun x hx => h.2.2 x (.inl hx)⟩
      | ok seen' =>
        obtain ⟨hnd, hfresh, rfl⟩ := insertUnique_eq_ok.1 hi
        simp only [Bind.bind, Except.bind, hi, ih, List.mem_append, List.mem_reverse, not_or]
        constructor
        · rintro ⟨hps, hflat, hout⟩
          exact ⟨⟨hp.1 hv, hps⟩, ⟨hnd, hflat, fun x hx hx' => (hout x hx').1 hx⟩,
            fun x hx => hx.elim (hfresh x) fun hx => (hout x hx).2⟩
        · rintro ⟨⟨-, hps⟩, ⟨-, hflat, hdis⟩, hout⟩
          exact ⟨hps, hflat, fun x hx => ⟨fun hx' => hdis hx' hx, hout x (.inr hx)⟩⟩

/-- A SYNC that passes `validate` went through the loop of its peer requests. -/
theorem validatePeerRequests_of_validate {peerRequests : List PeerRequest}
    (h : (Request.sync peerRequests).validate = .ok ()) : validatePeerRequests [] peerRequests = .ok () := by
  dsimp only [Request.validate] at h
  split_ifs at h
  exact h

theorem validate_eq_ok_iff :
    (∀ objectIds : List ObjectId, (Request.copy objectIds).validate = .ok () ↔
      1 ≤ objectIds.length ∧ objectIds.length ≤ maxObjectIdListLen ∧ objectIds.Nodup) ∧
    (∀ objectIds : List ObjectId, (Request.take objectIds).validate = .ok () ↔
      1 ≤ objectIds.length ∧ objectIds.length ≤ maxObjectIdListLen ∧ objectIds.Nodup) ∧
    ∀ peerRequests : List PeerRequest, (Request.sync peerRequests).validate = .ok () ↔
      1 ≤ peerRequests.length ∧ peerRequests.length ≤ maxNumSyncPeers ∧
      (∀ p ∈ peerRequests, 1 ≤ p.incomingObjects.length ∧
        p.incomingObjects.length ≤ maxObjectIdListLen) ∧
      (peerRequests.map PeerRequest.incomingObjects).flatten.Nodup := by
  have hlist (objectIds : List ObjectId) :
      (do checkObjectIdListLen objectIds; let _ ← insertUnique [] objectIds :
        Except RequestError Unit) = .ok () ↔
      1 ≤ objectIds.length ∧ objectIds.length ≤ maxObjectIdListLen ∧ objectIds.Nodup := by
    cases hc : checkObjectIdListLen objectIds with
    | error e =>
      simp only [Bind.bind, Except.bind, hc, reduceCtorEq, false_iff]
      exact fun h => by rw [checkObjectIdListLen_eq_ok.2 ⟨h.1, h.2.1⟩] at hc; cases hc
    | ok _ =>
      obtain ⟨h₁, h₂⟩ := checkObjectIdListLen_eq_ok.1 hc
      cases hi : insertUnique [] objectIds with
      | error e =>
        simp only [Bind.bind, Except.bind, hi, reduceCtorEq, false_iff]
        exact fun h => insertUnique_eq_error hi ⟨h.2.2, fun _ _ => List.not_mem_nil _⟩
      | ok seen => simp [Bind.bind, Except.bind, hi, h₁, h₂, (insertUnique_eq_ok.1 hi).1]; rfl
  refine ⟨hlist, hlist, fun peerRequests => ?_⟩
  rw [Request.validate]
  split_ifs with hne hlong
  · simp [List.isEmpty_iff.1 hne]
  · simp only [reduceCtorEq, false_iff]
    omega
  · rw [validatePeerRequests_eq_ok]
    have h₁ : 1 ≤ peerRequests.length := List.length_pos.2 fun h => by simp [h] at hne
    simp [h₁, Nat.le_of_not_lt hlong]

end PlasmaStream
