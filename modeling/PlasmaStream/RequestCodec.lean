import PlasmaStream.Request
import Mathlib.Data.List.Nodup
import Mathlib.Data.List.Range

/-!
# The request codec: both round trips

`write_into` and `read_from` are inverse on the requests the wire format can carry, `Fits`: IPv4
peer addresses (reading an IPv6 one panics) and lists shorter than 2^16, the range of the `u16`
counts. Each reader has two lemmas, proved once and used by the readers above it:

* completeness, `read (write x ++ rest) = ok x rest` for `x` that fits
  (`readFrom_writeInto`);
* soundness, `read bs = ok x rest → x fits ∧ bs = write x ++ rest` (`eq_of_readFrom`): decoding
  and then encoding gives back exactly the bytes that were consumed.
-/

namespace PlasmaStream

open ReadResult

/-- A peer request the wire format carries: an IPv4 address and fewer than 2^16 ids. -/
def PeerRequest.Fits : PeerRequest → Prop
  | .copy a objects | .take a objects => a.IsV4 ∧ objects.length < 2 ^ 16

/-- A request the wire format carries: its counts below 2^16 and every peer request fitting. -/
def Request.Fits : Request → Prop
  | .sync peerRequests => peerRequests.length < 2 ^ 16 ∧ ∀ p ∈ peerRequests, p.Fits
  | .copy objectIds | .take objectIds => objectIds.length < 2 ^ 16

/-! ## Object id lists -/

@[simp] theorem length_toObjectIds (n : Nat) (bs : Bytes) : (toObjectIds n bs).length = n := by
  induction n generalizing bs <;> simp [toObjectIds, *]

@[simp] theorem length_flatten_bytes (objectIds : List ObjectId) :
    ((objectIds.map ObjectId.bytes).flatten).length = objectIdBytes * objectIds.length := by
  induction objectIds with
  | nil => rfl
  | cons oid objectIds ih => simp [ih, oid.length_bytes, Nat.mul_succ, Nat.add_comm]

theorem toObjectIds_flatten (objectIds : List ObjectId) :
    toObjectIds objectIds.length (objectIds.map ObjectId.bytes).flatten = objectIds := by
  induction objectIds with
  | nil => rfl
  | cons oid objectIds ih =>
    have h := oid.length_bytes
    simp [toObjectIds, ← h, ObjectId.ofBytes_bytes, ih]

theorem flatten_toObjectIds {n : Nat} {bs : Bytes} (h : bs.length = objectIdBytes * n) :
    ((toObjectIds n bs).map ObjectId.bytes).flatten = bs := by
  induction n generalizing bs with
  | zero => simp_all [toObjectIds]
  | succ n ih =>
    have h20 : (bs.take objectIdBytes).length = objectIdBytes := by
      simp [Nat.mul_succ] at h ⊢; omega
    simp only [toObjectIds, List.map_cons, List.flatten_cons, ObjectId.bytes_ofBytes h20]
    rw [ih (by simp [h, Nat.mul_succ]), List.take_append_drop]

theorem readObjectIdList_writeObjectIdList {objectIds : List ObjectId} (rest : Bytes)
    (h : objectIds.length < 2 ^ 16) :
    readObjectIdList (writeObjectIdList objectIds ++ rest) = ok objectIds rest := by
  have hn : objectIds.length < 256 ^ 2 := by simpa using h
  simp [readObjectIdList, writeObjectIdList, readU16Le, readLe_toLeBytes _ hn,
    readExact_append rest (length_flatten_bytes objectIds), toObjectIds_flatten]

theorem eq_of_readObjectIdList {bs rest : Bytes} {objectIds : List ObjectId}
    (h : readObjectIdList bs = ok objectIds rest) :
    objectIds.length < 2 ^ 16 ∧ bs = writeObjectIdList objectIds ++ rest := by
  simp only [readObjectIdList, bind_eq_ok, ofIo_eq_ok, ok.injEq] at h
  obtain ⟨n, bs₁, hn, xs, rest', hxs, rfl, rfl⟩ := h
  obtain ⟨hlt, rfl⟩ := eq_of_readLe hn
  obtain ⟨hlen, rfl⟩ := readExact_eq_some.mp hxs
  refine ⟨by simpa using hlt, ?_⟩
  rw [writeObjectIdList, length_toObjectIds, flatten_toObjectIds hlen, List.append_assoc]

/-! ## Peer addresses -/

/-- The octets `read_ipv4_address` builds from a `u32` are its little-endian bytes. -/
theorem toLeBytes_four (a : Nat) :
    toLeBytes 4 a = [UInt8.ofNat a, UInt8.ofNat (a >>> 8), UInt8.ofNat (a >>> 16),
      UInt8.ofNat (a >>> 24)] := by
  simp [toLeBytes, Nat.shiftRight_eq_div_pow, Nat.div_div_eq_div_mul]

theorem readIpv4Address_octets (ip : Ipv4Addr) (rest : Bytes) :
    readIpv4Address (ip.octets ++ rest) = ok ip rest := by
  obtain ⟨octets, hlen⟩ := ip
  have h : toLeBytes 4 (ofLeBytes octets) = octets := by
    rw [← hlen]; exact toLeBytes_ofLeBytes octets
  have hlt : ofLeBytes octets < 256 ^ 4 := hlen ▸ ofLeBytes_lt octets
  have hread : readU32Le (octets ++ rest) = some (ofLeBytes octets, rest) := by
    rw [readU32Le]; conv_lhs => rw [← h]
    exact readLe_toLeBytes rest hlt
  simp only [readIpv4Address, hread, ofIo_some, ok_bind, ok.injEq, Ipv4Addr.mk.injEq, and_true]
  rw [← toLeBytes_four, h]

theorem eq_of_readIpv4Address {bs rest : Bytes} {ip : Ipv4Addr}
    (h : readIpv4Address bs = ok ip rest) : bs = ip.octets ++ rest := by
  simp only [readIpv4Address, bind_eq_ok, ofIo_eq_ok, ok.injEq] at h
  obtain ⟨a, rest', ha, rfl, rfl⟩ := h
  rw [(eq_of_readLe ha).2, toLeBytes_four]

theorem readSocketAddr_writePeerAddr {a : SocketAddr} (rest : Bytes) (h : a.IsV4) :
    readSocketAddr (writePeerAddr a ++ rest) = ok a rest := by
  cases a with
  | v6 => exact h.elim
  | v4 ip port =>
    have hp : port.toNat < 256 ^ 2 := port.toNat_lt_size
    simp [readSocketAddr, writePeerAddr, readU8, readU16Le, readLe_toLeBytes _ hp,
      readIpv4Address_octets, ofNat_toNat_u16]

theorem eq_of_readSocketAddr {bs rest : Bytes} {a : SocketAddr}
    (h : readSocketAddr bs = ok a rest) : a.IsV4 ∧ bs = writePeerAddr a ++ rest := by
  simp only [readSocketAddr, bind_eq_ok, ofIo_eq_ok, readU8_eq_some] at h
  obtain ⟨t, bs₁, rfl, port, bs₂, hport, h⟩ := h
  obtain ⟨hlt, rfl⟩ := eq_of_readLe hport
  split_ifs at h with h4 h6
  · obtain ⟨ip, rest', hip, hok⟩ := bind_eq_ok.mp h
    cases hok
    have hp : (UInt16.ofNat port).toNat = port := UInt16.toNat_ofNat_of_lt (by simpa using hlt)
    simp [writePeerAddr, SocketAddr.IsV4, h4, hp, eq_of_readIpv4Address hip]
  · simp [readIpv6Address] at h

/-! ## Peer requests -/

@[simp] theorem takeTypeId_ne_copyTypeId : takeTypeId ≠ copyTypeId := by decide
@[simp] theorem copyTypeId_ne_syncTypeId : copyTypeId ≠ syncTypeId := by decide
@[simp] theorem takeTypeId_ne_syncTypeId : takeTypeId ≠ syncTypeId := by decide

theorem PeerRequest.readFrom_writeInto {p : PeerRequest} (rest : Bytes) (h : p.Fits) :
    PeerRequest.readFrom (p.writeInto ++ rest) = ok p rest := by
  cases p with
  | copy a objects =>
    simp [PeerRequest.readFrom, PeerRequest.writeInto, readU8, readSocketAddr_writePeerAddr _ h.1,
      readObjectIdList_writeObjectIdList _ h.2]
  | take a objects =>
    simp [PeerRequest.readFrom, PeerRequest.writeInto, readU8, readSocketAddr_writePeerAddr _ h.1,
      readObjectIdList_writeObjectIdList _ h.2]

theorem PeerRequest.eq_of_readFrom {bs rest : Bytes} {p : PeerRequest}
    (h : PeerRequest.readFrom bs = ok p rest) : p.Fits ∧ bs = p.writeInto ++ rest := by
  simp only [PeerRequest.readFrom, bind_eq_ok, ofIo_eq_ok, readU8_eq_some] at h
  obtain ⟨t, bs₁, rfl, h⟩ := h
  split_ifs at h with hc ht <;> simp only [bind_eq_ok, ok.injEq, reduceCtorEq, false_and,
    exists_false] at h
  all_goals
    obtain ⟨a, bs₂, ha, objects, rest', ho, rfl, rfl⟩ := h
    obtain ⟨hv4, rfl⟩ := eq_of_readSocketAddr ha
    obtain ⟨hlen, rfl⟩ := eq_of_readObjectIdList ho
    exact ⟨⟨hv4, hlen⟩, by simp [PeerRequest.writeInto, *]⟩

theorem readPeerRequests_writeInto {ps : List PeerRequest} (rest : Bytes)
    (h : ∀ p ∈ ps, p.Fits) :
    readPeerRequests ps.length ((ps.map PeerRequest.writeInto).flatten ++ rest) = ok ps rest := by
  induction ps with
  | nil => rfl
  | cons p ps ih =>
    simp [readPeerRequests, PeerRequest.readFrom_writeInto _ (h p (List.mem_cons_self _ _)),
      ih fun q hq => h q (List.mem_cons_of_mem _ hq)]

theorem eq_of_readPeerRequests {n : Nat} {bs rest : Bytes} {ps : List PeerRequest}
    (h : readPeerRequests n bs = ok ps rest) :
    ps.length = n ∧ (∀ p ∈ ps, p.Fits) ∧ bs = (ps.map PeerRequest.writeInto).flatten ++ rest := by
  induction n generalizing bs ps with
  | zero =>
    simp only [readPeerRequests, ok.injEq] at h
    obtain ⟨rfl, rfl⟩ := h
    simp
  | succ n ih =>
    simp only [readPeerRequests, bind_eq_ok, ok.injEq] at h
    obtain ⟨p, bs₁, hp, ps', rest', hps, rfl, rfl⟩ := h
    obtain ⟨hfit, rfl⟩ := PeerRequest.eq_of_readFrom hp
    obtain ⟨rfl, hfits, rfl⟩ := ih hps
    exact ⟨rfl, List.forall_mem_cons.mpr ⟨hfit, hfits⟩, by simp⟩

/-! ## Requests -/

theorem Request.readFrom_writeInto {r : Request} (rest : Bytes) (h : r.Fits) :
    Request.readFrom (r.writeInto ++ rest) = ok (some r) rest := by
  cases r with
  | sync ps =>
    have hn : ps.length < 256 ^ 2 := by simpa using h.1
    simp [Request.readFrom, Request.writeInto, readU16Le, readLe_toLeBytes _ hn,
      readPeerRequests_writeInto _ h.2]
  | copy objectIds =>
    simp [Request.readFrom, Request.writeInto, readObjectIdList_writeObjectIdList _ h]
  | take objectIds =>
    simp [Request.readFrom, Request.writeInto, readObjectIdList_writeObjectIdList _ h]

theorem Request.eq_of_readFrom {bs rest : Bytes} {r : Request}
    (h : Request.readFrom bs = ok (some r) rest) : r.Fits ∧ bs = r.writeInto ++ rest := by
  match bs, h with
  | t :: bs, h =>
    simp only [Request.readFrom] at h
    split_ifs at h with hs hc ht <;> simp only [bind_eq_ok, ofIo_eq_ok, ok.injEq,
      Option.some.injEq, reduceCtorEq, false_and, exists_false] at h
    · obtain ⟨n, bs₁, hn, ps, rest', hps, rfl, rfl⟩ := h
      obtain ⟨hlt, rfl⟩ := eq_of_readLe hn
      obtain ⟨rfl, hfits, rfl⟩ := eq_of_readPeerRequests hps
      exact ⟨⟨by simpa using hlt, hfits⟩, by simp [Request.writeInto, hs]⟩
    all_goals
      obtain ⟨objectIds, rest', ho, rfl, rfl⟩ := h
      obtain ⟨hlen, rfl⟩ := eq_of_readObjectIdList ho
      exact ⟨hlen, by simp [Request.writeInto, *]⟩

/-! ## Panics

`read_ipv6_address` is `unimplemented!()`: a read panics exactly when it gets to an IPv6 peer
address, that is, past the family tag 6 and a whole port. No other read panics. -/

@[simp] theorem ipv6TypeId_ne_ipv4TypeId : ipv6TypeId ≠ ipv4TypeId := by decide

theorem readIpv4Address_ne_panic (bs : Bytes) : readIpv4Address bs ≠ panic := by
  rcases h : readU32Le bs with _ | ⟨a, rest⟩ <;> simp [readIpv4Address, h]

theorem readObjectIdList_ne_panic (bs : Bytes) : readObjectIdList bs ≠ panic := by
  simp [readObjectIdList, bind_eq_panic]

theorem readSocketAddr_eq_panic {bs : Bytes} :
    readSocketAddr bs = panic ↔ ∃ port rest, port.length = 2 ∧ bs = ipv6TypeId :: port ++ rest := by
  constructor
  · intro h
    simp only [readSocketAddr, bind_eq_panic, ofIo_ne_panic, false_or, ofIo_eq_ok,
      readU8_eq_some] at h
    obtain ⟨t, bs₁, rfl, port, bs₂, hport, h⟩ := h
    obtain ⟨-, rfl⟩ := eq_of_readLe hport
    split_ifs at h with h4 h6
    · simp [bind_eq_panic, readIpv4Address_ne_panic] at h
    · exact ⟨_, bs₂, length_toLeBytes 2 port, by simp [h6]⟩
  · rintro ⟨port, rest, hlen, rfl⟩
    simp [readSocketAddr, readU8, readU16Le, readLe, readExact_append rest hlen, readIpv6Address]

theorem PeerRequest.readFrom_eq_panic {bs : Bytes} :
    PeerRequest.readFrom bs = panic ↔
      ∃ t rest, (t = copyTypeId ∨ t = takeTypeId) ∧ bs = t :: rest ∧
        readSocketAddr rest = panic := by
  constructor
  · intro h
    simp only [PeerRequest.readFrom, bind_eq_panic, ofIo_ne_panic, false_or, ofIo_eq_ok,
      readU8_eq_some] at h
    obtain ⟨t, bs₁, rfl, h⟩ := h
    split_ifs at h with hc ht <;>
      simp only [bind_eq_panic, readObjectIdList_ne_panic, reduceCtorEq, false_or, and_false,
        exists_false, or_false] at h
    · exact ⟨t, bs₁, .inl hc, rfl, h⟩
    · exact ⟨t, bs₁, .inr ht, rfl, h⟩
  · rintro ⟨t, rest, ht | ht, rfl, h⟩ <;> subst ht <;> simp [PeerRequest.readFrom, readU8, h]

theorem readPeerRequests_eq_panic {n : Nat} {bs : Bytes} :
    readPeerRequests n bs = panic ↔
      ∃ (ps : List PeerRequest) (mid : Bytes), ps.length < n ∧ (∀ p ∈ ps, p.Fits) ∧
        bs = (ps.map PeerRequest.writeInto).flatten ++ mid ∧ PeerRequest.readFrom mid = panic := by
  induction n generalizing bs with
  | zero => simp [readPeerRequests]
  | succ n ih =>
    simp only [readPeerRequests, bind_eq_panic, reduceCtorEq, false_or, and_false, exists_false,
      or_false, ih]
    constructor
    · rintro (h | ⟨p, bs₁, hp, ps, mid, hlen, hfits, rfl, hmid⟩)
      · exact ⟨[], bs, by simp, by simp, rfl, h⟩
      · obtain ⟨hfit, rfl⟩ := PeerRequest.eq_of_readFrom hp
        exact ⟨p :: ps, mid, by simpa using hlen, List.forall_mem_cons.mpr ⟨hfit, hfits⟩,
          by simp, hmid⟩
    · rintro ⟨_ | ⟨p, ps⟩, mid, hlen, hfits, rfl, hmid⟩
      · exact .inl hmid
      · have hfit := List.forall_mem_cons.mp hfits
        refine .inr ⟨p, _, by simpa using PeerRequest.readFrom_writeInto _ hfit.1, ps, mid,
          by simpa using hlen, hfit.2, rfl, hmid⟩

theorem Request.readFrom_eq_panic {bs : Bytes} :
    Request.readFrom bs = panic ↔
      ∃ n rest, n < 2 ^ 16 ∧ bs = syncTypeId :: toLeBytes 2 n ++ rest ∧
        readPeerRequests n rest = panic := by
  constructor
  · intro h
    match bs, h with
    | t :: bs, h =>
      simp only [Request.readFrom] at h
      split_ifs at h with hs hc ht <;> simp only [bind_eq_panic, ofIo_ne_panic, false_or,
        ofIo_eq_ok, readObjectIdList_ne_panic, reduceCtorEq, and_false, exists_false, or_false] at h
      obtain ⟨n, bs₁, hn, h⟩ := h
      obtain ⟨hlt, rfl⟩ := eq_of_readLe hn
      exact ⟨n, bs₁, by simpa using hlt, by simp [hs], h⟩
  · rintro ⟨n, rest, hn, rfl, h⟩
    have hn' : n < 256 ^ 2 := by simpa using hn
    simp [Request.readFrom, readU16Le, readLe_toLeBytes _ hn', h]

/-- The streams that get `read_from` to an IPv6 peer address: a SYNC of `n` peer requests whose
first `ps.length < n` are well formed, followed by a COPY or TAKE tag, the IPv6 family tag and
the two bytes of a port. -/
def ReachesIpv6Address (bs : Bytes) : Prop :=
  ∃ (n : Nat) (ps : List PeerRequest) (t : UInt8) (port rest : Bytes), n < 2 ^ 16 ∧ ps.length < n ∧ (∀ p ∈ ps, p.Fits) ∧
    (t = copyTypeId ∨ t = takeTypeId) ∧ port.length = 2 ∧
    bs = syncTypeId :: toLeBytes 2 n ++ (ps.map PeerRequest.writeInto).flatten ++
      t :: ipv6TypeId :: port ++ rest

theorem readFrom_eq_panic_iff (bs : Bytes) :
    Request.readFrom bs = panic ↔ ReachesIpv6Address bs := by
  simp only [Request.readFrom_eq_panic, readPeerRequests_eq_panic, PeerRequest.readFrom_eq_panic,
    readSocketAddr_eq_panic, ReachesIpv6Address]
  constructor
  · rintro ⟨n, _, hn, rfl, ps, _, hlen, hfits, rfl, t, _, ht, rfl, port, rest, hport, rfl⟩
    exact ⟨n, ps, t, port, rest, hn, hlen, hfits, ht, hport, by simp⟩
  · rintro ⟨n, ps, t, port, rest, hn, hlen, hfits, ht, hport, rfl⟩
    exact ⟨n, _, hn, by simp, ps, _, hlen, hfits, rfl, t, _, ht, rfl, port, rest, hport, rfl⟩

theorem Request.readFrom_eq_none {bs rest : Bytes} :
    Request.readFrom bs = ok none rest ↔ bs = [] ∧ rest = [] := by
  match bs with
  | [] => simp [Request.readFrom, eq_comm]
  | t :: bs =>
    simp only [Request.readFrom, reduceCtorEq, false_and, iff_false]
    split_ifs <;> simp [bind_eq_ok]

/-- A SYNC whose one peer request names an IPv6 address makes `read_from` panic. -/
theorem readFrom_panics_on_ipv6_peer :
    Request.readFrom [syncTypeId, 1, 0, copyTypeId, ipv6TypeId, 0xe5, 0x07] = panic := by decide

/-- How `read_from` ends on a finite stream: with `None` on the empty stream, with a request `r`
when the stream starts with the frame `write_into` writes for it (and only then), with a panic
when it reaches an IPv6 peer address, and with an error on every other stream. -/
theorem readFrom_outcomes (bs : Bytes) :
    (∀ rest, Request.readFrom bs = ok none rest ↔ bs = [] ∧ rest = []) ∧
    (∀ r rest, Request.readFrom bs = ok (some r) rest ↔ r.Fits ∧ bs = r.writeInto ++ rest) ∧
    (Request.readFrom bs = panic ↔ ReachesIpv6Address bs) :=
  ⟨fun _ => Request.readFrom_eq_none,
    fun _ rest => ⟨Request.eq_of_readFrom, fun ⟨h, e⟩ => e ▸ Request.readFrom_writeInto rest h⟩,
    readFrom_eq_panic_iff bs⟩

/-- Decoding and then encoding is the identity on what was read: every frame `read_from`
accepts is exactly what `write_into` writes for the request it returns. -/
theorem readFrom_writeInto_consumed {bs rest : Bytes} {r : Request}
    (h : Request.readFrom bs = ok (some r) rest) : r.writeInto ++ rest = bs :=
  (Request.eq_of_readFrom h).2.symm

theorem readFrom_writeInto_consumed_sync :
    Request.readFrom ([syncTypeId, 1, 0, takeTypeId, ipv4TypeId, 0xe5, 0x07, 10, 0, 0, 1, 1, 0] ++
      List.replicate objectIdBytes 0xab ++ [copyTypeId]) =
        ok (some (.sync [.take (.v4 ⟨[10, 0, 0, 1], rfl⟩ 2021) [⟨List.replicate 20 0xab, rfl⟩]]))
          [copyTypeId] ∧
      (Request.sync [.take (.v4 ⟨[10, 0, 0, 1], rfl⟩ 2021) [⟨List.replicate 20 0xab, rfl⟩]]).writeInto ++
          [copyTypeId] =
        [syncTypeId, 1, 0, takeTypeId, ipv4TypeId, 0xe5, 0x07, 10, 0, 0, 1, 1, 0] ++
          List.replicate objectIdBytes 0xab ++ [copyTypeId] :=
  ⟨by decide, readFrom_writeInto_consumed (by decide)⟩

/-! ## Lists of the maximal length

`validate` admits `MAX_OBJECT_ID_LIST_LEN` = 2^16 ids, one more than the `u16` count of
`write_object_id_list` holds: `len() as u16` is then 0. -/

theorem readFrom_writeInto_copy_of_max_len {objectIds : List ObjectId}
    (h : objectIds.length = maxObjectIdListLen) (rest : Bytes) :
    Request.readFrom ((Request.copy objectIds).writeInto ++ rest) =
      ok (some (.copy [])) ((objectIds.map ObjectId.bytes).flatten ++ rest) := by
  have h0 : toLeBytes 2 objectIds.length = [0, 0] := by rw [h]; decide
  simp [Request.readFrom, Request.writeInto, writeObjectIdList, h0, readObjectIdList, readU16Le,
    readLe, readExact, ofLeBytes, toObjectIds]

/-- The ids numbered `0, …, n - 1`, each the little-endian bytes of its number. -/
def numberedObjectIds (n : Nat) : List ObjectId :=
  (List.range n).map fun i => ⟨toLeBytes objectIdBytes i, length_toLeBytes _ _⟩

theorem numberedObjectIds_nodup {n : Nat} (hn : n ≤ 2 ^ 16) : (numberedObjectIds n).Nodup := by
  refine List.Nodup.map_on (fun x hx y hy hxy => ?_) (List.nodup_range n)
  have h := congrArg (fun oid : ObjectId => ofLeBytes oid.bytes) hxy
  simp only [ofLeBytes_toLeBytes, List.mem_range] at h hx hy
  rwa [Nat.mod_eq_of_lt (by simp [objectIdBytes]; omega),
    Nat.mod_eq_of_lt (by simp [objectIdBytes]; omega)] at h

/-- A COPY of 2^16 distinct ids passes `validate`, but `read_from` reads back what `write_into`
writes for it as an empty COPY, leaving all its ids unread. -/
theorem copy_of_max_len_not_read_back :
    (Request.copy (numberedObjectIds maxObjectIdListLen)).validate = .ok () ∧
      Request.readFrom (Request.copy (numberedObjectIds maxObjectIdListLen)).writeInto =
        ok (some (.copy [])) (((numberedObjectIds maxObjectIdListLen).map ObjectId.bytes).flatten) := by
  have hlen : (numberedObjectIds maxObjectIdListLen).length = maxObjectIdListLen := by
    simp [numberedObjectIds]
  have hne : numberedObjectIds maxObjectIdListLen ≠ [] :=
    List.ne_nil_of_length_pos (by rw [hlen]; decide)
  exact ⟨validate_copy_of_nodup (numberedObjectIds_nodup le_rfl) hne hlen.le,
    by simpa using readFrom_writeInto_copy_of_max_len hlen []⟩

/-! ## A stream that is still arriving

`read_from` reads from a socket whose bytes may not all have arrived: each read blocks until the
bytes it asks for are there. What a read returns on the bytes so far is what it returns on every
longer stream, with the extra bytes left after it, unless it ran out of bytes: every read here
decides on the bytes it consumed (`Streaming`). So a request is never read from a stream that is
cut short inside it (`Request.readFrom_of_cut`). -/

namespace ReadResult

variable {α : Type}

/-- The result of a read of `bs`, as a read of `bs ++ more` returns it. -/
def extend : ReadResult α → Bytes → ReadResult α
  | ok a rest, more => ok a (rest ++ more)
  | err e, _ => err e
  | panic, _ => panic

end ReadResult

/-- A read that decides on the bytes it consumed: bytes after them change only what it leaves,
unless it ran out of bytes. -/
def Streaming {α : Type} (read : Bytes → ReadResult α) : Prop :=
  ∀ bs more, read bs ≠ err .unexpectedEof → read (bs ++ more) = (read bs).extend more

namespace Streaming

variable {α β : Type}

theorem ofIo {read : Bytes → Option (α × Bytes)}
    (h : ∀ {bs a rest} more, read bs = some (a, rest) → read (bs ++ more) = some (a, rest ++ more)) :
    Streaming fun bs => ReadResult.ofIo (read bs) := by
  intro bs more hne
  dsimp only at hne ⊢
  cases hr : read bs with
  | none => rw [hr] at hne; exact absurd rfl hne
  | some r => rw [h more hr]; rfl

theorem ok (a : α) : Streaming fun bs => (ok a bs : ReadResult α) := fun _ _ _ => rfl

theorem err (e : ReadError) : Streaming fun _ => (err e : ReadResult α) := fun _ _ _ => rfl

theorem panic : Streaming fun _ => (panic : ReadResult α) := fun _ _ _ => rfl

theorem ite {c : Prop} [Decidable c] {r₁ r₂ : Bytes → ReadResult α} (h₁ : Streaming r₁)
    (h₂ : Streaming r₂) : Streaming fun bs => if c then r₁ bs else r₂ bs := by
  split_ifs
  · exact h₁
  · exact h₂

/-- Reads that go on from where a first read stopped. -/
theorem bind {r : Bytes → ReadResult α} {f : α → Bytes → ReadResult β} (hr : Streaming r)
    (hf : ∀ a, Streaming (f a)) : Streaming fun bs => (r bs).bind f := by
  intro bs more hne
  dsimp only at hne ⊢
  cases h : r bs with
  | ok a rest =>
    rw [hr bs more (by rw [h]; nofun), h]
    rw [h, ok_bind] at hne
    exact hf a rest more hne
  | err e =>
    rw [h, err_bind] at hne
    rw [hr bs more (by rw [h]; rintro ⟨⟩; exact hne rfl), h]
    rfl
  | panic => rw [hr bs more (by rw [h]; nofun), h]; rfl

end Streaming

theorem streaming_readU8 : Streaming fun bs => ofIo (readU8 bs) :=
  Streaming.ofIo fun more h => readU8_append_of_eq_some more h

theorem streaming_readLe (w : Nat) : Streaming fun bs => ofIo (readLe w bs) :=
  Streaming.ofIo fun more h => readLe_append_of_eq_some more h

theorem streaming_readIpv4Address : Streaming readIpv4Address :=
  Streaming.bind (streaming_readLe 4) fun _ => Streaming.ok _

theorem streaming_readSocketAddr : Streaming readSocketAddr :=
  Streaming.bind streaming_readU8 fun _ => Streaming.bind (streaming_readLe 2) fun _ =>
    Streaming.ite (Streaming.bind streaming_readIpv4Address fun _ => Streaming.ok _)
      (Streaming.ite Streaming.panic (Streaming.err _))

theorem streaming_readObjectIdList : Streaming readObjectIdList :=
  Streaming.bind (streaming_readLe 2) fun _ =>
    Streaming.bind (Streaming.ofIo fun more h => readExact_append_of_eq_some more h) fun _ =>
      Streaming.ok _

theorem PeerRequest.streaming_readFrom : Streaming PeerRequest.readFrom :=
  Streaming.bind streaming_readU8 fun _ =>
    Streaming.ite
      (Streaming.bind streaming_readSocketAddr fun _ =>
        Streaming.bind streaming_readObjectIdList fun _ => Streaming.ok _)
      (Streaming.ite
        (Streaming.bind streaming_readSocketAddr fun _ =>
          Streaming.bind streaming_readObjectIdList fun _ => Streaming.ok _)
        (Streaming.err _))

theorem streaming_readPeerRequests : ∀ n, Streaming (readPeerRequests n)
  | 0 => Streaming.ok _
  | n + 1 => Streaming.bind PeerRequest.streaming_readFrom fun _ =>
    Streaming.bind (streaming_readPeerRequests n) fun _ => Streaming.ok _

/-- Past its type byte, `read_from` decides on the bytes it consumed. -/
theorem Request.streaming_readFrom (t : UInt8) : Streaming fun bs => Request.readFrom (t :: bs) :=
  Streaming.ite
    (Streaming.bind (streaming_readLe 2) fun n =>
      Streaming.bind (streaming_readPeerRequests n) fun _ => Streaming.ok _)
    (Streaming.ite (Streaming.bind streaming_readObjectIdList fun _ => Streaming.ok _)
      (Streaming.ite (Streaming.bind streaming_readObjectIdList fun _ => Streaming.ok _)
        (Streaming.err _)))

/-- `read_from` on a stream that goes on: a request, a refused request type or a panic stays
what it was; only `None`, the end of the stream before a type byte, and running out of bytes,
depend on what comes after. -/
theorem Request.readFrom_append {bs : Bytes} (hne : bs ≠ [])
    (h : Request.readFrom bs ≠ err .unexpectedEof) (more : Bytes) :
    Request.readFrom (bs ++ more) = (Request.readFrom bs).extend more := by
  obtain ⟨t, bs, rfl⟩ := List.exists_cons_of_ne_nil hne
  exact Request.streaming_readFrom t bs more h

theorem Request.readFrom_append_copy :
    [copyTypeId, 1, 0] ++ List.replicate objectIdBytes 0xab ≠ [] ∧
      Request.readFrom ([copyTypeId, 1, 0] ++ List.replicate objectIdBytes 0xab) ≠
        err .unexpectedEof ∧
      Request.readFrom ([copyTypeId, 1, 0] ++ List.replicate objectIdBytes 0xab ++ [takeTypeId]) =
        (Request.readFrom ([copyTypeId, 1, 0] ++ List.replicate objectIdBytes 0xab)).extend
          [takeTypeId] :=
  ⟨by decide, by decide, Request.readFrom_append (by decide) (by decide) [takeTypeId]⟩

/-- A request the peer stopped sending part way is not read: the read runs out of bytes. -/
theorem Request.readFrom_of_cut {r : Request} (hr : r.Fits) {cut more : Bytes}
    (h : cut ++ more = r.writeInto) (hcut : cut ≠ []) (hmore : more ≠ []) :
    Request.readFrom cut = err .unexpectedEof := by
  obtain ⟨t, cut, rfl⟩ := List.exists_cons_of_ne_nil hcut
  by_contra hne
  have hwhole : Request.readFrom (t :: cut ++ more) = (Request.readFrom (t :: cut)).extend more :=
    Request.streaming_readFrom t cut more hne
  rw [h, ← List.append_nil r.writeInto, Request.readFrom_writeInto [] hr] at hwhole
  cases hc : Request.readFrom (t :: cut) with
  | ok o rest =>
    rw [hc, ReadResult.extend, ok.injEq] at hwhole
    exact hmore (List.append_eq_nil.1 hwhole.2.symm).2
  | err e => rw [hc] at hwhole; cases hwhole
  | panic => rw [hc] at hwhole; cases hwhole

end PlasmaStream
