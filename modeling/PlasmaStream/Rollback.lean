import PlasmaStream.Receiver

/-!
# Rolling back a failed receive

On a failure at object `i`, `ObjectReceiver::run` deletes `object_ids[..=i]` "to return to
pre-request state", ignoring the result. The store's `delete` removes sealed objects only, and is
a no operation otherwise.

* `ObjectReceiver.run_error_seals_none`: on a store that held none of the ids, and that no other
  client touches, a failed run leaves none of the ids sealed and every other object as it was.
* `failed_receive_leaves_unsealed_object`: it does not leave the store as it found it. When the
  data of object `i` does not arrive after its `create`, the object stays in the store,
  unsealed: `delete` skips it, and nothing calls `abort`.
* `rollback_deletes_other_clients_object`: the rollback deletes `object_ids[i]` also when this run
  did not create it. If another client stores the object between `prepare` and the failure,
  the rollback deletes that client's object.
-/

namespace PlasmaStream

section Rollback

variable {faults : StoreFaults} {peer : SocketAddr} {e : ObjectReceiveError}

/-- The loop's invariant: the ids received so far are sealed and deletable, the others are as
in `s₀`, and those still to come were free there. A failure then leaves none of the ids sealed. -/
theorem receiveObjects_error (s₀ : Plasma) :
    ∀ {received rest : List ObjectId} {n n' : Node},
      receiveObjects faults peer received rest n = .error e n' →
      (∀ x ∈ received, Plasma.Deletable (n.store.objects x)) →
      (∀ x, x ∉ received → n.store.objects x = s₀.objects x) →
      (∀ x ∈ rest, x ∉ received → s₀.objects x = none) →
      (∀ x ∈ faults.deleted (received ++ rest), n'.store.contains x = false) ∧
        ∀ x, x ∉ received ++ rest → n'.store.objects x = s₀.objects x
  | _, [], _, _, h, _, _, _ => by cases h
  | received, oid :: rest, n, n', h, hrec, hout, hfree => by
    cases h₁ : receiveObject faults oid peer n with
    | ok _ n₁ =>
      rw [receiveObjects_cons_of_ok h₁] at h
      obtain ⟨_, _, _, -, -, -, -, -, -, -, -, -, hstore⟩ := receiveObject_eq_ok h₁
      have := receiveObjects_error s₀ h (fun x hx => ?_) (fun x hx => ?_) (fun x hx hx' => ?_)
      · simpa only [List.append_assoc, List.singleton_append] using this
      all_goals simp only [List.mem_append, List.mem_singleton, not_or] at hx
      · rw [hstore, Plasma.put_objects]
        split_ifs with hxo
        · rfl
        · exact hrec x (hx.resolve_right hxo)
      · rw [hstore, Plasma.put_objects, if_neg hx.2, hout x hx.1]
      · simp only [List.mem_append, List.mem_singleton, not_or] at hx'
        exact hfree x (List.mem_cons_of_mem _ hx) hx'.1
    | error e₁ n₁ =>
      rw [receiveObjects_cons_of_error h₁] at h
      cases h
      refine ⟨fun x hx => Plasma.contains_deleteMany_eq_false ?_, fun x hx => ?_⟩
      · rcases receiveObject_error_objects h₁ x with hs | ⟨-, hs⟩
        · by_cases hxr : x ∈ received
          · have hx' : x ∈ faults.deleted ((received ++ [oid]) ++ rest) := by
              simpa only [List.append_assoc, List.singleton_append] using hx
            exact .inl ⟨StoreFaults.mem_deleted_of_append hx' (List.mem_append_left _ hxr),
              hs ▸ hrec x hxr⟩
          · have hx' : x ∈ oid :: rest := by
              simpa [hxr] using List.takeWhile_subset _ hx
            exact .inr (by simp [Plasma.contains, hs, hout x hxr, hfree x hx' hxr])
        · exact .inr hs
      · simp only [List.mem_append, List.mem_cons, not_or] at hx
        rw [Plasma.deleteMany_objects, if_neg fun h => (List.mem_append.1
          (List.takeWhile_subset _ h.1)).elim hx.1 fun h' => hx.2.1 (List.mem_singleton.1 h')]
        rcases receiveObject_error_objects h₁ x with hs | ⟨hxo, -⟩
        · rw [hs, hout x hx.1]
        · exact absurd hxo hx.2.1

/-- A failed run, on a store that held none of the ids and that no other client touches, leaves
none of them sealed up to the first whose `delete` the store fails (none at all when it fails
no delete), and every other object as it was. -/
theorem ObjectReceiver.run_error_seals_none {r : ObjectReceiver} {n n' : Node}
    (hfree : ∀ x ∈ r.objectIds, n.store.objects x = none) (h : r.run faults peer n = .error e n') :
    (∀ x ∈ faults.deleted r.objectIds, n'.store.contains x = false) ∧
      ∀ x, x ∉ r.objectIds → n'.store.objects x = n.store.objects x := by
  rcases ObjectReceiver.run_eq_error h with hs | ⟨rest', -, h⟩
  · exact ⟨fun x hx => by simp [Plasma.contains, hs, hfree x (List.takeWhile_subset _ hx)],
      fun x _ => by rw [hs]⟩
  · simpa using receiveObjects_error n.store h (fun x hx => absurd hx (List.not_mem_nil x))
      (fun x _ => rfl) (fun x hx _ => hfree x hx)

/-- The run of `failed_receive_leaves_unsealed_object`: the object it created is left unsealed,
and so not sealed. -/
theorem ObjectReceiver.run_error_seals_none_of_cut_data :
    (∀ x ∈ [ObjectId.ofBytes []], Plasma.empty.objects x = none) ∧
      (ObjectReceiver.mk (.v4 ⟨[10, 0, 0, 2], rfl⟩ 2021) [ObjectId.ofBytes []]).run StoreFaults.none
          (.v4 ⟨[10, 0, 0, 2], rfl⟩ 2021)
          ⟨Plasma.empty, [StatusCodes.begin, 0, 0, 1, 0, 0, 0, 0, 0]⟩ =
        .error (.connectionError (some (.v4 ⟨[10, 0, 0, 2], rfl⟩ 2021)) .unexpectedEof)
          ⟨Plasma.empty.put (ObjectId.ofBytes []) (some ⟨[], [0], false, false⟩), []⟩ ∧
      (∀ x ∈ StoreFaults.none.deleted [ObjectId.ofBytes []],
        (Plasma.empty.put (ObjectId.ofBytes []) (some ⟨[], [0], false, false⟩)).contains x = false) ∧
      ∀ x, x ∉ [ObjectId.ofBytes []] →
        (Plasma.empty.put (ObjectId.ofBytes []) (some ⟨[], [0], false, false⟩)).objects x =
          Plasma.empty.objects x := by
  have h : (ObjectReceiver.mk (.v4 ⟨[10, 0, 0, 2], rfl⟩ 2021) [ObjectId.ofBytes []]).run
      StoreFaults.none (.v4 ⟨[10, 0, 0, 2], rfl⟩ 2021)
      ⟨Plasma.empty, [StatusCodes.begin, 0, 0, 1, 0, 0, 0, 0, 0]⟩ =
        .error (.connectionError (some (.v4 ⟨[10, 0, 0, 2], rfl⟩ 2021)) .unexpectedEof)
          ⟨Plasma.empty.put (ObjectId.ofBytes []) (some ⟨[], [0], false, false⟩), []⟩ := rfl
  exact ⟨fun _ _ => rfl, h, ObjectReceiver.run_error_seals_none (fun _ _ => rfl) h⟩

end Rollback

/-! ## What the rollback misses, and what it deletes -/

/-- A peer that sends `BEGIN` and the header of an object with no metadata and one byte of data,
and then closes the connection: the run fails, and the object it created stays, unsealed. -/
theorem failed_receive_leaves_unsealed_object (x : ObjectId) (peer : SocketAddr) :
    ∃ n', (ObjectReceiver.mk peer [x]).run StoreFaults.none peer
        ⟨Plasma.empty, [StatusCodes.begin, 0, 0, 1, 0, 0, 0, 0, 0]⟩ =
        .error (.connectionError (some peer) .unexpectedEof) n' ∧
      n'.store.objects x = some ⟨[], [0], false, false⟩ := by
  refine ⟨_, rfl, ?_⟩
  simp [Plasma.deleteMany_objects, Plasma.Deletable, Plasma.writeData, Plasma.empty]
  decide

/-- `prepare` passes on a store without `x`; another client then stores `x`, sealed; the peer
sends `BEGIN` and closes the connection. The run fails before it creates anything, and its
rollback deletes the other client's object. -/
theorem rollback_deletes_other_clients_object (x : ObjectId) (peer : SocketAddr)
    (data metadata : Bytes) :
    (ObjectReceiver.mk peer [x]).prepare StoreFaults.none Plasma.empty ∅ = .ok () {x} ∧
      ∃ s n', Plasma.empty.createAndSeal x data metadata = .ok s ∧
        s.objects x = some ⟨metadata, data, true, false⟩ ∧
        (ObjectReceiver.mk peer [x]).run StoreFaults.none peer ⟨s, [StatusCodes.begin]⟩ =
          .error (.connectionError (some peer) .unexpectedEof) n' ∧
        n'.store.objects x = none := by
  refine ⟨?_, _, _, rfl, by simp [Plasma.empty], rfl, ?_⟩
  · simp [ObjectReceiver.prepare, ObjectReceiver.addToReceiving, reserve, Plasma.containsMany,
      Plasma.contains, Plasma.empty, Except.mapError, Except.map, StoreFaults.none]
  · simp [Plasma.deleteMany_objects, Plasma.Deletable, Plasma.empty]

end PlasmaStream
