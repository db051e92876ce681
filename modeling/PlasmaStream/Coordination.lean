import PlasmaStream.Errors
import Mathlib.Data.Finset.Basic

/-!
# The receiving and deleting sets

`Store` (`store.rs`) keeps two sets of object ids: `receiving`, shared by all receivers of a
server, and `deleting`, shared by all its senders. `add_to_receiving` and `check_deleting` are
one critical section each: under the set's lock, refuse when some id is already in the set, and
otherwise add the ids (a sender only when `delete_after_send`). Each `Drop` removes the ids (a
sender only when `delete_after_send`), whether or not the check passed.

A task holds the lock for its whole critical section, so a run of any number of receivers or of
senders over one set is a list of `Event`s on a `Pool`: the set and the tasks built over it.

* `Pool.sound_run`: in every reachable pool, every id in the set belongs to a live task whose
  check passed and added it.
* The converse fails: a task refused by its check still removes its ids when dropped, and with
  them an id a live task holds (`receiving_loses_reserved_id`, `deleting_loses_reserved_id`).
* `Store.pools_run`: a `Store` whose receivers and senders run the code's critical sections in
  any interleaving is a run of two pools, one per set, so all of the above holds of the code;
  `Store.reserved_run` states the invariant on the store's own tasks.
-/

namespace PlasmaStream

/-! ## The two critical sections -/

/-- What the check of `add_to_receiving` and of `check_deleting` does: the ids already in the
set, or when there are none, the set with the ids added if `adds` holds. -/
def reserve (set : Finset ObjectId) (objectIds : List ObjectId) (adds : Bool) :
    Except (List ObjectId) (Finset ObjectId) :=
  let taken := objectIds.filter (· ∈ set)
  if taken.isEmpty then .ok (if adds then set ∪ objectIds.toFinset else set) else .error taken

/-- The loop of both `Drop`s: the ids removed from the set, if `removes` holds. -/
def release (set : Finset ObjectId) (objectIds : List ObjectId) (removes : Bool) :
    Finset ObjectId :=
  if removes then set \ objectIds.toFinset else set

/-- `ObjectReceiver`, without the handles to the store and to `receiving`. -/
structure ObjectReceiver where
  peerAddr : SocketAddr
  objectIds : List ObjectId

/-- `ObjectSender`, without the handles to the store and to `deleting`. -/
structure ObjectSender where
  peerAddr : SocketAddr
  objectIds : List ObjectId
  deleteAfterSend : Bool

def ObjectReceiver.addToReceiving (r : ObjectReceiver) (receiving : Finset ObjectId) :
    Except ObjectReceiveError (Finset ObjectId) :=
  (reserve receiving r.objectIds true).mapError (.alreadyReceiving r.peerAddr)

/-- `Drop for ObjectReceiver`. -/
def ObjectReceiver.drop (r : ObjectReceiver) (receiving : Finset ObjectId) : Finset ObjectId :=
  release receiving r.objectIds true

def ObjectSender.checkDeleting (s : ObjectSender) (deleting : Finset ObjectId) :
    Except ObjectSendError (Finset ObjectId) :=
  (reserve deleting s.objectIds s.deleteAfterSend).mapError (.objectDeletionScheduled s.peerAddr)

/-- `Drop for ObjectSender`. -/
def ObjectSender.drop (s : ObjectSender) (deleting : Finset ObjectId) : Finset ObjectId :=
  release deleting s.objectIds s.deleteAfterSend

theorem reserve_eq_ok {set set' : Finset ObjectId} {objectIds : List ObjectId} {adds : Bool} :
    reserve set objectIds adds = .ok set' ↔
      (∀ x ∈ objectIds, x ∉ set) ∧ set' = if adds then set ∪ objectIds.toFinset else set := by
  have hfree : (objectIds.filter (· ∈ set)).isEmpty ↔ ∀ x ∈ objectIds, x ∉ set := by
    simp [List.isEmpty_iff, List.filter_eq_nil_iff]
  unfold reserve
  by_cases h : (objectIds.filter (· ∈ set)).isEmpty
  · simp only [h, if_true, Except.ok.injEq]
    exact ⟨fun e => ⟨hfree.mp h, e.symm⟩, fun ⟨_, e⟩ => e.symm⟩
  · simp only [h, hfree.not.mp h, false_and, iff_false]
    simp

theorem ObjectReceiver.addToReceiving_eq_ok {r : ObjectReceiver}
    {receiving receiving' : Finset ObjectId} :
    r.addToReceiving receiving = .ok receiving' ↔
      reserve receiving r.objectIds true = .ok receiving' := by
  unfold ObjectReceiver.addToReceiving
  cases reserve receiving r.objectIds true <;> simp [Except.mapError]

theorem ObjectSender.checkDeleting_eq_ok {s : ObjectSender} {deleting deleting' : Finset ObjectId} :
    s.checkDeleting deleting = .ok deleting' ↔
      reserve deleting s.objectIds s.deleteAfterSend = .ok deleting' := by
  unfold ObjectSender.checkDeleting
  cases reserve deleting s.objectIds s.deleteAfterSend <;> simp [Except.mapError]

/-- The drop of a receiver whose check added its ids gives back the set the check found. -/
theorem ObjectReceiver.drop_union {r : ObjectReceiver} {receiving : Finset ObjectId}
    (hfree : ∀ x ∈ r.objectIds, x ∉ receiving) :
    r.drop (receiving ∪ r.objectIds.toFinset) = receiving := by
  rw [ObjectReceiver.drop, release, if_pos rfl]
  exact Finset.union_sdiff_cancel_right
    (Finset.disjoint_left.2 fun x hx hx' => hfree x (List.mem_toFinset.1 hx') hx)

theorem release_subset (set : Finset ObjectId) (objectIds : List ObjectId) (removes : Bool) :
    release set objectIds removes ⊆ set := by
  cases removes
  · exact subset_rfl
  · exact Finset.sdiff_subset

/-- A drop undoes what a passed check with the same ids did to the set, whatever the set held. -/
theorem release_reserved (set : Finset ObjectId) (objectIds : List ObjectId) (adds : Bool) :
    release (if adds then set ∪ objectIds.toFinset else set) objectIds adds =
      release set objectIds adds := by
  cases adds
  · rfl
  · exact Finset.union_sdiff_right _ _

/-! ## Pools of tasks over one set -/

/-- Where a receiver or sender is in its life, as its set sees it. -/
inductive Phase where
  | built
  | reserved
  | refused
  | dropped
deriving DecidableEq

/-- A receiver or sender over the set: its ids, whether its check adds them and its drop removes
them (a receiver always; a sender when `delete_after_send`), and its phase. -/
structure Task where
  objectIds : List ObjectId
  adds : Bool
  phase : Phase
deriving DecidableEq

structure Pool where
  set : Finset ObjectId
  tasks : List Task

/-- `Store::new`: the set is empty and no task is built. -/
def Pool.init : Pool := ⟨∅, []⟩

inductive Event where
  /-- `Store::build_receiver` (`adds`) or `Store::build_sender` (`adds = delete_after_send`). -/
  | build (objectIds : List ObjectId) (adds : Bool)
  /-- `add_to_receiving` or `check_deleting` of the `i`-th task. -/
  | check (i : Nat)
  /-- The drop of the `i`-th task. -/
  | drop (i : Nat)

def Pool.step (p : Pool) : Event → Pool
  | .build objectIds adds => { p with tasks := p.tasks ++ [⟨objectIds, adds, .built⟩] }
  | .check i =>
    match p.tasks[i]? with
    | some t =>
      if t.phase = .built then
        match reserve p.set t.objectIds t.adds with
        | .ok set => ⟨set, p.tasks.set i { t with phase := .reserved }⟩
        | .error _ => { p with tasks := p.tasks.set i { t with phase := .refused } }
      else p
    | none => p
  | .drop i =>
    match p.tasks[i]? with
    | some t =>
      if t.phase = .dropped then p
      else ⟨release p.set t.objectIds t.adds, p.tasks.set i { t with phase := .dropped }⟩
    | none => p

def Pool.run (p : Pool) (events : List Event) : Pool := events.foldl Pool.step p

/-- `x` was added by a live task whose check passed. -/
def Pool.Reserves (p : Pool) (x : ObjectId) : Prop :=
  ∃ (j : Nat) (t : Task), p.tasks[j]? = some t ∧ t.phase = .reserved ∧ t.adds = true ∧ x ∈ t.objectIds

/-- Every id in the set is held by a live task whose check passed. -/
def Pool.Sound (p : Pool) : Prop := ∀ x ∈ p.set, p.Reserves x

/-! ## The set holds only reserved ids -/

namespace Pool

variable {p : Pool} {x : ObjectId}

/-- A reservation held by a task other than the `i`-th survives any change to that task. -/
theorem Reserves.set_of_ne {i : Nat} (set : Finset ObjectId) (t' : Task) (h : p.Reserves x)
    (hi : ∀ t, p.tasks[i]? = some t → t.phase = .reserved → t.adds = true → x ∉ t.objectIds) :
    (⟨set, p.tasks.set i t'⟩ : Pool).Reserves x := by
  obtain ⟨j, t, hj, hr, ha, hx⟩ := h
  have hij : i ≠ j := by rintro rfl; exact hi t hj hr ha hx
  exact ⟨j, t, by rw [List.getElem?_set_ne hij]; exact hj, hr, ha, hx⟩

theorem mem_release {set : Finset ObjectId} {objectIds : List ObjectId} {removes : Bool} :
    x ∈ release set objectIds removes ↔ x ∈ set ∧ (removes = true → x ∉ objectIds) := by
  cases removes <;> simp [release]

/-- What a check can do: nothing, or take a built task to reserved (adding its ids when it
adds and none of them is in the set) or to refused. -/
theorem step_check (i : Nat) :
    p.step (.check i) = p ∨ ∃ t, p.tasks[i]? = some t ∧ t.phase = .built ∧
      (((∀ y ∈ t.objectIds, y ∉ p.set) ∧
          p.step (.check i) = ⟨if t.adds then p.set ∪ t.objectIds.toFinset else p.set,
            p.tasks.set i { t with phase := .reserved }⟩) ∨
        p.step (.check i) = ⟨p.set, p.tasks.set i { t with phase := .refused }⟩) := by
  simp only [step]
  split
  · next t hi =>
    split_ifs with hb
    · refine .inr ⟨t, hi, hb, ?_⟩
      split
      · next set hres =>
        obtain ⟨hfree, rfl⟩ := reserve_eq_ok.mp hres
        exact .inl ⟨hfree, rfl⟩
      · exact .inr rfl
    · exact .inl rfl
  · exact .inl rfl

/-- What a drop can do: nothing, or release the ids of a task not yet dropped, whatever its
phase, and mark it dropped. -/
theorem step_drop (i : Nat) :
    p.step (.drop i) = p ∨ ∃ t, p.tasks[i]? = some t ∧
      p.step (.drop i) =
        ⟨release p.set t.objectIds t.adds, p.tasks.set i { t with phase := .dropped }⟩ := by
  simp only [step]
  split
  · next t hi =>
    split_ifs
    · exact .inl rfl
    · exact .inr ⟨t, hi, rfl⟩
  · exact .inl rfl

theorem sound_step (hs : p.Sound) : ∀ e, (p.step e).Sound
  | .build objectIds adds => fun x hx => by
    obtain ⟨j, t, hj, hr⟩ := hs x hx
    exact ⟨j, t, (List.getElem?_append_left (List.getElem?_eq_some_iff.mp hj).1).trans hj, hr⟩
  | .check i => by
    rcases step_check i with h | ⟨t, hi, hb, ⟨-, h⟩ | h⟩ <;> rw [h]
    · exact hs
    · have hlt : i < p.tasks.length := (List.getElem?_eq_some_iff.mp hi).1
      intro y hy
      by_cases hy' : y ∈ p.set
      · exact (hs y hy').set_of_ne _ _ fun t' ht' hr => by simp_all
      · have ha : t.adds = true ∧ y ∈ t.objectIds := by cases ha : t.adds <;> simp_all
        exact ⟨i, _, List.getElem?_set_self hlt, rfl, ha⟩
    · exact fun y hy => (hs y hy).set_of_ne _ _ fun t' ht' hr => by simp_all
  | .drop i => by
    rcases step_drop i with h | ⟨t, hi, h⟩ <;> rw [h]
    · exact hs
    · intro y hy
      obtain ⟨hy, hout⟩ := mem_release.mp hy
      exact (hs y hy).set_of_ne _ _ fun t' ht' _ ha => by simp_all

theorem sound_run (hs : p.Sound) (events : List Event) : (p.run events).Sound := by
  induction events generalizing p with
  | nil => exact hs
  | cons e events ih => exact ih (sound_step hs e)

theorem sound_init : Pool.init.Sound := fun _ h => absurd h (Finset.not_mem_empty _)

/-- The run of the first losing-a-reservation scenario keeps the set sound: what it loses is a
reservation, never an id without one. -/
theorem sound_run_init :
    Pool.init.Sound ∧
      (Pool.init.run [.build [ObjectId.ofBytes []] true, .check 0, .build [ObjectId.ofBytes []] true,
        .check 1, .drop 1]).Sound :=
  ⟨sound_init, sound_run sound_init _⟩

end Pool

/-! ## Losing a reservation -/

/-- A receiver refused by `add_to_receiving` still removes its ids when it is dropped: once a
second receiver of `x` is refused and dropped, `x` is out of `receiving` while the first
receiver still holds it, and a third receiver of `x` passes the check beside the first. -/
theorem receiving_loses_reserved_id (x : ObjectId) :
    x ∉ (Pool.init.run [.build [x] true, .check 0, .build [x] true, .check 1, .drop 1]).set ∧
      (Pool.init.run [.build [x] true, .check 0, .build [x] true, .check 1, .drop 1]).Reserves x ∧
      (Pool.init.run [.build [x] true, .check 0, .build [x] true, .check 1, .drop 1,
        .build [x] true, .check 2]).tasks =
        [⟨[x], true, .reserved⟩, ⟨[x], true, .dropped⟩, ⟨[x], true, .reserved⟩] := by
  refine ⟨?_, ⟨0, ⟨[x], true, .reserved⟩, ?_, rfl, rfl, List.mem_singleton_self x⟩, ?_⟩ <;>
    simp [Pool.run, Pool.step, Pool.init, reserve, release]

/-- The same for senders: a TAKE refused by `check_deleting` removes `x` from `deleting` when
dropped, while the TAKE that scheduled `x` for deletion is alive; a COPY of `x` then passes. -/
theorem deleting_loses_reserved_id (x : ObjectId) :
    x ∉ (Pool.init.run [.build [x] true, .check 0, .build [x] true, .check 1, .drop 1]).set ∧
      (Pool.init.run [.build [x] true, .check 0, .build [x] true, .check 1, .drop 1]).Reserves x ∧
      (Pool.init.run [.build [x] true, .check 0, .build [x] true, .check 1, .drop 1,
        .build [x] false, .check 2]).tasks =
        [⟨[x], true, .reserved⟩, ⟨[x], true, .dropped⟩, ⟨[x], false, .reserved⟩] := by
  refine ⟨?_, ⟨0, ⟨[x], true, .reserved⟩, ?_, rfl, rfl, List.mem_singleton_self x⟩, ?_⟩ <;>
    simp [Pool.run, Pool.step, Pool.init, reserve, release]

/-! ## A store and the tasks built over it

`Store` (`store.rs`) shares its two sets among all the receivers and senders built over it, on
every connection of the server. Each task passes the critical sections of its own code: its
check (`add_to_receiving` in a receiver's `prepare`, `check_deleting` at the head of a sender's
`send_objects`) and its drop. The lock of the set makes each section atomic, so a run of the
server's tasks, however they interleave, is a list of `StoreEvent`s. -/

/-- `Store` with the tasks built over it: its two sets, and each receiver and sender with
where it is in its life. -/
structure Store where
  receiving : Finset ObjectId
  deleting : Finset ObjectId
  receivers : List (ObjectReceiver × Phase)
  senders : List (ObjectSender × Phase)

/-- `Store::new`: both sets are empty and no task is built. -/
def Store.new : Store := ⟨∅, ∅, [], []⟩

inductive StoreEvent where
  | buildReceiver (peerAddr : SocketAddr) (objectIds : List ObjectId)
  | buildSender (peerAddr : SocketAddr) (objectIds : List ObjectId) (deleteAfterSend : Bool)
  /-- `add_to_receiving` of the `i`-th receiver. -/
  | addToReceiving (i : Nat)
  /-- `check_deleting` of the `i`-th sender. -/
  | checkDeleting (i : Nat)
  | dropReceiver (i : Nat)
  | dropSender (i : Nat)

namespace Store

def step (s : Store) : StoreEvent → Store
  | .buildReceiver peerAddr objectIds =>
    { s with receivers := s.receivers ++ [(⟨peerAddr, objectIds⟩, .built)] }
  | .buildSender peerAddr objectIds deleteAfterSend =>
    { s with senders := s.senders ++ [(⟨peerAddr, objectIds, deleteAfterSend⟩, .built)] }
  | .addToReceiving i =>
    match s.receivers[i]? with
    | some (r, phase) =>
      if phase = .built then
        match r.addToReceiving s.receiving with
        | .ok receiving =>
          { s with receiving := receiving, receivers := s.receivers.set i (r, .reserved) }
        | .error _ => { s with receivers := s.receivers.set i (r, .refused) }
      else s
    | none => s
  | .checkDeleting i =>
    match s.senders[i]? with
    | some (t, phase) =>
      if phase = .built then
        match t.checkDeleting s.deleting with
        | .ok deleting => { s with deleting := deleting, senders := s.senders.set i (t, .reserved) }
        | .error _ => { s with senders := s.senders.set i (t, .refused) }
      else s
    | none => s
  | .dropReceiver i =>
    match s.receivers[i]? with
    | some (r, phase) =>
      if phase = .dropped then s
      else { s with receiving := r.drop s.receiving, receivers := s.receivers.set i (r, .dropped) }
    | none => s
  | .dropSender i =>
    match s.senders[i]? with
    | some (t, phase) =>
      if phase = .dropped then s
      else { s with deleting := t.drop s.deleting, senders := s.senders.set i (t, .dropped) }
    | none => s

def run (s : Store) (events : List StoreEvent) : Store := events.foldl step s

/-! ### The two pools of a store -/

/-- `receiving` with the receivers: the check of a receiver always adds its ids. -/
def receivingPool (s : Store) : Pool :=
  ⟨s.receiving, s.receivers.map fun rp => ⟨rp.1.objectIds, true, rp.2⟩⟩

/-- `deleting` with the senders: a sender adds and removes its ids when it deletes after
sending. -/
def deletingPool (s : Store) : Pool :=
  ⟨s.deleting, s.senders.map fun tp => ⟨tp.1.objectIds, tp.1.deleteAfterSend, tp.2⟩⟩

end Store

/-- The event of the `receiving` pool that a store event is, if it reaches that set. -/
def StoreEvent.onReceiving : StoreEvent → Option Event
  | .buildReceiver _ objectIds => some (.build objectIds true)
  | .addToReceiving i => some (.check i)
  | .dropReceiver i => some (.drop i)
  | .buildSender .. | .checkDeleting _ | .dropSender _ => none

/-- The event of the `deleting` pool that a store event is, if it reaches that set. -/
def StoreEvent.onDeleting : StoreEvent → Option Event
  | .buildSender _ objectIds deleteAfterSend => some (.build objectIds deleteAfterSend)
  | .checkDeleting i => some (.check i)
  | .dropSender i => some (.drop i)
  | .buildReceiver .. | .addToReceiving _ | .dropReceiver _ => none

namespace Store

/-- A store's step is its `receiving` pool's step on the event that reaches `receiving`. -/
theorem receivingPool_step (s : Store) : ∀ e : StoreEvent,
    (s.step e).receivingPool = match e.onReceiving with
      | some ev => s.receivingPool.step ev
      | none => s.receivingPool
  | .buildReceiver _ _ => by simp [step, receivingPool, StoreEvent.onReceiving, Pool.step]
  | .addToReceiving i => by
    simp only [step, receivingPool, StoreEvent.onReceiving, Pool.step, List.getElem?_map]
    rcases s.receivers[i]? with _ | ⟨r, phase⟩
    · rfl
    · simp only [Option.map_some']
      split_ifs
      · unfold ObjectReceiver.addToReceiving
        cases reserve s.receiving r.objectIds true <;> simp [Except.mapError, List.map_set]
      · rfl
  | .dropReceiver i => by
    simp only [step, receivingPool, StoreEvent.onReceiving, Pool.step, List.getElem?_map]
    rcases s.receivers[i]? with _ | ⟨r, phase⟩
    · rfl
    · simp only [Option.map_some']
      split_ifs
      · rfl
      · simp [ObjectReceiver.drop, List.map_set]
  | .buildSender .. | .checkDeleting _ | .dropSender _ => by
    simp only [step, StoreEvent.onReceiving]
    repeat' split
    all_goals rfl

/-- A store's step is its `deleting` pool's step on the event that reaches `deleting`. -/
theorem deletingPool_step (s : Store) : ∀ e : StoreEvent,
    (s.step e).deletingPool = match e.onDeleting with
      | some ev => s.deletingPool.step ev
      | none => s.deletingPool
  | .buildSender _ _ _ => by simp [step, deletingPool, StoreEvent.onDeleting, Pool.step]
  | .checkDeleting i => by
    simp only [step, deletingPool, StoreEvent.onDeleting, Pool.step, List.getElem?_map]
    rcases s.senders[i]? with _ | ⟨t, phase⟩
    · rfl
    · simp only [Option.map_some']
      split_ifs
      · unfold ObjectSender.checkDeleting
        cases reserve s.deleting t.objectIds t.deleteAfterSend <;> simp [Except.mapError, List.map_set]
      · rfl
  | .dropSender i => by
    simp only [step, deletingPool, StoreEvent.onDeleting, Pool.step, List.getElem?_map]
    rcases s.senders[i]? with _ | ⟨t, phase⟩
    · rfl
    · simp only [Option.map_some']
      split_ifs
      · rfl
      · simp [ObjectSender.drop, List.map_set]
  | .buildReceiver .. | .addToReceiving _ | .dropReceiver _ => by
    simp only [step, StoreEvent.onDeleting]
    repeat' split
    all_goals rfl

/-- Every interleaving of a store's tasks, as the code runs their critical sections, is a run of
its `receiving` pool and a run of its `deleting` pool, each on the events that reach its set. -/
theorem pools_run (s : Store) (events : List StoreEvent) :
    (s.run events).receivingPool = s.receivingPool.run (events.filterMap StoreEvent.onReceiving) ∧
      (s.run events).deletingPool = s.deletingPool.run (events.filterMap StoreEvent.onDeleting) := by
  induction events generalizing s with
  | nil => exact ⟨rfl, rfl⟩
  | cons e events ih =>
    obtain ⟨hr, hd⟩ := ih (s.step e)
    refine ⟨hr.trans ?_, hd.trans ?_⟩
    · rw [receivingPool_step, List.filterMap_cons]
      cases e.onReceiving <;> rfl
    · rw [deletingPool_step, List.filterMap_cons]
      cases e.onDeleting <;> rfl

/-! ### The sets hold only reserved ids -/

/-- Both pools of the store are sound. -/
def Sound (s : Store) : Prop := s.receivingPool.Sound ∧ s.deletingPool.Sound

theorem Sound.step {s : Store} (hs : s.Sound) (e : StoreEvent) : (s.step e).Sound := by
  refine ⟨?_, ?_⟩
  · rw [receivingPool_step]
    cases e.onReceiving with
    | none => exact hs.1
    | some ev => exact Pool.sound_step hs.1 ev
  · rw [deletingPool_step]
    cases e.onDeleting with
    | none => exact hs.2
    | some ev => exact Pool.sound_step hs.2 ev

theorem Sound.run {s : Store} (hs : s.Sound) (events : List StoreEvent) : (s.run events).Sound := by
  induction events generalizing s with
  | nil => exact hs
  | cons e events ih => exact ih (hs.step e)

theorem reserves_receivingPool {s : Store} {x : ObjectId} :
    s.receivingPool.Reserves x ↔
      ∃ (i : Nat) (r : ObjectReceiver), s.receivers[i]? = some (r, .reserved) ∧ x ∈ r.objectIds := by
  simp only [Pool.Reserves, receivingPool, List.getElem?_map, Option.map_eq_some']
  constructor
  · rintro ⟨i, _, ⟨⟨r, phase⟩, hi, rfl⟩, rfl, -, hx⟩
    exact ⟨i, r, hi, hx⟩
  · rintro ⟨i, r, hi, hx⟩
    exact ⟨i, _, ⟨_, hi, rfl⟩, rfl, rfl, hx⟩

theorem reserves_deletingPool {s : Store} {x : ObjectId} :
    s.deletingPool.Reserves x ↔ ∃ (i : Nat) (t : ObjectSender), s.senders[i]? = some (t, .reserved) ∧
      t.deleteAfterSend = true ∧ x ∈ t.objectIds := by
  simp only [Pool.Reserves, deletingPool, List.getElem?_map, Option.map_eq_some']
  constructor
  · rintro ⟨i, _, ⟨⟨t, phase⟩, hi, rfl⟩, rfl, ha, hx⟩
    exact ⟨i, t, hi, ha, hx⟩
  · rintro ⟨i, t, hi, ha, hx⟩
    exact ⟨i, _, ⟨_, hi, rfl⟩, rfl, ha, hx⟩

/-- However the tasks of a store interleave, every id in `receiving` is held by a live receiver
whose `add_to_receiving` passed, and every id in `deleting` by a live sender that deletes after
sending and whose `check_deleting` passed. -/
theorem reserved_run (events : List StoreEvent) :
    (∀ x ∈ (Store.new.run events).receiving, ∃ (i : Nat) (r : ObjectReceiver),
        (Store.new.run events).receivers[i]? = some (r, .reserved) ∧ x ∈ r.objectIds) ∧
      ∀ x ∈ (Store.new.run events).deleting, ∃ (i : Nat) (t : ObjectSender),
        (Store.new.run events).senders[i]? = some (t, .reserved) ∧ t.deleteAfterSend = true ∧
          x ∈ t.objectIds := by
  obtain ⟨hr, hd⟩ := Sound.run (⟨Pool.sound_init, Pool.sound_init⟩ : Store.new.Sound) events
  exact ⟨fun x hx => reserves_receivingPool.1 (hr x hx), fun x hx => reserves_deletingPool.1 (hd x hx)⟩

end Store

end PlasmaStream
