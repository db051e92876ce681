import PlasmaStream.Errors

/-!
# The Plasma store, as a client sees it

`plasma-store/src/lib.rs` wraps a client of the Plasma store daemon. The daemon is outside this
repository; its behaviour here is what the wrapper's doc comments state: `create` allocates an
unsealed object and fails with `AlreadyExists` if the id is taken, `seal` makes it immutable and
visible, `contains` and `get` see sealed objects only, and `delete` removes an object only when
it "is present, has been sealed and not used by another client. Otherwise, it is a no
operation."

A store call may also fail for reasons of the daemon's own (memory, its socket). Which calls do is
not a function of the objects, so every call that can fail this way takes a flag, and a run of a
sender or receiver takes the flags of all its calls as `StoreFaults`.
-/

namespace PlasmaStream

/-- An object of the store: metadata, data, whether it is sealed, and whether a client other
than the server is holding it. -/
structure PlasmaObject where
  metadata : Bytes
  data : Bytes
  sealed : Bool
  inUse : Bool
deriving DecidableEq

/-- The objects of a store, by id. -/
@[ext] structure Plasma where
  objects : ObjectId → Option PlasmaObject

/-- `ObjectBuffer` as a reader of it sees it: the id, the metadata and the data. -/
structure ObjectBuffer where
  id : ObjectId
  metadata : Bytes
  data : Bytes
deriving DecidableEq

/-- Which calls of a run the store fails on its own, by the id they are about. -/
structure StoreFaults where
  get : ObjectId → Bool
  create : ObjectId → Bool
  «seal» : ObjectId → Bool
  contains : ObjectId → Bool
  delete : ObjectId → Bool

/-- A store that answers every call as its objects dictate. -/
def StoreFaults.none : StoreFaults :=
  ⟨fun _ => false, fun _ => false, fun _ => false, fun _ => false, fun _ => false⟩

/-- The ids `delete_many` gets through: those before the first whose `delete` the store fails. -/
def StoreFaults.deleted (faults : StoreFaults) (objectIds : List ObjectId) : List ObjectId :=
  objectIds.takeWhile fun x => !faults.delete x

@[simp] theorem StoreFaults.deleted_none (objectIds : List ObjectId) :
    StoreFaults.none.deleted objectIds = objectIds :=
  List.takeWhile_eq_self_iff.2 fun _ _ => rfl

/-- On a prefix of a list, `delete_many` gets through the ids of the prefix that it gets through
on the whole list. -/
theorem StoreFaults.mem_deleted_of_append {faults : StoreFaults} {l₁ l₂ : List ObjectId}
    {x : ObjectId} (h : x ∈ faults.deleted (l₁ ++ l₂)) (hx : x ∈ l₁) : x ∈ faults.deleted l₁ := by
  unfold deleted at *
  rw [List.takeWhile_append] at h
  split at h
  · next hlen => rwa [(List.takeWhile_prefix _).eq_of_length hlen]
  · exact h

namespace Plasma

/-- A store holding no object. -/
def empty : Plasma := ⟨fun _ => none⟩

/-- The store with `oid` set to `o`. -/
def put (s : Plasma) (oid : ObjectId) (o : Option PlasmaObject) : Plasma :=
  ⟨fun x => if x = oid then o else s.objects x⟩

/-- `contains`: the object is present and sealed. -/
def contains (s : Plasma) (oid : ObjectId) : Bool :=
  match s.objects oid with
  | some o => o.sealed
  | none => false

/-- `contains_many`: one `contains` after the other, stopping at the first the store fails; the
ids whose objects are present and sealed. -/
def containsMany (s : Plasma) (faults : StoreFaults) :
    List ObjectId → Except PlasmaError (List ObjectId)
  | [] => .ok []
  | oid :: rest =>
    if faults.contains oid then .error (.unknownError "contains failed")
    else (s.containsMany faults rest).map fun found => if s.contains oid then oid :: found else found

/-- The buffer `get` returns for `oid`: the object once it is sealed, `None` otherwise. -/
def buffer (s : Plasma) (oid : ObjectId) : Option ObjectBuffer :=
  match s.objects oid with
  | some o => if o.sealed then some ⟨oid, o.metadata, o.data⟩ else none
  | none => none

/-- `get` with a timeout: `None` for an object not sealed in time. -/
def get (s : Plasma) (oid : ObjectId) (fails : Bool) : Except PlasmaError (Option ObjectBuffer) :=
  if fails then .error (.unknownError "get failed") else .ok (s.buffer oid)

/-- `get_many`: one `get` after the other, stopping at the first that fails. -/
def getMany (s : Plasma) (faults : StoreFaults) :
    List ObjectId → Except PlasmaError (List (Option ObjectBuffer))
  | [] => .ok []
  | oid :: rest => do
    let ob ← s.get oid (faults.get oid)
    let obs ← s.getMany faults rest
    return ob :: obs

/-- `create`: a new unsealed object with `dataSize` bytes of data to be written. -/
def create (s : Plasma) (oid : ObjectId) (dataSize : Nat) (metadata : Bytes) (fails : Bool) :
    Except PlasmaError Plasma :=
  if (s.objects oid).isSome then .error .alreadyExists
  else if fails then .error (.unknownError "create failed")
  else .ok (s.put oid (some ⟨metadata, List.replicate dataSize 0, false, false⟩))

/-- The data buffer of an unsealed object, as `read_exact` fills it through `data_mut`. -/
def writeData (s : Plasma) (oid : ObjectId) (data : Bytes) : Plasma :=
  match s.objects oid with
  | some o => s.put oid (some { o with data := data })
  | none => s

def «seal» (s : Plasma) (oid : ObjectId) (fails : Bool) : Except PlasmaError Plasma :=
  match s.objects oid with
  | some o =>
    if o.sealed then .error .alreadySealed
    else if fails then .error (.unknownError "seal failed")
    else .ok (s.put oid (some { o with sealed := true }))
  | none => .error (.unknownError "object not found")

/-- `create_and_seal`, the call another client makes to store an object in one step. -/
def createAndSeal (s : Plasma) (oid : ObjectId) (data metadata : Bytes) :
    Except PlasmaError Plasma :=
  if (s.objects oid).isSome then .error .alreadyExists
  else .ok (s.put oid (some ⟨metadata, data, true, false⟩))

/-- `delete`: removes the object if it is present, sealed and not used by another client;
otherwise it does nothing. -/
def delete (s : Plasma) (oid : ObjectId) : Plasma :=
  match s.objects oid with
  | some o => if o.sealed ∧ !o.inUse then s.put oid none else s
  | none => s

/-- `delete_many`: one `delete` after the other, stopping at the first the store fails. The
deletes before it stay done, so the call gives the store it leaves along with its result. -/
def deleteMany (s : Plasma) (faults : StoreFaults) :
    List ObjectId → Except PlasmaError Unit × Plasma
  | [] => (.ok (), s)
  | oid :: rest =>
    if faults.delete oid then (.error (.unknownError "delete failed"), s)
    else (s.delete oid).deleteMany faults rest

@[simp] theorem put_objects (s : Plasma) (oid x : ObjectId) (o : Option PlasmaObject) :
    (s.put oid o).objects x = if x = oid then o else s.objects x := rfl

theorem contains_eq_false {s : Plasma} {x : ObjectId} :
    s.contains x = false ↔ ∀ o, s.objects x = some o → o.sealed = false := by
  unfold contains
  cases s.objects x <;> simp

@[simp] theorem put_put (s : Plasma) (oid : ObjectId) (o o' : Option PlasmaObject) :
    (s.put oid o).put oid o' = s.put oid o' := by
  ext1; funext x; by_cases h : x = oid <;> simp [h]

/-- `create` succeeds exactly on an id that is free, when the store does not fail. -/
theorem create_eq_ok {s s' : Plasma} {oid : ObjectId} {dataSize : Nat} {metadata : Bytes}
    {fails : Bool} :
    s.create oid dataSize metadata fails = .ok s' ↔
      s.objects oid = none ∧ fails = false ∧
        s' = s.put oid (some ⟨metadata, List.replicate dataSize 0, false, false⟩) := by
  unfold create
  cases h : s.objects oid <;> cases fails <;> simp [eq_comm]

@[simp] theorem writeData_put (s : Plasma) (oid : ObjectId) (o : PlasmaObject) (data : Bytes) :
    (s.put oid (some o)).writeData oid data = s.put oid (some { o with data := data }) := by
  simp [writeData]

/-- `seal` of an unsealed object succeeds unless the store fails. -/
theorem seal_put_unsealed {s s' : Plasma} {oid : ObjectId} {o : PlasmaObject} {fails : Bool}
    (ho : o.sealed = false) :
    (s.put oid (some o)).seal oid fails = .ok s' ↔
      fails = false ∧ s' = s.put oid (some { o with sealed := true }) := by
  cases fails <;> simp [«seal», ho, eq_comm]

theorem delete_objects_of_ne {s : Plasma} {oid x : ObjectId} (h : x ≠ oid) :
    (s.delete oid).objects x = s.objects x := by
  unfold delete
  split
  · split_ifs <;> simp [h]
  · rfl

/-- An object `delete` removes: present, sealed, and not held by another client. -/
def Deletable (o : Option PlasmaObject) : Bool := o.any fun o => o.sealed && !o.inUse

@[simp] theorem deletable_none : Deletable none = false := rfl

theorem delete_objects (s : Plasma) (oid x : ObjectId) :
    (s.delete oid).objects x = if x = oid ∧ Deletable (s.objects x) then none else s.objects x := by
  by_cases hx : x = oid
  · subst hx
    unfold delete
    cases h : s.objects x with
    | none => simp [h]
    | some o => cases hs : o.sealed <;> cases hu : o.inUse <;> simp [h, hs, hu, Deletable]
  · simp [hx, delete_objects_of_ne hx]

/-- `delete_many` removes each object that `delete` would, up to the first delete the store
fails, and leaves the rest. -/
theorem deleteMany_objects (s : Plasma) (faults : StoreFaults) (objectIds : List ObjectId)
    (x : ObjectId) :
    (s.deleteMany faults objectIds).2.objects x =
      if x ∈ faults.deleted objectIds ∧ Deletable (s.objects x) then none else s.objects x := by
  induction objectIds generalizing s with
  | nil => simp [deleteMany, StoreFaults.deleted]
  | cons oid rest ih =>
    cases hf : faults.delete oid
    · rw [deleteMany, if_neg (by simp [hf]), ih, delete_objects]
      by_cases hx : x = oid
      · subst hx
        by_cases hd : Deletable (s.objects x) <;> simp [hd, hf, StoreFaults.deleted]
      · simp [hx, hf, StoreFaults.deleted]
    · simp [deleteMany, hf, StoreFaults.deleted]

theorem deleteMany_objects_of_not_mem (s : Plasma) (faults : StoreFaults)
    {objectIds : List ObjectId} {x : ObjectId} (hx : x ∉ objectIds) :
    (s.deleteMany faults objectIds).2.objects x = s.objects x := by
  rw [deleteMany_objects, if_neg fun h => hx (List.takeWhile_subset _ h.1)]

/-- After `delete_many`, an id is free or unsealed if `delete_many` got to it and it was
deletable, or was already free or unsealed. -/
theorem contains_deleteMany_eq_false {s : Plasma} {faults : StoreFaults}
    {objectIds : List ObjectId} {x : ObjectId}
    (h : x ∈ faults.deleted objectIds ∧ Deletable (s.objects x) ∨ s.contains x = false) :
    (s.deleteMany faults objectIds).2.contains x = false := by
  rw [contains_eq_false, deleteMany_objects]
  split_ifs with hd
  · simp
  · exact contains_eq_false.1 (h.resolve_left hd)

theorem buffer_of_sealed {s : Plasma} {x : ObjectId} {o : PlasmaObject} (h : s.objects x = some o)
    (hs : o.sealed = true) : s.buffer x = some ⟨x, o.metadata, o.data⟩ := by
  simp [buffer, h, hs]

theorem buffer_eq_some {s : Plasma} {x : ObjectId} {ob : ObjectBuffer} (h : s.buffer x = some ob) :
    ∃ o, s.objects x = some o ∧ o.sealed = true ∧ ob = ⟨x, o.metadata, o.data⟩ := by
  unfold buffer at h
  split at h
  · next o ho => split_ifs at h with hs; cases h; exact ⟨o, ho, hs, rfl⟩
  · cases h

/-- The buffers `get` returns for ids that are all sealed, one for each id, in order. -/
theorem map_id_filterMap_buffer {s : Plasma} :
    ∀ {objectIds : List ObjectId}, (∀ x ∈ objectIds, (s.buffer x).isSome) →
      (objectIds.filterMap s.buffer).map ObjectBuffer.id = objectIds
  | [], _ => rfl
  | x :: rest, h => by
    obtain ⟨ob, hob⟩ := Option.isSome_iff_exists.1 (h x (List.mem_cons_self _ _))
    obtain ⟨_, -, -, rfl⟩ := buffer_eq_some hob
    rw [List.filterMap_cons_some hob, List.map_cons,
      map_id_filterMap_buffer fun y hy => h y (List.mem_cons_of_mem _ hy)]

theorem getMany_eq_ok {s : Plasma} {faults : StoreFaults} :
    ∀ {objectIds : List ObjectId} {obs : List (Option ObjectBuffer)},
      s.getMany faults objectIds = .ok obs →
        (∀ x ∈ objectIds, faults.get x = false) ∧ obs = objectIds.map s.buffer
  | [], obs, h => by cases h; simp
  | oid :: rest, obs, h => by
    cases hf : faults.get oid
    · cases hr : s.getMany faults rest with
      | error e => simp [getMany, get, hf, hr, bind, Except.bind] at h
      | ok obs' =>
        obtain ⟨hfs, rfl⟩ := getMany_eq_ok hr
        simp only [getMany, get, hf, hr, bind, Except.bind, pure, Except.pure] at h
        cases h
        simp_all
    · simp [getMany, get, hf, bind, Except.bind] at h

theorem getMany_of_no_faults {s : Plasma} {faults : StoreFaults} :
    ∀ {objectIds : List ObjectId}, (∀ x ∈ objectIds, faults.get x = false) →
      s.getMany faults objectIds = .ok (objectIds.map s.buffer)
  | [], _ => rfl
  | oid :: rest, h => by
    simp only [List.mem_cons, forall_eq_or_imp] at h
    simp [getMany, get, h.1, getMany_of_no_faults h.2, bind, Except.bind, pure, Except.pure]

end Plasma

end PlasmaStream
