import PlasmaStream.Errors

/-!
# The life of a store buffer

`plasma-store/src/lib.rs`: an `ObjectBuffer` holds a reference to an object of the store, taken
by `PlasmaClient::create` (the buffer is mutable) or `PlasmaClient::get` (it is not). `seal`
makes it immutable; `abort` takes the buffer, releases the reference and aborts the object;
`Drop` releases the reference unless `abort` set `is_aborted`, and panics if the release fails.

The store's answers are the environment: the `n`-th call a buffer makes gets `answer n`, so a
statement over every `answer` is over every way the daemon can answer, failures included.

* `BufferLife.live_releases`: every life makes one release call, or two, and two only when one
  of its calls failed.
* `abort_failure_releases_twice`: a mutable buffer whose `abort` call fails after the release
  succeeded is released again by `Drop`, and the store answers both releases `OK`.
-/

namespace PlasmaStream

/-- `plasma::StatusCode`, as the buffer's methods tell its values apart: `OK`, `TypeError`, and
the others, which they treat alike. -/
inductive StatusCode where
  | ok
  | typeError
  | other
deriving DecidableEq

/-- `ArrowStatus`: the code and the message of an answer of the store. -/
structure Status where
  code : StatusCode
  msg : String
deriving DecidableEq

/-- The store calls a buffer makes about its object. -/
inductive StoreCall where
  | «seal»
  | release
  | abort
deriving DecidableEq

/-- A buffer over its life: the two flags of `ObjectBuffer`, and the calls it has made to the
store, each with the store's answer. -/
structure BufferLife where
  isMutable : Bool
  isAborted : Bool
  calls : List (StoreCall × Status)

namespace BufferLife

variable (answer : Nat → Status)

/-- `ObjectBuffer::new`, as `create` (mutable) and `get` (not) call it. -/
def new (isMutable : Bool) : BufferLife := ⟨isMutable, false, []⟩

/-- The buffer's next call to the store, `c`, recorded with the store's answer to it. -/
def record (l : BufferLife) (c : StoreCall) : BufferLife :=
  { l with calls := l.calls ++ [(c, answer l.calls.length)] }

/-- `seal`. -/
def «seal» (l : BufferLife) : Except PlasmaError Unit × BufferLife :=
  let status := answer l.calls.length
  let l := l.record answer .seal
  match status.code with
  | .ok => (.ok (), { l with isMutable := false })
  | .typeError => (.error .alreadySealed, l)
  | .other => (.error (.unknownError status.msg), l)

/-- `Drop for ObjectBuffer`: release the reference unless `abort` did; a failed release is a
panic, with the message the source gives it. -/
def drop (l : BufferLife) : Except String Unit × BufferLife :=
  if l.isAborted then (.ok (), l)
  else
    let status := answer l.calls.length
    let l := l.record answer .release
    match status.code with
    | .ok => (.ok (), l)
    | _ => (.error ("failed to release object buffer: " ++ status.msg), l)

/-- The body of `abort`, up to its return. -/
def abortBody (l : BufferLife) : Except PlasmaError Unit × BufferLife :=
  if !l.isMutable then (.error .notMutable, l)
  else
    let status := answer l.calls.length
    let l₁ := l.record answer .release
    match status.code with
    | .ok =>
      let status := answer l₁.calls.length
      let l₂ := l₁.record answer .abort
      match status.code with
      | .ok => (.ok (), { l₂ with isAborted := true })
      | _ => (.error (.unknownError status.msg), l₂)
    | _ => (.error (.unknownError ("release failed: " ++ status.msg)), l₁)

/-- `abort(mut self)`: its body, then the drop of `self` as the body ends. -/
def abort (l : BufferLife) : (Except PlasmaError Unit × Except String Unit) × BufferLife :=
  let body := l.abortBody answer
  let dropped := body.2.drop answer
  ((body.1, dropped.1), dropped.2)

end BufferLife

/-- What the holder of a buffer does with it: `seal` it, or `abort` it, which takes it. -/
inductive BufferUse where
  | «seal»
  | abort

namespace BufferLife

variable (answer : Nat → Status)

/-- A buffer's life from `l`: its uses in order, up to an `abort`, which consumes the buffer
(the borrow checker allows no use after it); without one, the buffer is dropped at the end. -/
def live : BufferLife → List BufferUse → BufferLife
  | l, [] => (l.drop answer).2
  | l, .seal :: rest => live (l.seal answer).2 rest
  | l, .abort :: _ => (l.abort answer).2

/-- The release calls a buffer has made. -/
def releases (l : BufferLife) : Nat := l.calls.countP (·.1 = .release)

end BufferLife

/-! ## Release calls -/

namespace BufferLife

variable (answer : Nat → Status) {l : BufferLife}

/-- `l'` is `l` with calls added: one release among them, or two and a call the store failed. -/
def AddsReleases (l l' : BufferLife) : Prop :=
  ∃ new, l'.calls = l.calls ++ new ∧
    (new.countP (·.1 = .release) = 1 ∨
      new.countP (·.1 = .release) = 2 ∧ ∃ c ∈ new, c.2.code ≠ .ok)

theorem seal_isAborted : (l.seal answer).2.isAborted = l.isAborted := by
  unfold BufferLife.seal
  dsimp only
  split <;> rfl

theorem seal_calls : (l.seal answer).2.calls = l.calls ++ [(.seal, answer l.calls.length)] := by
  unfold BufferLife.seal
  dsimp only
  split <;> rfl

theorem drop_calls (h : l.isAborted = false) :
    (l.drop answer).2.calls = l.calls ++ [(.release, answer l.calls.length)] := by
  unfold drop
  rw [if_neg (by simp [h])]
  dsimp only
  split <;> rfl

theorem drop_of_isAborted (h : l.isAborted = true) : l.drop answer = (.ok (), l) := by
  simp [drop, h]

theorem drop_adds (h : l.isAborted = false) : AddsReleases l (l.drop answer).2 :=
  ⟨_, drop_calls answer h, .inl rfl⟩

/-- `abort` on a mutable buffer: the release, then the abort if the release succeeded, then
`Drop`'s release unless the abort succeeded too. -/
theorem abort_adds (h : l.isAborted = false) : AddsReleases l (l.abort answer).2 := by
  unfold abort abortBody
  cases hm : l.isMutable
  · simpa using drop_adds answer h
  rw [if_neg (by simp)]
  dsimp only
  split
  · next hok =>
    split
    · next hok₂ =>
      refine ⟨[(.release, answer l.calls.length), (.abort, answer (l.calls.length + 1))], ?_,
        .inl (by simp)⟩
      rw [drop_of_isAborted answer rfl]
      simp [record]
    · next hfail =>
      refine ⟨[(.release, answer l.calls.length), (.abort, answer (l.calls.length + 1)),
        (.release, answer (l.calls.length + 2))], ?_,
        .inr ⟨by simp, (.abort, answer (l.calls.length + 1)), by simp,
          by simpa [record] using hfail⟩⟩
      rw [drop_calls answer (by simp [record, h])]
      simp [record]
  · next hfail =>
    refine ⟨[(.release, answer l.calls.length), (.release, answer (l.calls.length + 1))], ?_,
      .inr ⟨by simp, _, List.mem_cons_self _ _, hfail⟩⟩
    rw [drop_calls answer (by simp [record, h])]
    simp [record]

/-- Every life of a buffer not yet aborted adds one release call, or two and a failed call. -/
theorem live_adds : ∀ (uses : List BufferUse) {l : BufferLife}, l.isAborted = false →
    AddsReleases l (l.live answer uses)
  | [], l, h => drop_adds answer h
  | .seal :: rest, l, h => by
    obtain ⟨added, hcalls, hcount⟩ :=
      live_adds rest (l := (l.seal answer).2) (by rw [seal_isAborted, h])
    refine ⟨(.seal, answer l.calls.length) :: added, ?_, ?_⟩
    · rw [live, hcalls, seal_calls]
      simp
    · rcases hcount with h₁ | ⟨h₂, c, hc, hfail⟩
      · exact .inl (by simpa using h₁)
      · exact .inr ⟨by simpa using h₂, c, List.mem_cons_of_mem _ hc, hfail⟩
  | .abort :: _, l, h => abort_adds answer h

/-- A buffer from `create` or `get`, whatever its holder does with it and however the store
answers, calls `release` once, or twice when one of its calls failed. -/
theorem live_releases (isMutable : Bool) (uses : List BufferUse) :
    ((new isMutable).live answer uses).releases = 1 ∨
      (((new isMutable).live answer uses).releases = 2 ∧
        ∃ c ∈ ((new isMutable).live answer uses).calls, c.2.code ≠ .ok) := by
  obtain ⟨added, hcalls, hcount⟩ := live_adds answer uses (l := new isMutable) rfl
  rw [releases, hcalls]
  simpa only [BufferLife.new, List.nil_append] using hcount

end BufferLife

/-- A buffer from `create` whose `abort` call fails after its release succeeded: `abort`
returns the error, and `Drop` releases the buffer a second time; the store answers both
releases `OK`. -/
theorem abort_failure_releases_twice :
    ((BufferLife.new true).abort
        (fun n => if n = 1 then ⟨.other, "abort failed"⟩ else ⟨.ok, ""⟩)).1 =
      (.error (.unknownError "abort failed"), .ok ()) ∧
    ((BufferLife.new true).live
        (fun n => if n = 1 then ⟨.other, "abort failed"⟩ else ⟨.ok, ""⟩) [.abort]).calls =
      [(.release, ⟨.ok, ""⟩), (.abort, ⟨.other, "abort failed"⟩), (.release, ⟨.ok, ""⟩)] :=
  ⟨rfl, rfl⟩

end PlasmaStream
