import Mathlib.Data.List.Basic
import Mathlib.Algebra.Group.Nat.Basic

/-!
# Protocol constants, object ids and peer addresses

The data model every part of plasma-stream shares (`lib.rs`, `request.rs`): the size limits,
the one-byte status codes, the 20-byte object id, and the socket address a SYNC peer request
names. A byte is a `UInt8`; a buffer, or what is left of a socket's stream, is a list of them.
-/

namespace PlasmaStream

/-- A byte buffer, or the bytes a socket still has to deliver. -/
abbrev Bytes := List UInt8

/-! ## Constants -/

def objectIdBytes : Nat := 20

/-- 2^16, the largest metadata an object may have. -/
def maxMetaSize : Nat := 65536

/-- 2^44, the largest data an object may have. -/
def maxDataSize : Nat := 17592186044416

/-- 2^16, the longest object id list a COPY, TAKE or peer request may carry. -/
def maxObjectIdListLen : Nat := 65536

def maxNumSyncPeers : Nat := 1024

namespace StatusCodes

def begin : UInt8 := 0x00
def success : UInt8 := 0x41
def obMetaTooLargeErr : UInt8 := 0x50
def obDataTooLargeErr : UInt8 := 0x51
def obDataZeroLengthErr : UInt8 := 0x52
def plasmaStoreErr : UInt8 := 0x60
def peerPlasmaStoreErr : UInt8 := 0x61
def peerRequestPanicked : UInt8 := 0x62
def obDeletionScheduledErr : UInt8 := 0x70
def obNotFoundErr : UInt8 := 0x71
def obAlreadyReceivingErr : UInt8 := 0x80
def obAlreadyInStoreErr : UInt8 := 0x81
def peerConnectionErr : UInt8 := 0x90
def clientConnectionErr : UInt8 := 0x91

end StatusCodes

/-! ## Object ids -/

/-- `ObjectId = [u8; OBJECT_ID_BYTES]`: twenty opaque bytes. -/
@[ext] structure ObjectId where
  bytes : Bytes
  length_bytes : bytes.length = objectIdBytes
deriving DecidableEq

/-- The 20-byte array a buffer of that length is read as; the cast of `read_object_id_list`
only ever sees buffers of exactly this length. -/
def ObjectId.ofBytes (bs : Bytes) : ObjectId :=
  ⟨(bs ++ List.replicate objectIdBytes 0).take objectIdBytes, by simp [objectIdBytes]⟩

theorem ObjectId.bytes_ofBytes {bs : Bytes} (h : bs.length = objectIdBytes) :
    (ObjectId.ofBytes bs).bytes = bs :=
  List.take_left' h

theorem ObjectId.ofBytes_bytes (oid : ObjectId) : ObjectId.ofBytes oid.bytes = oid :=
  ObjectId.ext (ObjectId.bytes_ofBytes oid.length_bytes)

/-! ## Socket addresses -/

structure Ipv4Addr where
  octets : Bytes
  length_octets : octets.length = 4
deriving DecidableEq

structure Ipv6Addr where
  octets : Bytes
  length_octets : octets.length = 16
deriving DecidableEq

/-- `std::net::SocketAddr`. -/
inductive SocketAddr where
  | v4 (ip : Ipv4Addr) (port : UInt16)
  | v6 (ip : Ipv6Addr) (port : UInt16)
deriving DecidableEq

/-- The address is an IPv4 one. -/
def SocketAddr.IsV4 : SocketAddr → Prop
  | .v4 .. => True
  | .v6 .. => False

instance : DecidablePred SocketAddr.IsV4
  | .v4 .. => isTrue trivial
  | .v6 .. => isFalse id

/-! ## Runs of the server's tasks

The sender and the receiver are `EStateM` programs over the server's state: a failed step
returns its error together with the state it leaves. These lemmas step through a `bind`
without unfolding the programs on either side. -/

section Runs

variable {ε σ α β : Type} {x : EStateM ε σ α} {f : α → EStateM ε σ β} {s s' : σ}

/-- The result of a run as an `Except`, with the state it leaves. -/
def outcome : EStateM.Result ε σ α → Except ε α × σ
  | .ok a s => (.ok a, s)
  | .error e s => (.error e, s)

@[simp] theorem outcome_ok (a : α) (s : σ) :
    outcome (.ok a s : EStateM.Result ε σ α) = (.ok a, s) :=
  rfl

@[simp] theorem outcome_error (e : ε) (s : σ) :
    outcome (.error e s : EStateM.Result ε σ α) = (.error e, s) := rfl

theorem bind_apply_of_ok {a : α} (h : x s = .ok a s') : (x >>= f) s = f a s' := by
  show EStateM.bind x f s = _
  rw [EStateM.bind, h]

theorem bind_apply_of_error {e : ε} (h : x s = .error e s') : (x >>= f) s = .error e s' := by
  show EStateM.bind x f s = _
  rw [EStateM.bind, h]

theorem get_bind_apply {ε σ β : Type} {f : σ → EStateM ε σ β} {s : σ} : (get >>= f) s = f s s := rfl

theorem modify_bind_apply {f : σ → σ} {g : PUnit → EStateM ε σ β} :
    (modify f >>= g) s = g () (f s) := rfl

/-- A bind that succeeds ran both of its parts to success. -/
theorem bind_apply_eq_ok {b : β} (h : (x >>= f) s = .ok b s') :
    ∃ a s₁, x s = .ok a s₁ ∧ f a s₁ = .ok b s' := by
  cases hx : x s with
  | ok a s₁ => exact ⟨a, s₁, rfl, by rwa [bind_apply_of_ok hx] at h⟩
  | error e s₁ => rw [bind_apply_of_error hx] at h; cases h

/-- A bind that fails failed in its first part or in its second. -/
theorem bind_apply_eq_error {e : ε} (h : (x >>= f) s = .error e s') :
    x s = .error e s' ∨ ∃ a s₁, x s = .ok a s₁ ∧ f a s₁ = .error e s' := by
  cases hx : x s with
  | ok a s₁ => exact .inr ⟨a, s₁, rfl, by rwa [bind_apply_of_ok hx] at h⟩
  | error e₁ s₁ =>
    rw [bind_apply_of_error hx] at h
    cases h
    exact .inl rfl

/-- A check that throws passed, when the run went on to succeed. -/
theorem ite_throw_apply_eq_ok {c : Prop} [Decidable c] {e : ε} {a : α}
    (h : (if c then throw e else x) s = .ok a s') : ¬c ∧ x s = .ok a s' := by
  split_ifs at h with hc
  · cases h
  · exact ⟨hc, h⟩

/-- A check that throws leaves the state as it was, or passed and the run went on. -/
theorem ite_throw_apply_eq_error {c : Prop} [Decidable c] {e e' : ε}
    (h : (if c then throw e else x) s = .error e' s') : s' = s ∨ ¬c ∧ x s = .error e' s' := by
  split_ifs at h with hc
  · cases h; exact .inl rfl
  · exact .inr ⟨hc, h⟩

/-- Every error a run of `x` can end with satisfies `P`. -/
def ErrorsIn (P : ε → Prop) (x : EStateM ε σ α) : Prop := ∀ s e s', x s = .error e s' → P e

namespace ErrorsIn

variable {P : ε → Prop}

theorem pure (a : α) : ErrorsIn P (pure a : EStateM ε σ α) := fun _ _ _ h => by cases h

theorem throw {e : ε} (h : P e) : ErrorsIn P (throw e : EStateM ε σ α) :=
  fun _ _ _ h' => by cases h'; exact h

theorem modify (f : σ → σ) : ErrorsIn P (modify f : EStateM ε σ PUnit) := fun _ _ _ h => by
  cases h

theorem ite {c : Prop} [Decidable c] {y : EStateM ε σ α} (hx : ErrorsIn P x) (hy : ErrorsIn P y) :
    ErrorsIn P (if c then x else y) := by
  split_ifs
  · exact hx
  · exact hy

theorem bind (hx : ErrorsIn P x) (hf : ∀ a, ErrorsIn P (f a)) : ErrorsIn P (x >>= f) :=
  fun _ _ _ h => by
    rcases bind_apply_eq_error h with h | ⟨a, _, -, h⟩
    · exact hx _ _ _ h
    · exact hf a _ _ _ h

end ErrorsIn

/-- Every run of `x`, however it ends, leaves the part `view` of the state as it found it. -/
def Frames {γ : Type} (view : σ → γ) (x : EStateM ε σ α) : Prop :=
  ∀ s, view (outcome (x s)).2 = view s

namespace Frames

variable {γ : Type} {view : σ → γ}

theorem pure (a : α) : Frames view (pure a : EStateM ε σ α) := fun _ => rfl

theorem get : Frames view (get : EStateM ε σ σ) := fun _ => rfl

theorem throw (e : ε) : Frames view (throw e : EStateM ε σ α) := fun _ => rfl

theorem modify {f : σ → σ} (h : ∀ s, view (f s) = view s) :
    Frames view (modify f : EStateM ε σ PUnit) :=
  h

theorem ite {c : Prop} [Decidable c] {y : EStateM ε σ α} (hx : Frames view x)
    (hy : Frames view y) : Frames view (if c then x else y) := by
  split_ifs
  · exact hx
  · exact hy

/-- A continuation that keeps `view` leaves it as the first part of the run left it. -/
theorem bind_right (hf : ∀ a, Frames view (f a)) (s : σ) :
    view (outcome ((x >>= f) s)).2 = view (outcome (x s)).2 := by
  cases hx : x s with
  | ok a s₁ => rw [bind_apply_of_ok hx]; exact hf a s₁
  | error e s₁ => rw [bind_apply_of_error hx]; rfl

theorem bind (hx : Frames view x) (hf : ∀ a, Frames view (f a)) : Frames view (x >>= f) :=
  fun s => (bind_right hf s).trans (hx s)

end Frames

/-- `x` cannot tell apart states related by `R`: from them, it returns the same and ends in
states related by `R` again. -/
def Respects (R : σ → σ → Prop) (x : EStateM ε σ α) : Prop :=
  ∀ s t, R s t → (outcome (x s)).1 = (outcome (x t)).1 ∧ R (outcome (x s)).2 (outcome (x t)).2

namespace Respects

variable {R : σ → σ → Prop}

theorem pure (a : α) : Respects R (pure a : EStateM ε σ α) := fun _ _ h => ⟨rfl, h⟩

theorem throw (e : ε) : Respects R (throw e : EStateM ε σ α) := fun _ _ h => ⟨rfl, h⟩

theorem ite {c : Prop} [Decidable c] {y : EStateM ε σ α} (hx : Respects R x)
    (hy : Respects R y) : Respects R (if c then x else y) := by
  split_ifs
  · exact hx
  · exact hy

theorem bind (hx : Respects R x) (hf : ∀ a, Respects R (f a)) : Respects R (x >>= f) :=
  fun s t h => by
    obtain ⟨hres, hst⟩ := hx s t h
    cases hs : x s <;> cases ht : x t <;> rw [hs, ht] at hres hst <;> cases hres
    · rw [bind_apply_of_ok hs, bind_apply_of_ok ht]
      exact hf _ _ _ hst
    · rw [bind_apply_of_error hs, bind_apply_of_error ht]
      exact ⟨rfl, hst⟩

end Respects

/-- Two states that agree at a footprint: the same `rest`, and the same `view y` at every `y` of
the footprint. -/
def AgreeAt {ι γ δ : Type} (rest : σ → δ) (view : ι → σ → γ) (inside : ι → Prop) (s t : σ) :
    Prop :=
  rest s = rest t ∧ ∀ y, inside y → view y s = view y t

namespace AgreeAt

variable {ι γ δ : Type} {rest : σ → δ} {view : ι → σ → γ} {inside : ι → Prop} {s t u : σ}

theorem refl (s : σ) : AgreeAt rest view inside s s := ⟨rfl, fun _ _ => rfl⟩

theorem symm (h : AgreeAt rest view inside s t) : AgreeAt rest view inside t s :=
  ⟨h.1.symm, fun i hi => (h.2 i hi).symm⟩

theorem trans (h : AgreeAt rest view inside s t) (h' : AgreeAt rest view inside t u) :
    AgreeAt rest view inside s u :=
  ⟨h.1.trans h'.1, fun i hi => (h.2 i hi).trans (h'.2 i hi)⟩

end AgreeAt

/-- `x` is local to a footprint: it cannot tell apart states that agree at the footprint, and it
keeps every view outside it. -/
structure Local {ι γ δ : Type} (rest : σ → δ) (view : ι → σ → γ) (inside : ι → Prop)
    (x : EStateM ε σ α) : Prop where
  respects : Respects (AgreeAt rest view inside) x
  frames : ∀ y, ¬inside y → Frames (view y) x

namespace Local

variable {ι γ δ : Type} {rest : σ → δ} {view : ι → σ → γ} {inside : ι → Prop}

theorem pure (a : α) : Local rest view inside (pure a : EStateM ε σ α) :=
  ⟨Respects.pure a, fun _ _ => Frames.pure a⟩

theorem throw (e : ε) : Local rest view inside (throw e : EStateM ε σ α) :=
  ⟨Respects.throw e, fun _ _ => Frames.throw e⟩

theorem ite {c : Prop} [Decidable c] {y : EStateM ε σ α} (hx : Local rest view inside x)
    (hy : Local rest view inside y) : Local rest view inside (if c then x else y) :=
  ⟨Respects.ite hx.respects hy.respects, fun i hi => Frames.ite (hx.frames i hi) (hy.frames i hi)⟩

theorem bind (hx : Local rest view inside x) (hf : ∀ a, Local rest view inside (f a)) :
    Local rest view inside (x >>= f) :=
  ⟨Respects.bind hx.respects fun a => (hf a).respects,
    fun i hi => Frames.bind (hx.frames i hi) fun a => (hf a).frames i hi⟩

/-- A step that reads the whole state is local when what it does next is the same from states
that agree at the footprint. -/
theorem get_bind {g : σ → EStateM ε σ β} (hg : ∀ s, Local rest view inside (g s))
    (hsame : ∀ s t, AgreeAt rest view inside s t → g s = g t) : Local rest view inside (get >>= g) where
  respects s t h := by
    rw [get_bind_apply, get_bind_apply, hsame t s h.symm]
    exact (hg s).respects s t h
  frames i hi s := by
    rw [get_bind_apply]
    exact (hg s).frames i hi s

/-- A run local to a footprint is local to any larger one. -/
theorem mono {inside' : ι → Prop} (hx : Local rest view inside x) (h : ∀ i, inside i → inside' i) :
    Local rest view inside' x where
  respects s t hst := by
    obtain ⟨hres, hrest, hin⟩ := hx.respects s t ⟨hst.1, fun i hi => hst.2 i (h i hi)⟩
    refine ⟨hres, hrest, fun i hi' => ?_⟩
    by_cases hi : inside i
    · exact hin i hi
    · rw [hx.frames i hi s, hx.frames i hi t]
      exact hst.2 i hi'
  frames i hi := hx.frames i fun h' => hi (h i h')

end Local

end Runs

end PlasmaStream
