import PlasmaStream.Basic

/-!
# Little-endian integers and reads from a socket

Every integer on the wire is little-endian (`write_u16_le`, `read_u64_le`, ...). `toLeBytes w v`
is what a `w`-byte write of `v` puts on the wire, `v % 256 ^ w` in `w` bytes; `ofLeBytes` is the
value a read gives back. A socket that is read from is the list of bytes it still delivers
before the connection ends; a read past its end fails with `UnexpectedEof`, `none` here.

`ofLeBytes_toLeBytes` and `toLeBytes_ofLeBytes` are the two round trips; `readLe_toLeBytes` and
`eq_of_readLe` lift them to reads, in the form the request codec and the object stream use.
-/

namespace PlasmaStream

theorem toNat_ofNat_byte (n : Nat) : (UInt8.ofNat n).toNat = n % 256 := BitVec.toNat_ofNat _ _

theorem ofNat_toNat_u16 (p : UInt16) : UInt16.ofNat p.toNat = p :=
  UInt16.toNat.inj (by simp [UInt16.toNat, UInt16.ofNat])

/-! ## Little-endian words -/

/-- The `w` low bytes of `v`, least significant first. -/
def toLeBytes : Nat → Nat → Bytes
  | 0, _ => []
  | w + 1, v => UInt8.ofNat v :: toLeBytes w (v / 256)

/-- The value of little-endian bytes. -/
def ofLeBytes : Bytes → Nat
  | [] => 0
  | b :: bs => b.toNat + 256 * ofLeBytes bs

@[simp] theorem length_toLeBytes (w v : Nat) : (toLeBytes w v).length = w := by
  induction w generalizing v <;> simp [toLeBytes, *]

theorem ofLeBytes_toLeBytes (w v : Nat) : ofLeBytes (toLeBytes w v) = v % 256 ^ w := by
  induction w generalizing v with
  | zero => simp [toLeBytes, ofLeBytes, Nat.mod_one]
  | succ w ih =>
    rw [toLeBytes, ofLeBytes, ih, toNat_ofNat_byte, Nat.pow_succ, Nat.mul_comm _ 256, Nat.mod_mul]

theorem toLeBytes_ofLeBytes (bs : Bytes) : toLeBytes bs.length (ofLeBytes bs) = bs := by
  induction bs with
  | nil => rfl
  | cons b bs ih =>
    have hb := b.toNat_lt_size
    have hlow : UInt8.ofNat (b.toNat + 256 * ofLeBytes bs) = b :=
      UInt8.toNat.inj (by rw [toNat_ofNat_byte]; simp only [UInt8.size] at hb; omega)
    have hhigh : (b.toNat + 256 * ofLeBytes bs) / 256 = ofLeBytes bs := by
      simp only [UInt8.size] at hb; omega
    simp only [List.length_cons, toLeBytes, ofLeBytes, hlow, hhigh, ih]

theorem ofLeBytes_lt (bs : Bytes) : ofLeBytes bs < 256 ^ bs.length := by
  induction bs with
  | nil => simp [ofLeBytes]
  | cons b bs ih =>
    have hb := b.toNat_lt_size
    simp only [UInt8.size] at hb
    rw [ofLeBytes, List.length_cons, Nat.pow_succ]
    omega

/-! ## Reads -/

/-- `read_exact`: the first `n` bytes and the rest, or `UnexpectedEof`. -/
def readExact (n : Nat) (bs : Bytes) : Option (Bytes × Bytes) :=
  if n ≤ bs.length then some (bs.take n, bs.drop n) else none

/-- `read_u8`. -/
def readU8 : Bytes → Option (UInt8 × Bytes)
  | [] => none
  | b :: bs => some (b, bs)

/-- A little-endian read of a `w`-byte integer. -/
def readLe (w : Nat) (bs : Bytes) : Option (Nat × Bytes) :=
  (readExact w bs).map fun r => (ofLeBytes r.1, r.2)

/-- `read_u16_le`. -/
def readU16Le : Bytes → Option (Nat × Bytes) := readLe 2

/-- `read_u32_le`. -/
def readU32Le : Bytes → Option (Nat × Bytes) := readLe 4

/-- `read_u64_le`. -/
def readU64Le : Bytes → Option (Nat × Bytes) := readLe 8

theorem readExact_append {n : Nat} {xs : Bytes} (rest : Bytes) (h : xs.length = n) :
    readExact n (xs ++ rest) = some (xs, rest) := by
  subst h
  simp [readExact]

theorem readExact_eq_some {n : Nat} {bs xs rest : Bytes} :
    readExact n bs = some (xs, rest) ↔ xs.length = n ∧ bs = xs ++ rest := by
  unfold readExact
  split
  · simp only [Option.some.injEq, Prod.mk.injEq]
    constructor
    · rintro ⟨rfl, rfl⟩
      simp [*]
    · rintro ⟨rfl, rfl⟩
      simp
  · simp only [reduceCtorEq, false_iff, not_and]
    rintro rfl rfl
    simp_all

theorem readExact_eq_none {n : Nat} {bs : Bytes} : readExact n bs = none ↔ bs.length < n := by
  unfold readExact
  split <;> simp <;> omega

theorem readLe_toLeBytes {w v : Nat} (rest : Bytes) (h : v < 256 ^ w) :
    readLe w (toLeBytes w v ++ rest) = some (v, rest) := by
  simp [readLe, readExact_append rest (length_toLeBytes w v), ofLeBytes_toLeBytes,
    Nat.mod_eq_of_lt h]

theorem eq_of_readLe {w v : Nat} {bs rest : Bytes} (h : readLe w bs = some (v, rest)) :
    v < 256 ^ w ∧ bs = toLeBytes w v ++ rest := by
  simp only [readLe, Option.map_eq_some', Prod.mk.injEq, Prod.exists] at h
  obtain ⟨xs, rest', hr, rfl, rfl⟩ := h
  obtain ⟨rfl, rfl⟩ := readExact_eq_some.mp hr
  exact ⟨ofLeBytes_lt xs, by rw [toLeBytes_ofLeBytes]⟩

theorem readU8_eq_some {bs rest : Bytes} {b : UInt8} :
    readU8 bs = some (b, rest) ↔ bs = b :: rest := by
  cases bs <;> simp [readU8, eq_comm]

/-! ## More bytes after a read

A read that got its bytes from `bs` gets the same bytes from `bs ++ more`, and leaves `more`
after what it left: a socket read blocks until its bytes arrive, whatever follows them. -/

section Append

variable {bs rest : Bytes} (more : Bytes)

theorem readExact_append_of_eq_some {n : Nat} {xs : Bytes} (h : readExact n bs = some (xs, rest)) :
    readExact n (bs ++ more) = some (xs, rest ++ more) := by
  obtain ⟨hn, rfl⟩ := readExact_eq_some.1 h
  rw [List.append_assoc]
  exact readExact_append _ hn

theorem readU8_append_of_eq_some {b : UInt8} (h : readU8 bs = some (b, rest)) :
    readU8 (bs ++ more) = some (b, rest ++ more) := by
  rw [readU8_eq_some.1 h]
  rfl

theorem readLe_append_of_eq_some {w v : Nat} (h : readLe w bs = some (v, rest)) :
    readLe w (bs ++ more) = some (v, rest ++ more) := by
  simp only [readLe, Option.map_eq_some', Prod.mk.injEq, Prod.exists] at h ⊢
  obtain ⟨xs, rest', hr, rfl, rfl⟩ := h
  exact ⟨xs, rest' ++ more, readExact_append_of_eq_some more hr, rfl, rfl⟩

end Append

end PlasmaStream
