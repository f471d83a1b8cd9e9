import OpenPGP.Runtime

/-! The big-integer wire encoding shared by both codecs. The `encoding` package
is not among the sources, so `MPI` follows the spec: a two-byte bit length, then
`ceil(bits/8)` bytes, most significant first. -/

namespace OpenPGP

/-- `big.Int.Bytes`: the big-endian bytes of `n` with no leading zero, none for 0. -/
def bigBytes (n : Nat) : Bytes := (Nat.digits 256 n).reverse.map UInt8.ofNat

/-- `big.Int.BitLen`. -/
def bitLen (n : Nat) : Nat := Nat.size n

/-- Modelled from the spec: `encoding.MPI`. `bytes` is `none` for the nil slice
of a fresh `new(encoding.MPI)`, and what `m.Bytes()` returns; `ReadFrom` and
`SetBig` always set it. -/
structure MPI where
  bytes : Option Bytes
  bitLength : UInt16
  deriving DecidableEq, Repr

/-- Modelled from the spec: `m.ReadFrom(r)` reads the bit length, then
`(bitLength + 7) / 8` bytes. -/
def MPI.ReadFrom : Reader MPI := do
  let buf ← readFull 2
  let bitLength := UInt16.ofNat (beValue buf)
  let bytes ← readFull ((bitLength.toNat + 7) / 8)
  pure ⟨some bytes, bitLength⟩

/-- Modelled from the spec: the bytes `m.WriteTo(w)` writes. -/
def MPI.WriteTo (m : MPI) : Bytes := beBytes 2 m.bitLength.toNat ++ m.bytes.getD []

/-- Modelled from the spec: `new(encoding.MPI).SetBig(n)`. The bit length is
narrowed to 16 bits. -/
def MPI.SetBig (n : Nat) : MPI := ⟨some (bigBytes n), UInt16.ofNat (bitLen n)⟩

/-- `new(big.Int).SetBytes(m.Bytes())`. -/
def MPI.value (m : MPI) : Nat := beValue (m.bytes.getD [])

/-- The bytes present and as many as the bit length announces. -/
def MPI.WellFormed (m : MPI) : Prop :=
  ∃ bytes, m.bytes = some bytes ∧ bytes.length = (m.bitLength.toNat + 7) / 8

theorem beValue_reverse_map_ofNat (digits : List Nat) (small : ∀ d ∈ digits, d < 256) :
    beValue (digits.reverse.map UInt8.ofNat) = Nat.ofDigits 256 digits := by
  induction digits with
  | nil => rfl
  | cons d digits ih =>
    have low : d % 256 = d := Nat.mod_eq_of_lt (small d (by simp))
    rw [List.reverse_cons, List.map_append, List.map_singleton, beValue_append_byte,
      ih fun e member => small e (by simp [member]), UInt8.toNat_ofNat', low, Nat.ofDigits_cons]
    ring

@[simp] theorem beValue_bigBytes (n : Nat) : beValue (bigBytes n) = n := by
  rw [bigBytes, beValue_reverse_map_ofNat _ fun _ => Nat.digits_lt_base (by norm_num),
    Nat.ofDigits_digits]

/-- `Bytes()` has as many bytes as `BitLen()` rounds up to. -/
theorem bigBytes_length (n : Nat) : (bigBytes n).length = (bitLen n + 7) / 8 := by
  rcases Nat.eq_zero_or_pos n with rfl | positive
  · simp [bigBytes, bitLen]
  · set L := (Nat.digits 256 n).length
    have nonzero : Nat.size n ≠ 0 := by rwa [Ne, Nat.size_eq_zero, ← Ne, ← Nat.pos_iff_ne_zero]
    have below : n < 2 ^ (8 * L) := by
      rw [Nat.pow_mul]; exact Nat.lt_base_pow_length_digits (by norm_num)
    have above : 2 ^ (8 * L) < 2 ^ (8 + Nat.size n) := by
      rw [Nat.pow_mul, Nat.pow_add]
      calc (2 ^ 8) ^ L ≤ 256 * n := Nat.base_pow_length_digits_le 256 n (by norm_num) positive.ne'
        _ < 2 ^ 8 * 2 ^ Nat.size n := Nat.mul_lt_mul_of_pos_left (Nat.lt_size_self n) (by norm_num)
    have top : 2 ^ (Nat.size n - 1) ≤ n := Nat.lt_size.mp (by omega)
    have lower := (Nat.pow_lt_pow_iff_right (by norm_num : 1 < 2)).mp above
    have upper := (Nat.pow_lt_pow_iff_right (by norm_num : 1 < 2)).mp (top.trans_lt below)
    simp only [bigBytes, List.length_map, List.length_reverse, bitLen]
    omega

theorem bitLen_lt_of_lt {n : Nat} (below : n < 2 ^ 16) : bitLen n < 65536 :=
  (Nat.size_le.mpr below).trans_lt (by norm_num)

theorem MPI.SetBig_wellFormed {n : Nat} (small : bitLen n < 65536) : (MPI.SetBig n).WellFormed :=
  ⟨bigBytes n, rfl, by simp [MPI.SetBig, Nat.mod_eq_of_lt small, bigBytes_length]⟩

@[simp] theorem MPI.SetBig_value (n : Nat) : (MPI.SetBig n).value = n := by
  simp [MPI.value, MPI.SetBig]

/-- A well-formed MPI reads back from what it writes. -/
theorem MPI.ReadFrom_WriteTo {m : MPI} (formed : m.WellFormed) (rest : Bytes) :
    MPI.ReadFrom (m.WriteTo ++ rest) = .ok (m, rest) := by
  obtain ⟨bytes, stored, length⟩ := formed
  have header : beValue (beBytes 2 m.bitLength.toNat) = m.bitLength.toNat := by
    rw [beValue_beBytes]; exact Nat.mod_eq_of_lt m.bitLength.toNat_lt
  simp only [MPI.ReadFrom, MPI.WriteTo, stored, Option.getD_some, Reader.run_bind,
    List.append_assoc, readFull_append _ (beBytes_length 2 _), header, UInt16.ofNat_toNat',
    readFull_append rest length]
  cases m
  cases stored
  rfl

/-- What `ReadFrom` accepts is the encoding of what it returns, followed by the
rest of the stream. -/
theorem MPI.ReadFrom_ok {r rest : Bytes} {m : MPI} (read : MPI.ReadFrom r = .ok (m, rest)) :
    m.WellFormed ∧ r = m.WriteTo ++ rest := by
  simp only [MPI.ReadFrom, Reader.run_bind] at read
  split at read
  case h_2 => cases read
  case h_1 buf after first =>
    split at read
    case h_2 => cases read
    case h_1 bytes last second =>
      cases read
      obtain ⟨two, split₁⟩ := readFull_ok first
      obtain ⟨count, split₂⟩ := readFull_ok second
      have small : beValue buf < 65536 := by simpa [two] using beValue_lt buf
      refine ⟨⟨bytes, rfl, by simpa [Nat.mod_eq_of_lt small] using count⟩, ?_⟩
      simp only [MPI.WriteTo, Option.getD_some, UInt16.toNat_ofNat', Nat.mod_eq_of_lt small]
      rw [split₁, split₂, ← two, beBytes_beValue, List.append_assoc]

theorem MPI.ReadFrom_consumes : MPI.ReadFrom.Consumes :=
  fun _ _ _ read => ⟨_, (MPI.ReadFrom_ok read).2⟩

end OpenPGP
