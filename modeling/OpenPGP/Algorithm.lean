import OpenPGP.Runtime

/-! The `algorithm` package: hash functions, public-key algorithms and ciphers
addressed by their one-byte OpenPGP ids, the `HashById` table, and the in-place
`HashSlice.Intersect` used to negotiate preferences. -/

namespace OpenPGP

/-- `algorithm.CryptoHash`: an OpenPGP hash id and the Go hash it names, a
`crypto.Hash`, which is a `uint`. -/
structure CryptoHash where
  id : UInt8
  Hash : Nat
  deriving DecidableEq, Repr

def CryptoHash.Id (h : CryptoHash) : UInt8 := h.id

/-! The `crypto.Hash` constants are those of `crypto`: `MD5 = 2`, `SHA1 = 3`,
`SHA224 = 4`, `SHA256 = 5`, `SHA384 = 6`, `SHA512 = 7`, `RIPEMD160 = 9`. -/

def MD5 : CryptoHash := ⟨1, 2⟩
def SHA1 : CryptoHash := ⟨2, 3⟩
def RIPEMD160 : CryptoHash := ⟨3, 9⟩
def SHA256 : CryptoHash := ⟨8, 5⟩
def SHA384 : CryptoHash := ⟨9, 6⟩
def SHA512 : CryptoHash := ⟨10, 7⟩
def SHA224 : CryptoHash := ⟨11, 4⟩

/-- A value of the `algorithm.Hash` interface: a `CryptoHash`, or any other
implementation, of which the code here reads only the id. -/
inductive Hash where
  | crypto (h : CryptoHash)
  | other (id : UInt8)
  deriving DecidableEq, Repr, Inhabited

def Hash.Id : Hash → UInt8
  | .crypto h => h.Id
  | .other id => id

/-- `algorithm.HashById`: each of the seven hashes under its own id. -/
def HashById (id : UInt8) : Option Hash :=
  ([MD5, SHA1, RIPEMD160, SHA256, SHA384, SHA512, SHA224].find? (·.Id = id)).map .crypto

theorem HashById_crypto {id : UInt8} {h : Hash} (found : HashById id = some h) :
    ∃ c : CryptoHash, h = .crypto c ∧ c.Id = id := by
  simp only [HashById, Option.map_eq_some'] at found
  obtain ⟨c, member, rfl⟩ := found
  exact ⟨c, rfl, by simpa using List.find?_some member⟩

/-- `hashNames`: the name of each hash of `HashById`, under its id. -/
def hashNames : List (UInt8 × String) :=
  [(MD5.Id, "MD5"), (SHA1.Id, "SHA1"), (RIPEMD160.Id, "RIPEMD160"), (SHA256.Id, "SHA256"),
    (SHA384.Id, "SHA384"), (SHA512.Id, "SHA512"), (SHA224.Id, "SHA224")]

/-- `h.String()`: the name `hashNames` holds for the id, and a panic for an id
it lacks. -/
def CryptoHash.String (h : CryptoHash) : Except Fault String :=
  match hashNames.lookup h.id with
  | some s => .ok s
  | none => .error (.panic ("Unsupported hash function " ++ toString h.id.toNat))

/-! `HashSlice.Intersect` -/

/-- `algorithm.HashSlice`, with its backing array as a list. -/
abbrev HashSlice := List Hash

/-- `hs.Ids()`. -/
def HashSlice.Ids (hs : HashSlice) : List UInt8 := hs.map Hash.Id

/-- One turn of the outer loop of `Intersect` at index `i`, on the backing array
and the write index `j`: `v := hs[i]`, and the inner loop, at the first `v2` of
`b` with the same id, does `hs[j] = v; j++` and breaks. -/
def intersectStep (b : HashSlice) (state : HashSlice × Nat) (i : Nat) : HashSlice × Nat :=
  let (hs, j) := state
  let v := hs.getD i default
  if b.any (fun v2 => v.Id == v2.Id) then (hs.set j v, j + 1) else (hs, j)

/-- `hs.Intersect(b)`: the backing array of `hs` after the loop, and `j`, the
length of the returned slice `hs[:j]`. -/
def HashSlice.Intersect (hs b : HashSlice) : HashSlice × Nat :=
  (List.range hs.length).foldl (intersectStep b) (hs, 0)

/-- The returned slice `hs[:j]`. -/
def HashSlice.intersection (hs b : HashSlice) : HashSlice :=
  let (backing, j) := hs.Intersect b
  backing.take j

section Intersect

variable (a b : HashSlice)

/-- Whether some element of `b` has the id of `v`. -/
def InB (v : Hash) : Prop := ∃ w ∈ b, w.Id = v.Id

instance (v : Hash) : Decidable (InB b v) := inferInstanceAs (Decidable (∃ w ∈ b, _))

theorem any_id_iff (v : Hash) : b.any (fun v2 => v.Id == v2.Id) = true ↔ InB b v := by
  simp only [List.any_eq_true, beq_iff_eq, InB]
  exact exists_congr fun w => and_congr_right fun _ => eq_comm

/-- The loop's state after `i` turns: the kept elements of `a`'s first `i`,
written over the front of the array, and the rest of `a` not yet written. -/
def kept (i : Nat) : HashSlice := (a.take i).filter (fun v => decide (InB b v))

theorem kept_length_le (i : Nat) : (kept a b i).length ≤ i :=
  (List.length_filter_le _ _).trans (List.length_take_le _ _)

/-- The element the loop reads at turn `i` is still `a[i]`: every write so far
went to an index below `i`. -/
theorem intersect_reads_original (i : Nat) :
    (kept a b i ++ a.drop (kept a b i).length).getD i default = a.getD i default := by
  have below := kept_length_le a b i
  simp only [List.getD_eq_getElem?_getD]
  rw [List.getElem?_append_right (by omega), List.getElem?_drop, Nat.add_sub_cancel' below]

theorem intersectStep_kept {i : Nat} (inside : i < a.length) :
    intersectStep b (kept a b i ++ a.drop (kept a b i).length, (kept a b i).length) i =
      (kept a b (i + 1) ++ a.drop (kept a b (i + 1)).length, (kept a b (i + 1)).length) := by
  have below := kept_length_le a b i
  have next : kept a b (i + 1) = kept a b i ++ (if InB b a[i] then [a[i]] else []) := by
    simp only [kept, List.take_succ, List.getElem?_eq_getElem inside, Option.toList_some,
      List.filter_append, List.filter_singleton]
    split <;> simp_all
  simp only [intersectStep, intersect_reads_original a b i, List.getD_eq_getElem?_getD,
    List.getElem?_eq_getElem inside, Option.getD_some, any_id_iff]
  by_cases found : InB b a[i]
  · have cons := List.drop_eq_getElem_cons (show (kept a b i).length < a.length by omega)
    simp only [found, if_true, next, List.length_append, List.length_singleton,
      List.set_append_right _ _ (le_refl _), Nat.sub_self, cons, List.set_cons_zero,
      List.append_assoc, List.singleton_append, Prod.mk.injEq, and_true]
  · simp [found, next]

theorem Intersect_loop {i : Nat} (within : i ≤ a.length) :
    (List.range i).foldl (intersectStep b) (a, 0) =
      (kept a b i ++ a.drop (kept a b i).length, (kept a b i).length) := by
  induction i with
  | zero => simp [kept]
  | succ i ih =>
    rw [List.range_succ, List.foldl_append, ih (by omega), List.foldl_cons, List.foldl_nil,
      intersectStep_kept a b (by omega)]

/-- `Intersect` returns the elements of `a` whose id some element of `b` carries,
in `a`'s order and with `a`'s repetitions, written over the front of `a`'s
backing array with the rest left as it was; and at every turn the loop reads the
element `a` had there before the call. -/
theorem Intersect_filter :
    a.intersection b = a.filter (fun v => decide (∃ w ∈ b, w.Id = v.Id)) ∧
    (a.Intersect b).1 = a.intersection b ++ a.drop (a.intersection b).length ∧
    ∀ i < a.length,
      ((List.range i).foldl (intersectStep b) (a, 0)).1.getD i default = a.getD i default := by
  have whole : a.Intersect b = (kept a b a.length ++ a.drop (kept a b a.length).length,
      (kept a b a.length).length) := Intersect_loop a b (le_refl _)
  have result : a.intersection b = kept a b a.length := by
    simp [HashSlice.intersection, whole]
  refine ⟨by simp [result, kept, InB], by rw [whole, result], fun i inside => ?_⟩
  rw [Intersect_loop a b inside.le, intersect_reads_original]

theorem intersection_eq_filter : a.intersection b = a.filter (fun v => decide (InB b v)) := by
  simp [HashSlice.intersection, HashSlice.Intersect, Intersect_loop a b le_rfl, kept]

/-- `Intersect` decides by ids alone: the ids of its result are those of `a`,
in order, that occur among `b.Ids()`; intersecting the result with `b` again
changes nothing; and intersecting a slice with itself returns it whole. -/
theorem Intersect_Ids :
    (a.intersection b).Ids = a.Ids.filter (fun id => decide (id ∈ b.Ids)) ∧
    (a.intersection b).intersection b = a.intersection b ∧
    a.intersection a = a := by
  refine ⟨?_, ?_, ?_⟩
  · simp only [intersection_eq_filter, HashSlice.Ids, List.filter_map]
    congr 1
    exact List.filter_congr fun v _ => by simp [InB]
  · simp only [intersection_eq_filter, List.filter_filter, Bool.and_self]
  · rw [intersection_eq_filter, List.filter_eq_self]
    exact fun v member => decide_eq_true ⟨v, member, rfl⟩

example : HashSlice.intersection [.crypto MD5, .crypto SHA1, .crypto SHA256]
    [.crypto SHA256, .crypto MD5] = [.crypto MD5, .crypto SHA256] := by decide

end Intersect

/-! Public-key algorithms and ciphers -/

/-- A value of the `algorithm.PublicKey` interface: the handles the source and its
README name, and any other implementation (a private or experimental id). -/
inductive PublicKeyAlgorithm where
  | RSA | RSAEncryptOnly | RSASignOnly | ElGamal | DSA | ECDH | ECDSA | EdDSA
  | other (id : UInt8)
  deriving DecidableEq, Repr

/-- The one-byte ids of RFC 4880 section 9.1, RFC 6637 and GnuPG's EdDSA. -/
def PublicKeyAlgorithm.Id : PublicKeyAlgorithm → UInt8
  | .RSA => 1
  | .RSAEncryptOnly => 2
  | .RSASignOnly => 3
  | .ElGamal => 16
  | .DSA => 17
  | .ECDH => 18
  | .ECDSA => 19
  | .EdDSA => 22
  | .other id => id

/-- `algorithm.PublicKeyById`, whose table is not among the sources: a map from
ids to handles that files each handle under its own id. -/
structure PublicKeyRegistry where
  byId : UInt8 → Option PublicKeyAlgorithm
  id_byId : ∀ id a, byId id = some a → a.Id = id

/-- Modelled from the spec: `algorithm.PublicKeyById`, the catalogue of public-key
primitives "{RSA, DSA, ElGamal, ECDSA, …}" together with the two RSA variants the
source names, each under its RFC 4880 id. -/
def PublicKeyById : PublicKeyRegistry where
  byId id :=
    [PublicKeyAlgorithm.RSA, .RSAEncryptOnly, .RSASignOnly, .ElGamal, .DSA, .ECDSA].find?
      (·.Id = id)
  id_byId id a found := by simpa using List.find?_some found

/-- A `cipher.Block` as `New(key)` returns it: its block size and its
encryption of one block. -/
structure Block where
  BlockSize : Nat
  Encrypt : Bytes → Bytes
  encrypt_length : ∀ src, (Encrypt src).length = BlockSize

/-- A value of the `algorithm.Cipher` interface. Its sizes are known whether or
not it is linked in; `encrypt key` is the block function `New(key)` yields. -/
structure Cipher where
  Id : UInt8
  KeySize : Nat
  BlockSize : Nat
  Available : Bool
  encrypt : Bytes → Bytes → Bytes
  encrypt_length : ∀ key src, (encrypt key src).length = BlockSize

/-- Modelled from the spec: `Cipher.New` fails loudly, by a panic, for a cipher
that is not linked in. -/
def Cipher.New (c : Cipher) (key : Bytes) : Except Fault Block :=
  if c.Available then .ok ⟨c.BlockSize, c.encrypt key, c.encrypt_length key⟩
  else .error (.panic "algorithm: cipher not available")

/-- The stream `cipher.NewCFBDecrypter` returns, before its first use. -/
structure CFB where
  block : Block
  next : Bytes

/-- `cipher.NewCFBDecrypter(block, iv)`. -/
def NewCFBDecrypter (block : Block) (iv : Bytes) : Except Fault CFB :=
  if iv.length = block.BlockSize then .ok ⟨block, iv⟩
  else .error (.panic "cipher.newCFB: IV length must equal block size")

/-- The loop of CFB decryption: each block of `src` is xored with the encryption
of the ciphertext block before it, the IV first. -/
def cfbBlocks (block : Block) : Nat → Bytes → Bytes → Bytes
  | 0, _, _ => []
  | fuel + 1, next, src =>
    if src = [] then [] else
      List.zipWith (· ^^^ ·) (src.take block.BlockSize) (block.Encrypt next) ++
        cfbBlocks block fuel (src.take block.BlockSize) (src.drop block.BlockSize)

/-- `XORKeyStream(dst, src)` on a fresh decrypter. With a block size of zero the
loop of `crypto/cipher` never advances on a non-empty `src`. -/
def CFB.XORKeyStream (x : CFB) (src : Bytes) : Except Fault Bytes :=
  if x.block.BlockSize = 0 ∧ src ≠ [] then .error .diverge
  else .ok (cfbBlocks x.block src.length x.next src)

theorem cfbBlocks_length (block : Block) (positive : 0 < block.BlockSize) (fuel : Nat)
    (next src : Bytes) (bound : src.length ≤ fuel) :
    (cfbBlocks block fuel next src).length = src.length := by
  induction fuel generalizing next src with
  | zero => simp_all [cfbBlocks]
  | succ fuel ih =>
    by_cases empty : src = []
    · simp [cfbBlocks, empty]
    · have nonempty : 0 < src.length := List.length_pos.mpr empty
      simp only [cfbBlocks, empty, if_false, List.length_append, List.length_zipWith,
        block.encrypt_length, List.length_take]
      rw [ih _ _ (by simp; omega), List.length_drop]
      omega

/-! Setting up a cipher and running it panics or loops on bad input; it never
returns an error. -/

@[simp] theorem Cipher.New_ne_error (c : Cipher) (key : Bytes) (e : Error) :
    c.New key ≠ .error (.error e) := by
  unfold Cipher.New; split <;> simp

@[simp] theorem NewCFBDecrypter_ne_error (block : Block) (iv : Bytes) (e : Error) :
    NewCFBDecrypter block iv ≠ .error (.error e) := by
  unfold NewCFBDecrypter; split <;> simp

@[simp] theorem CFB.XORKeyStream_ne_error (x : CFB) (src : Bytes) (e : Error) :
    x.XORKeyStream src ≠ .error (.error e) := by
  unfold CFB.XORKeyStream; split <;> simp

theorem CFB.XORKeyStream_length {x : CFB} {src dst : Bytes} (streamed : x.XORKeyStream src = .ok dst) :
    dst.length = src.length := by
  unfold CFB.XORKeyStream at streamed
  split at streamed
  · cases streamed
  next going =>
    cases streamed
    by_cases empty : src = []
    · simp [empty, cfbBlocks]
    · exact cfbBlocks_length _ (Nat.pos_of_ne_zero fun zero => going ⟨zero, empty⟩) _ _ _ le_rfl

theorem UInt8.xor_xor_cancel (a b : UInt8) : a ^^^ b ^^^ b = a := by
  show (⟨a.toBitVec ^^^ b.toBitVec ^^^ b.toBitVec⟩ : UInt8) = a
  rw [BitVec.xor_assoc, BitVec.xor_self, BitVec.xor_zero]

theorem zipWith_xor_cancel (src pad : Bytes) (within : src.length ≤ pad.length) :
    List.zipWith (· ^^^ ·) (List.zipWith (· ^^^ ·) src pad) pad = src := by
  induction src generalizing pad with
  | nil => rfl
  | cons a src ih =>
    cases pad with
    | nil => simp at within
    | cons b pad =>
      simp only [List.zipWith_cons_cons, UInt8.xor_xor_cancel, List.cons.injEq, true_and]
      exact ih pad (by simpa using within)

/-- Modelled from the spec: CFB encryption, as `cipher.NewCFBEncrypter` performs
it. Each block of `src` is xored with the encryption of the ciphertext block
before it, the IV first; `cfbBlocks` is its inverse. -/
def cfbEncrypt (block : Block) : Nat → Bytes → Bytes → Bytes
  | 0, _, _ => []
  | fuel + 1, prev, src =>
    if src = [] then [] else
      let out := List.zipWith (· ^^^ ·) (src.take block.BlockSize) (block.Encrypt prev)
      out ++ cfbEncrypt block fuel out (src.drop block.BlockSize)

section CFB

variable {block : Block} (positive : 0 < block.BlockSize)
include positive

theorem cfbEncrypt_length (fuel : Nat) (prev src : Bytes) (bound : src.length ≤ fuel) :
    (cfbEncrypt block fuel prev src).length = src.length := by
  induction fuel generalizing prev src with
  | zero => simp_all [cfbEncrypt]
  | succ fuel ih =>
    by_cases empty : src = []
    · simp [cfbEncrypt, empty]
    · have nonempty : 0 < src.length := List.length_pos.mpr empty
      simp only [cfbEncrypt, empty, if_false, List.length_append, List.length_zipWith,
        block.encrypt_length, List.length_take]
      rw [ih _ _ (by simp; omega), List.length_drop]
      omega

/-- Decrypting what `cfbEncrypt` produces under the same block function and IV
gives back the plaintext. -/
theorem cfbBlocks_cfbEncrypt (fuel : Nat) (prev src : Bytes) (bound : src.length ≤ fuel) :
    cfbBlocks block fuel prev (cfbEncrypt block fuel prev src) = src := by
  induction fuel generalizing prev src with
  | zero => simp_all [cfbEncrypt, cfbBlocks]
  | succ fuel ih =>
    by_cases empty : src = []
    · simp [cfbEncrypt, cfbBlocks, empty]
    have nonempty : 0 < src.length := List.length_pos.mpr empty
    set out := List.zipWith (· ^^^ ·) (src.take block.BlockSize) (block.Encrypt prev)
    set rest := cfbEncrypt block fuel out (src.drop block.BlockSize)
    have outLength : out.length = min src.length block.BlockSize := by
      simp only [out, List.length_zipWith, List.length_take, block.encrypt_length]
      omega
    have split : (out ++ rest).take block.BlockSize = out ∧ (out ++ rest).drop block.BlockSize = rest := by
      by_cases full : block.BlockSize ≤ src.length
      · have length : out.length = block.BlockSize := by omega
        exact ⟨List.take_left' length, List.drop_left' length⟩
      · have none : rest = [] := by
          apply List.length_eq_zero.mp
          rw [cfbEncrypt_length positive _ _ _ (by simp; omega)]
          simp only [List.length_drop]
          omega
        simp [none, List.take_of_length_le, List.drop_of_length_le, outLength, Nat.min_le_right]
    have nonempty' : out ++ rest ≠ [] := by
      simp only [ne_eq, List.append_eq_nil, not_and]
      intro empty'
      simp only [← List.length_eq_zero, outLength] at empty'
      omega
    simp only [cfbEncrypt, empty, if_false]
    rw [cfbBlocks, if_neg nonempty', split.1, split.2, ih _ _ (by simp; omega),
      zipWith_xor_cancel _ _ (by simp [block.encrypt_length]), List.take_append_drop]

end CFB

end OpenPGP
