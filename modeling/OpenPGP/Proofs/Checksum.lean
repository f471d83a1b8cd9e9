import OpenPGP.Proofs.Lifecycle

/-! The additive 16-bit trailer: `Decrypt`'s index loop sums the same bytes as
`mod64kHash`, so the check accepts exactly the trailer `Serialize` writes and
hands the data before it to `parsePrivateKey`. -/

namespace OpenPGP.Checksum
open SecretMaterial Lifecycle

/-- The trailer `Serialize` appends: `mod64kHash`, most significant byte first. -/
def trailer (S : Bytes) : Bytes := [(mod64kHash S >>> 8).toUInt8, (mod64kHash S).toUInt8]

theorem foldl_add_toNat (d : Bytes) (init : UInt16) :
    (d.foldl (fun h b => h + b.toUInt16) init).toNat = (init.toNat + (d.map UInt8.toNat).sum) % 65536 := by
  induction d generalizing init with
  | nil => simp [Nat.mod_eq_of_lt init.toNat_lt]
  | cons b d ih =>
    simp only [List.foldl_cons, ih, UInt16.toNat_add, UInt16.size, UInt8.toNat_toUInt16',
      List.map_cons, List.sum_cons, Nat.mod_add_mod, Nat.add_assoc]

theorem mod64kHash_toNat (d : Bytes) : (mod64kHash d).toNat = (d.map UInt8.toNat).sum % 65536 := by
  simp [mod64kHash, foldl_add_toNat]

/-- `Decrypt`'s loop over indices adds the same bytes as `mod64kHash`'s range
loop over the prefix. -/
theorem checksumLoop_eq (d : Bytes) (i : Nat) (sum : UInt16) (count : Nat)
    (inside : i + count ≤ d.length) :
    checksumLoop d i sum count = ((d.drop i).take count).foldl (fun h b => h + b.toUInt16) sum := by
  induction count generalizing i sum with
  | zero => simp [checksumLoop]
  | succ count ih =>
    have cons : d.drop i = d[i] :: d.drop (i + 1) := List.drop_eq_getElem_cons (by omega)
    rw [checksumLoop, ih (i + 1) _ (by omega), cons, List.take_succ_cons, List.foldl_cons,
      List.getD_eq_getElem?_getD, List.getElem?_eq_getElem (by omega), Option.getD_some]

theorem exists_append_pair {d : Bytes} (long : 2 ≤ d.length) : ∃ pre a b, d = pre ++ [a, b] := by
  have two : (d.drop (d.length - 2)).length = 2 := by simp; omega
  rcases last : d.drop (d.length - 2) with _ | ⟨a, _ | ⟨b, _ | ⟨c, rest⟩⟩⟩ <;>
    simp only [last, List.length_cons, List.length_nil] at two <;> try omega
  exact ⟨d.take (d.length - 2), a, b, by rw [← last, List.take_append_drop]⟩

theorem checkTrailer_additive (env : Env) (pre : Bytes) (a b : UInt8) :
    checkTrailer env false (pre ++ [a, b]) =
      if a ≠ (mod64kHash pre >>> 8).toUInt8 ∨ b ≠ (mod64kHash pre).toUInt8 then
        .error (.error (.StructuralError "private key checksum failure"))
      else .ok pre := by
  have loop : checksumLoop (pre ++ [a, b]) 0 0 pre.length = mod64kHash pre := by
    rw [checksumLoop_eq _ _ _ _ (by simp), List.drop_zero, List.take_left]
    rfl
  have first : (pre ++ [a, b]).getD pre.length 0 = a := by
    rw [List.getD_eq_getElem?_getD, List.getElem?_append_right (le_refl _)]
    simp
  have second : (pre ++ [a, b]).getD (pre.length + 1) 0 = b := by
    rw [List.getD_eq_getElem?_getD, List.getElem?_append_right (by omega)]
    simp
  simp only [checkTrailer, Bool.false_eq_true, if_false, List.length_append, List.length_cons,
    List.length_nil]
  rw [if_neg (by omega), show pre.length + (0 + 1 + 1) - 2 = pre.length by omega,
    show pre.length + (0 + 1 + 1) - 1 = pre.length + 1 by omega, loop, first, second,
    List.take_left]

theorem checkTrailer_short (env : Env) (sha1Checksum : Bool) {d : Bytes}
    (short : d.length < if sha1Checksum then sha1Size else 2) :
    checkTrailer env sha1Checksum d = .error (.error (.StructuralError "truncated private key data")) := by
  cases sha1Checksum <;> simp_all [checkTrailer]

theorem trailer_value (h : UInt16) :
    ((h >>> 8).toUInt8.toNat * 256 + h.toUInt8.toNat) = h.toNat := by
  simp only [UInt16.toNat_toUInt8', UInt16.toNat_shiftRight_eight]
  have := h.toNat_lt
  omega

/-- The additive check accepts `S` followed by the trailer `Serialize` writes
and `Decrypt` then hands exactly `S` to `parsePrivateKey`; and it accepts only
data of at least two bytes whose last two, big-endian, are the sum of the bytes
before them modulo 2^16, which is `mod64kHash` of those bytes. -/
theorem additive_trailer_check (env : Env) :
    (∀ S : Bytes, checkTrailer env false (S ++ trailer S) = .ok S) ∧
    (∀ (pk : PrivateKey) (passphrase S : Bytes), pk.Encrypted = true → pk.sha1Checksum = false →
      decryptData pk passphrase = .ok (S ++ trailer S) →
      Go.run (PrivateKey.Decrypt env passphrase) pk = Go.run (parsePrivateKey S) pk) ∧
    (∀ d plain : Bytes, checkTrailer env false d = .ok plain →
      2 ≤ d.length ∧ plain = d.take (d.length - 2) ∧
      beValue (d.drop (d.length - 2)) = (plain.map UInt8.toNat).sum % 65536 ∧
      (mod64kHash plain).toNat = (plain.map UInt8.toNat).sum % 65536) := by
  have accepts (S : Bytes) : checkTrailer env false (S ++ trailer S) = .ok S := by
    simp [trailer, checkTrailer_additive]
  refine ⟨accepts, fun pk passphrase S encrypted additive decrypted => ?_, fun d plain checked => ?_⟩
  · rw [Decrypt_run, if_pos encrypted]
    simp only [decrypted, additive, accepts]
  · have long : 2 ≤ d.length := by
      by_contra short
      rw [checkTrailer_short env false (by simpa using short)] at checked
      cases checked
    obtain ⟨pre, a, b, rfl⟩ := exists_append_pair long
    rw [checkTrailer_additive] at checked
    split at checked
    next => cases checked
    next same =>
      obtain ⟨ha, hb⟩ := not_or.mp same
      rw [not_not] at ha hb
      subst ha hb
      cases checked
      refine ⟨long, by simp, ?_, mod64kHash_toNat plain⟩
      simp only [List.length_append, List.length_cons, List.length_nil, Nat.add_sub_cancel,
        List.drop_left, beValue_append_byte, beValue_nil, ← mod64kHash_toNat, ← trailer_value]
      simp [beValue]

def heavySecret : Bytes := [0, 2, 3, 0, 2, 3, 0, 3, 5, 0, 2, 2] ++ List.replicate 300 255

def heavyKey : PrivateKey :=
  { PrivateKey.new false with
    PublicKey := ⟨PubKeyAlgoRSA, .rsa ⟨15, 3⟩, false⟩
    Encrypted := true
    cipher := some Collaborators.cipher
    s2k := some fun passphrase size => (passphrase ++ List.replicate size 0).take size
    iv := List.replicate 16 0
    encryptedData := some (cfbEncrypt ⟨Collaborators.cipher.BlockSize,
      Collaborators.cipher.encrypt (([1] ++ List.replicate 16 0 : Bytes).take 16),
      Collaborators.cipher.encrypt_length _⟩ (heavySecret ++ trailer heavySecret).length
      (List.replicate 16 0) (heavySecret ++ trailer heavySecret)) }

theorem heavySecret_sum : (heavySecret.map UInt8.toNat).sum = 76522 := by
  simp only [heavySecret, List.map_append, List.map_replicate, List.sum_append, List.sum_replicate,
    smul_eq_mul]
  rfl

/-- `heavySecret`, the RSA secret `D = 3`, primes 3 and 5, `u = 2` followed by
300 bytes 255 that the key parser leaves unread, sums to 76522: its trailer is
10986, the sum modulo 2^16, high byte first, and `Decrypt` under `[1]` hands
`heavySecret` to the key parser. -/
theorem heavyKey_additive_trailer :
    trailer heavySecret = [42, 234] ∧
    checkTrailer Collaborators.env false (heavySecret ++ trailer heavySecret) = .ok heavySecret ∧
    Go.run (PrivateKey.Decrypt Collaborators.env [1]) heavyKey =
      Go.run (parsePrivateKey heavySecret) heavyKey := by
  have wrapped : mod64kHash heavySecret = 10986 :=
    UInt16.toNat.inj (by rw [mod64kHash_toNat, heavySecret_sum]; rfl)
  refine ⟨by rw [trailer, wrapped]; decide, (additive_trailer_check Collaborators.env).1 heavySecret,
    (additive_trailer_check Collaborators.env).2.1 heavyKey [1] heavySecret rfl rfl
      (decryptData_cfbEncrypt rfl rfl (by decide) rfl rfl rfl)⟩

theorem mod64kHash_eq_iff {S S' : Bytes} :
    mod64kHash S' = mod64kHash S ↔
      (S'.map UInt8.toNat).sum % 65536 = (S.map UInt8.toNat).sum % 65536 := by
  rw [← mod64kHash_toNat, ← mod64kHash_toNat]
  exact ⟨congrArg UInt16.toNat, UInt16.toNat.inj⟩

theorem checkTrailer_trailer (env : Env) (S S' : Bytes) :
    checkTrailer env false (S' ++ trailer S) =
      if mod64kHash S' = mod64kHash S then .ok S'
      else .error (.error (.StructuralError "private key checksum failure")) := by
  rw [trailer, checkTrailer_additive]
  by_cases same : mod64kHash S' = mod64kHash S
  · simp [same]
  · rw [if_neg same, if_pos]
    by_contra agree
    obtain ⟨high, low⟩ := not_or.mp agree
    rw [not_not] at high low
    exact same (UInt16.toNat.inj (by rw [← trailer_value, ← trailer_value, high, low]))

/-- The additive check sees the secret material only through the sum of its
bytes modulo 2^16: after any one byte of `S` is changed it rejects the trailer
`Serialize` wrote for `S`, and after any reordering of `S` it accepts that
trailer and hands the reordered bytes to the key parser. -/
theorem additive_check_blind_to_order (env : Env) :
    (∀ (pre post : Bytes) (x y : UInt8), x ≠ y →
      checkTrailer env false (pre ++ y :: post ++ trailer (pre ++ x :: post)) =
        .error (.error (.StructuralError "private key checksum failure"))) ∧
    ∀ S S' : Bytes, S'.Perm S → checkTrailer env false (S' ++ trailer S) = .ok S' := by
  refine ⟨fun pre post x y differ => ?_, fun S S' perm => ?_⟩
  · have apart : x.toNat ≠ y.toNat := fun same => differ ((UInt8.eq_iff_toNat x y).mpr same)
    have := x.toNat_lt
    have := y.toNat_lt
    have sums : ¬mod64kHash (pre ++ y :: post) = mod64kHash (pre ++ x :: post) := by
      rw [mod64kHash_eq_iff]
      simp only [List.map_append, List.map_cons, List.sum_append, List.sum_cons]
      omega
    rw [checkTrailer_trailer, if_neg sums]
  · rw [checkTrailer_trailer, if_pos (mod64kHash_eq_iff.mpr (by rw [(perm.map _).sum_eq]))]

end OpenPGP.Checksum
