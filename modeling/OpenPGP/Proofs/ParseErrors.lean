import OpenPGP.Proofs.Signature
import OpenPGP.Proofs.Parse

/-! The errors the two packet parsers return. Each fails on a short read, on one
of its own checks, or, for a private key, with an error a collaborator or the
secret material returned; the error of each check names the byte it rejects but
one: `SignatureV3.parse` reports a hash id with no `CryptoHash` by `buf[2]`,
which still holds the third byte of the key id, where the id it looked up is
`buf[1]`. -/

namespace OpenPGP.ParseErrors
open Signature

theorem readFull_error {n : Nat} {r : Bytes} {e : Error} (failed : readFull n r = .error e) :
    e = .ErrUnexpectedEOF := by
  unfold readFull at failed
  split at failed <;> cases failed
  rfl

theorem MPI.ReadFrom_error {r : Bytes} {e : Error} (failed : MPI.ReadFrom r = .error e) :
    e = .ErrUnexpectedEOF := by
  rcases Reader.bind_eq_error failed with read | ⟨_, _, -, failed⟩
  · exact readFull_error read
  rcases Reader.bind_eq_error failed with read | ⟨_, _, -, failed⟩
  · exact readFull_error read
  · cases failed

section Signature

variable (registry : PublicKeyRegistry)

/-- The checks of `SignatureV3.parse` that reject `B`, each with the error it
returns: the version, the length of the hashed material, the algorithm id and
the hash id, in the order it reads them. -/
inductive Rejected (B : Bytes) : Error → Prop where
  | version {v : UInt8} {rest : Bytes} (shape : B = v :: rest) (unsupported : v < 2 ∨ v > 3) :
      Rejected B (.UnsupportedError ("signature packet version " ++ toString v.toNat))
  | length {v l : UInt8} {rest : Bytes} (shape : B = v :: l :: rest) (supported : v = 2 ∨ v = 3)
      (other : l ≠ 5) :
      Rejected B (.UnsupportedError ("invalid hashed material length " ++ toString l.toNat))
  | algorithm {v a h : UInt8} {hashed keyId rest : Bytes}
      (shape : B = v :: 5 :: hashed ++ keyId ++ a :: h :: rest) (supported : v = 2 ∨ v = 3)
      (five : hashed.length = 5) (eight : keyId.length = 8) (unknown : registry.byId a = none) :
      Rejected B (.UnsupportedError ("public key algorithm " ++ toString a.toNat))
  | hash {v a h : UInt8} {hashed keyId rest : Bytes} {algo : PublicKeyAlgorithm}
      (shape : B = v :: 5 :: hashed ++ keyId ++ a :: h :: rest) (supported : v = 2 ∨ v = 3)
      (five : hashed.length = 5) (eight : keyId.length = 8) (found : registry.byId a = some algo)
      (noCryptoHash : ∀ c, HashById h ≠ some (.crypto c)) :
      Rejected B (.UnsupportedError ("hash function " ++ toString (keyId.getD 2 0).toNat))

theorem parseValue_error {algo : PublicKeyAlgorithm} {r : Bytes} {s s' : SignatureV3} {e : Error}
    (failed : Go.run (SignatureV3.parseValue algo r) s = (.error (.error e), s')) :
    e = .ErrUnexpectedEOF := by
  unfold SignatureV3.parseValue at failed
  split_ifs at failed
  · rw [Go.run_modify_bind] at failed
    rcases Go.run_check_bind_error failed with ⟨_, read, same, -⟩ | ⟨_, -, failed⟩
    · cases same
      exact MPI.ReadFrom_error read
    · cases failed
  · rw [Go.run_modify_bind] at failed
    rcases Go.run_check_bind_error failed with ⟨_, read, same, -⟩ | ⟨_, -, failed⟩
    · cases same
      exact MPI.ReadFrom_error read
    rw [Go.run_modify_bind] at failed
    rcases Go.run_check_bind_error failed with ⟨_, read, same, -⟩ | ⟨_, -, failed⟩
    · cases same
      exact MPI.ReadFrom_error read
    · cases failed
  · cases failed

theorem parseHash_error {algo : PublicKeyAlgorithm} {keyId : Bytes} {h : UInt8} {r : Bytes}
    {s s' : SignatureV3} {e : Error}
    (failed : Go.run (SignatureV3.parseHash algo keyId h r) s = (.error (.error e), s'))
    (notShort : e ≠ .ErrUnexpectedEOF) :
    (∀ c, HashById h ≠ some (.crypto c)) ∧
      e = .UnsupportedError ("hash function " ++ toString (keyId.getD 2 0).toNat) := by
  unfold SignatureV3.parseHash at failed
  rcases found : HashById h with _ | ⟨c | id⟩ <;>
    simp only [found, Go.run_modify_bind, Go.run_throw, Prod.mk.injEq, Except.error.injEq,
      Fault.error.injEq] at failed
  · exact ⟨nofun, failed.1.symm⟩
  · rcases Go.run_check_bind_error failed with ⟨_, read, same, -⟩ | ⟨_, -, failed⟩
    · cases same
      exact absurd (readFull_error read) notShort
    · rw [Go.run_modify_bind] at failed
      exact absurd (parseValue_error failed) notShort
  · exact ⟨nofun, failed.1.symm⟩

theorem parse_error_rejected {B : Bytes} {sig₀ sig : SignatureV3} {e : Error}
    (failed : Go.run (SignatureV3.parse registry B) sig₀ = (.error (.error e), sig))
    (notShort : e ≠ .ErrUnexpectedEOF) : Rejected registry B e := by
  have noEOF : (.error (.error e) : Except Fault Bytes) ≠ .error (.error .ErrUnexpectedEOF) := by
    simpa using notShort
  simp only [SignatureV3.parse] at failed
  obtain ⟨version, B₁, oneV, rfl, afterVersion⟩ := Go.run_readFull_bind_of_ne failed noEOF
  obtain ⟨v, rfl⟩ := List.length_eq_one.mp oneV
  split at afterVersion
  · cases (Prod.mk.inj afterVersion).1
    exact .version rfl ‹_›
  next supported =>
  simp only [List.getD_cons_zero, Go.run_pure_bind] at afterVersion supported
  replace supported := version_supported supported
  obtain ⟨length, B₂, oneL, rfl, afterLength⟩ := Go.run_readFull_bind_of_ne afterVersion noEOF
  obtain ⟨l, rfl⟩ := List.length_eq_one.mp oneL
  split at afterLength
  · cases (Prod.mk.inj afterLength).1
    exact .length rfl supported ‹_›
  next five =>
  simp only [List.getD_cons_zero, Go.run_pure_bind, ne_eq, not_not] at afterLength five
  subst five
  obtain ⟨hashed, B₃, fiveH, rfl, afterHashed⟩ := Go.run_readFull_bind_of_ne afterLength noEOF
  rw [Go.run_modify_bind] at afterHashed
  obtain ⟨keyId, B₄, eightK, rfl, afterKey⟩ := Go.run_readFull_bind_of_ne afterHashed noEOF
  rw [Go.run_modify_bind] at afterKey
  obtain ⟨ids, B₅, twoI, rfl, afterIds⟩ := Go.run_readFull_bind_of_ne afterKey noEOF
  obtain ⟨a, h, rfl⟩ := List.length_eq_two.mp twoI
  simp only [Go.run_modify_bind, List.getD_cons_zero, List.getD_cons_succ] at afterIds
  have shape : [v] ++ ([5] ++ (hashed ++ (keyId ++ ([a, h] ++ B₅)))) =
      v :: 5 :: hashed ++ keyId ++ a :: h :: B₅ := by simp
  rcases found : registry.byId a with _ | algo <;> simp only [found] at afterIds
  · cases (Prod.mk.inj afterIds).1
    exact .algorithm shape supported fiveH eightK found
  · obtain ⟨noCryptoHash, rfl⟩ := parseHash_error afterIds notShort
    exact .hash shape supported fiveH eightK found noCryptoHash

theorem rejected_parse_error {B : Bytes} {e : Error} (rejected : Rejected registry B e)
    (sig₀ : SignatureV3) : (Go.run (SignatureV3.parse registry B) sig₀).1 = .error (.error e) := by
  cases rejected with
  | version shape unsupported =>
    subst shape
    simp [SignatureV3.parse, readFull, unsupported]
  | @length v _ _ shape supported other =>
    subst shape
    have old : ¬(v < 2 ∨ v > 3) := by rcases supported with rfl | rfl <;> decide
    simp [SignatureV3.parse, readFull, old, other]
  | algorithm shape supported five eight unknown =>
    subst shape
    obtain ⟨x, four, rfl⟩ := List.exists_cons_of_length_eq_add_one five
    rw [parse_lookup registry supported (by simpa using five) eight, unknown]
    rfl
  | hash shape supported five eight found noCryptoHash =>
    subst shape
    obtain ⟨x, four, rfl⟩ := List.exists_cons_of_length_eq_add_one five
    rw [parse_lookup registry supported (by simpa using five) eight, found]
    unfold SignatureV3.parseHash
    rcases hash : HashById _ with _ | ⟨c | id⟩
    · rfl
    · exact absurd hash (noCryptoHash c)
    · rfl

/-- The errors of `SignatureV3.parse`: a failure is a short read or the
rejection of one of the four checks, and each check that rejects the input
makes it fail with its error. The hash check's text prints the third byte of
the key id, not the hash id it rejected. -/
theorem SignatureV3_parse_errors (B : Bytes) (sig₀ : SignatureV3) :
    (∀ e, (Go.run (SignatureV3.parse registry B) sig₀).1 = .error (.error e) →
      e = .ErrUnexpectedEOF ∨ Rejected registry B e) ∧
    ∀ e, Rejected registry B e → (Go.run (SignatureV3.parse registry B) sig₀).1 = .error (.error e) :=
  ⟨fun e failed => (em (e = .ErrUnexpectedEOF)).imp_right
    (parse_error_rejected registry (Prod.ext failed rfl)), fun _ rejected =>
    rejected_parse_error registry rejected sig₀⟩

example : (Go.run (SignatureV3.parse PublicKeyById
    [3, 5, 0, 0, 0, 0, 0, 0, 0, 7, 0, 0, 0, 0, 0, 1, 99]) SignatureV3.new).1 =
      .error (.error (.UnsupportedError "hash function 7")) := rfl

end Signature

section PrivateKey

variable (env : Env)

/-- The ways `PrivateKey.parse` rejects the body `r` read into `pk₀`: an error
of the public-key parse or of `s2k.Parse`, returned as it is; its own checks of
the usage byte, the cipher id and the block size of the cipher; and an error of
the secret material of a cleartext key. -/
inductive Refused (pk₀ : PrivateKey) (r : Bytes) : Error → Prop where
  | publicKey {e : Error} (failed : env.parsePublicKey pk₀.PublicKey r = .error e) :
      Refused pk₀ r e
  | usage {pub : PublicKey} {b : UInt8} {rest : Bytes}
      (read : env.parsePublicKey pk₀.PublicKey r = .ok (pub, b :: rest)) (set : b ≠ 0)
      (deprecated : ¬(b = 254 ∨ b = 255)) :
      Refused pk₀ r (.UnsupportedError "deprecated s2k function in private key")
  | cipher {pub : PublicKey} {b id : UInt8} {rest : Bytes}
      (read : env.parsePublicKey pk₀.PublicKey r = .ok (pub, b :: id :: rest))
      (encrypted : b = 254 ∨ b = 255) (unknown : env.CipherById id = none) :
      Refused pk₀ r (.UnsupportedError ("unknown cipher: " ++ toString id.toNat))
  | s2k {pub : PublicKey} {b id : UInt8} {rest : Bytes} {c : Cipher} {e : Error}
      (read : env.parsePublicKey pk₀.PublicKey r = .ok (pub, b :: id :: rest))
      (encrypted : b = 254 ∨ b = 255) (found : env.CipherById id = some c)
      (failed : env.parseS2K rest = .error e) : Refused pk₀ r e
  | blockSize {pub : PublicKey} {b id : UInt8} {rest rest' : Bytes} {c : Cipher} {f : S2K}
      (read : env.parsePublicKey pk₀.PublicKey r = .ok (pub, b :: id :: rest))
      (encrypted : b = 254 ∨ b = 255) (found : env.CipherById id = some c)
      (s2k : env.parseS2K rest = .ok (f, rest')) (zero : c.BlockSize = 0) :
      Refused pk₀ r (.UnsupportedError ("unsupported cipher in private key: " ++ toString c.Id.toNat))
  | secret {pub : PublicKey} {rest : Bytes} {e : Error}
      (read : env.parsePublicKey pk₀.PublicKey r = .ok (pub, 0 :: rest))
      (failed : (Go.run (parsePrivateKey rest) { pk₀ with
        PublicKey := pub, s2k := none, Encrypted := false, encryptedData := some rest }).1 =
          .error (.error e)) :
      Refused pk₀ r e

theorem parseEncryptionParameters_error {s2kType : UInt8} {r : Bytes} {pk pk' : PrivateKey}
    {e : Error} (failed : Go.run (parseEncryptionParameters env s2kType r) pk = (.error (.error e), pk'))
    (notShort : e ≠ .ErrUnexpectedEOF) :
    ∃ id rest, r = id :: rest ∧ ((env.CipherById id = none ∧
      e = .UnsupportedError ("unknown cipher: " ++ toString id.toNat)) ∨
      ∃ c, env.CipherById id = some c ∧ env.parseS2K rest = .error e) := by
  simp only [parseEncryptionParameters] at failed
  obtain ⟨buf, rest, one, rfl, afterId⟩ := Go.run_readFull_bind_of_ne failed (by simpa using notShort)
  obtain ⟨id, rfl⟩ := List.length_eq_one.mp one
  refine ⟨id, rest, rfl, ?_⟩
  simp only [Go.run_modify_bind, List.getD_cons_zero] at afterId
  rcases found : env.CipherById id with _ | c <;> simp only [found] at afterId
  · exact .inl ⟨rfl, (Fault.error.inj (Except.error.inj (Prod.mk.inj afterId).1)).symm⟩
  · rw [Go.run_modify_bind] at afterId
    rcases Go.run_check_bind_error afterId with ⟨_, s2k, same, -⟩ | ⟨_, -, afterS2K⟩
    · cases same
      exact .inr ⟨c, rfl, s2k⟩
    · split at afterS2K <;> cases afterS2K

theorem parseIV_error {r : Bytes} {pk pk' : PrivateKey} {c : Cipher} (cipher : pk.cipher = some c)
    {e : Error} (failed : Go.run (parseIV r) pk = (.error (.error e), pk'))
    (notShort : e ≠ .ErrUnexpectedEOF) :
    c.BlockSize = 0 ∧ e = .UnsupportedError ("unsupported cipher in private key: " ++ toString c.Id.toNat) := by
  simp only [parseIV, Go.run_get_bind, cipher, deref_some, Go.run_lift_bind] at failed
  split_ifs at failed with zero
  · exact ⟨zero, (Fault.error.inj (Except.error.inj (Prod.mk.inj failed).1)).symm⟩
  · rw [Go.run_pure_bind] at failed
    obtain ⟨_, _, -, -, failed⟩ := Go.run_readFull_bind_of_ne failed (by simpa using notShort)
    cases failed

theorem parse_error_refused {r : Bytes} {pk₀ pk : PrivateKey} {e : Error}
    (failed : Go.run (PrivateKey.parse env r) pk₀ = (.error (.error e), pk))
    (notShort : e ≠ .ErrUnexpectedEOF) : Refused env pk₀ r e := by
  have whole := failed
  simp only [PrivateKey.parse, Go.run_get_bind] at failed
  rcases Go.run_check_bind_error failed with ⟨_, read, same, -⟩ | ⟨⟨pub, r₁⟩, read, afterHeader⟩
  · cases same
    exact .publicKey read
  rw [Go.run_modify_bind] at afterHeader
  obtain ⟨buf, r₂, one, rfl, afterUsage⟩ :=
    Go.run_readFull_bind_of_ne afterHeader (by simpa using notShort)
  obtain ⟨b, rfl⟩ := List.length_eq_one.mp one
  by_cases cleartext : b = 0
  · subst cleartext
    rw [Parse.parse_cleartext env read] at whole
    exact .secret read (congrArg Prod.fst whole)
  by_cases encrypted : b = 254 ∨ b = 255
  · simp only [List.getD_cons_zero, cleartext, encrypted, if_true, if_false] at afterUsage
    rw [Go.run_bind] at afterUsage
    split at afterUsage
    next r₃ pk₁ parameters =>
      obtain ⟨id, mid, c, f, _, rfl, found, s2k, rfl⟩ :=
        Parse.parseEncryptionParameters_ok env parameters
      simp only [Go.run_get_bind, if_true] at afterUsage
      rw [Go.run_bind] at afterUsage
      split at afterUsage
      next => simp at afterUsage
      next fault pk₂ failedIV =>
        cases (Prod.mk.inj afterUsage).1
        obtain ⟨zero, rfl⟩ := parseIV_error rfl failedIV notShort
        exact .blockSize read encrypted found s2k zero
    next fault pk₁ failedParameters =>
      cases (Prod.mk.inj afterUsage).1
      obtain ⟨id, rest, rfl, ⟨unknown, rfl⟩ | ⟨c, found, s2k⟩⟩ :=
        parseEncryptionParameters_error env failedParameters notShort
      · exact .cipher read encrypted unknown
      · exact .s2k read encrypted found s2k
  · simp only [List.getD_cons_zero, cleartext, encrypted, if_false, Go.run_throw_bind] at afterUsage
    cases (Prod.mk.inj afterUsage).1
    exact .usage read cleartext encrypted

theorem refused_parse_error {r : Bytes} {pk₀ : PrivateKey} {e : Error}
    (refused : Refused env pk₀ r e) :
    (Go.run (PrivateKey.parse env r) pk₀).1 = .error (.error e) := by
  cases refused with
  | publicKey failed => simp only [PrivateKey.parse, Go.run_get_bind, failed, Go.run_check_bind]
  | usage read set deprecated =>
    simp only [PrivateKey.parse, Go.run_get_bind, read, Go.run_check_bind, Go.run_modify_bind,
      readFull, List.length_cons, le_add_iff_nonneg_left, zero_le, ↓reduceIte, List.take_succ_cons,
      List.take_zero, List.drop_succ_cons, List.drop_zero, List.getD_cons_zero, set, deprecated,
      Go.run_throw_bind]
  | cipher read encrypted unknown =>
    rw [Parse.parse_encrypted env read encrypted]
    simp [parseEncryptionParameters, readFull, unknown]
  | s2k read encrypted found failed =>
    rw [Parse.parse_encrypted env read encrypted]
    simp [parseEncryptionParameters, readFull, found, failed]
  | blockSize read encrypted found s2k zero =>
    rw [Parse.parse_encrypted env read encrypted]
    simp only [parseEncryptionParameters, readFull, List.length_cons, le_add_iff_nonneg_left,
      zero_le, ↓reduceIte, List.take_succ_cons, List.take_zero, List.drop_succ_cons, List.drop_zero,
      Go.run_check_bind, Go.run_modify_bind, List.getD_cons_zero, found, s2k]
    split_ifs <;> simp [parseIV, zero, -bind_pure_comp]
  | secret read failed =>
    rw [Parse.parse_cleartext env read]
    exact failed

/-- The errors of `PrivateKey.parse`: a failure is a short read or one of the
refusals, and each refusal makes it fail with its error. Its own checks name
the byte they reject: the cipher id, or the id of the cipher of block size 0. -/
theorem PrivateKey_parse_errors (r : Bytes) (pk₀ : PrivateKey) :
    (∀ e, (Go.run (PrivateKey.parse env r) pk₀).1 = .error (.error e) →
      e = .ErrUnexpectedEOF ∨ Refused env pk₀ r e) ∧
    ∀ e, Refused env pk₀ r e → (Go.run (PrivateKey.parse env r) pk₀).1 = .error (.error e) :=
  ⟨fun e failed => (em (e = .ErrUnexpectedEOF)).imp_right
    (parse_error_refused env (Prod.ext failed rfl)), fun _ refused => refused_parse_error env refused⟩

end PrivateKey

section SecretMaterial

/-- `Validate` rejects, with `e`, the RSA key that the secret-material parse of
`data` builds from `D` and the primes `[p, q]` of its first three MPIs. -/
def Invalid (pk : PrivateKey) (data : Bytes) (e : Error) : Prop :=
  IsRSA pk.PublicKey.PubKeyAlgo ∧ ∃ key d p q r₁ r₂ r₃, pk.PublicKey.PublicKey = .rsa key ∧
    MPI.ReadFrom data = .ok (d, r₁) ∧ MPI.ReadFrom r₁ = .ok (p, r₂) ∧
    MPI.ReadFrom r₂ = .ok (q, r₃) ∧
    RSAPrivateKey.Validate ⟨key, d.value, [p.value, q.value], none⟩ = .error e

theorem parseSingleMPIPrivateKey_error {select : PublicKeyValue → Option κ} {name : String}
    {build : κ → Nat → PrivateKeyValue} {data : Bytes} {pk pk' : PrivateKey} {e : Error}
    (failed : Go.run (parseSingleMPIPrivateKey select name build data) pk = (.error (.error e), pk')) :
    e = .ErrUnexpectedEOF := by
  rcases selected : select pk.PublicKey.PublicKey with _ | pub <;>
    simp only [parseSingleMPIPrivateKey, Go.run_get_bind, PublicKeyValue.assert, selected,
      Go.run_lift_bind] at failed
  · cases failed
  rcases Go.run_check_bind_error failed with ⟨_, read, ⟨⟩, -⟩ | ⟨_, -, failed⟩
  · exact MPI.ReadFrom_error read
  · cases failed

theorem parseRSAPrivateKey_error {data : Bytes} {pk pk' : PrivateKey} {e : Error}
    (rsa : IsRSA pk.PublicKey.PubKeyAlgo)
    (failed : Go.run (parseRSAPrivateKey data) pk = (.error (.error e), pk')) :
    e = .ErrUnexpectedEOF ∨ Invalid pk data e := by
  rcases value : pk.PublicKey.PublicKey with key | _ | _ | _ | _ <;>
    simp only [parseRSAPrivateKey, Go.run_get_bind, PublicKeyValue.assert, value,
      Go.run_lift_bind] at failed
  all_goals try cases failed
  rcases Go.run_check_bind_error failed with ⟨_, readD, ⟨⟩, -⟩ | ⟨⟨d, r₁⟩, readD, failed⟩
  · exact .inl (MPI.ReadFrom_error readD)
  rcases Go.run_check_bind_error failed with ⟨_, readP, ⟨⟩, -⟩ | ⟨⟨p, r₂⟩, readP, failed⟩
  · exact .inl (MPI.ReadFrom_error readP)
  rcases Go.run_check_bind_error failed with ⟨_, readQ, ⟨⟩, -⟩ | ⟨⟨q, r₃⟩, readQ, failed⟩
  · exact .inl (MPI.ReadFrom_error readQ)
  rcases Go.run_check_bind_error failed with ⟨_, invalid, ⟨⟩, -⟩ | ⟨⟨⟩, validated, failed⟩
  · exact .inr ⟨rsa, key, d, p, q, r₁, r₂, r₃, value, readD, readP, readQ, invalid⟩
  simp [RSAPrivateKey.Precompute_ok rfl (RSAPrivateKey.Validate_ok.mp validated)] at failed

theorem parsePrivateKey_error_invalid {data : Bytes} {pk pk' : PrivateKey} {e : Error}
    (failed : Go.run (parsePrivateKey data) pk = (.error (.error e), pk')) :
    e = .ErrUnexpectedEOF ∨ Invalid pk data e := by
  simp only [parsePrivateKey, Go.run_get_bind] at failed
  split_ifs at failed with rsa
  · exact parseRSAPrivateKey_error rsa failed
  iterate 3 exact .inl (parseSingleMPIPrivateKey_error failed)
  · cases failed

theorem invalid_parsePrivateKey_error {data : Bytes} {pk : PrivateKey} {e : Error}
    (invalid : Invalid pk data e) : (Go.run (parsePrivateKey data) pk).1 = .error (.error e) := by
  obtain ⟨rsa, key, d, p, q, r₁, r₂, r₃, value, readD, readP, readQ, rejected⟩ := invalid
  simp only [parsePrivateKey, parseRSAPrivateKey, PublicKeyValue.assert, readD, Go.run_get_bind, rsa,
    ↓reduceIte, value, Go.run_lift_bind, Go.run_check_bind, readP, readQ, rejected]

/-- The secret-material parse fails with an error other than
`io.ErrUnexpectedEOF`, a short MPI, exactly when `Validate` rejects the RSA key
it builds, and then with `Validate`'s error: the DSA, ElGamal and ECDSA parsers
fail only on a short MPI. -/
theorem parsePrivateKey_errors (data : Bytes) (pk : PrivateKey) :
    (∀ e, (Go.run (parsePrivateKey data) pk).1 = .error (.error e) →
      e = .ErrUnexpectedEOF ∨ Invalid pk data e) ∧
    ∀ e, Invalid pk data e → (Go.run (parsePrivateKey data) pk).1 = .error (.error e) :=
  ⟨fun _ failed => parsePrivateKey_error_invalid (Prod.ext failed rfl),
    fun _ invalid => invalid_parsePrivateKey_error invalid⟩

end SecretMaterial

end OpenPGP.ParseErrors
