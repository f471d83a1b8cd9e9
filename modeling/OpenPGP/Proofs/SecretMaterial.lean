import OpenPGP.PrivateKey

/-! What the secret-material parsers can do to a receiver: fail and leave it as
it was, or install a key of the family the public portion names, embedding that
portion's key, and change nothing else. `Decrypt` is the decryption of the
blob, the trailer check, and one such parse. -/

namespace OpenPGP.SecretMaterial

/-- The private key is of the family the algorithm id names and embeds the
public portion's key; an RSA key has passed `Validate`. -/
def Matches (pub : PublicKey) : PrivateKeyValue → Prop
  | .rsa key => IsRSA pub.PubKeyAlgo ∧ pub.PublicKey = .rsa key.PublicKey ∧ RSAValid key
  | .dsa key => pub.PubKeyAlgo = PubKeyAlgoDSA ∧ pub.PublicKey = .dsa key.PublicKey
  | .elgamal key => pub.PubKeyAlgo = PubKeyAlgoElGamal ∧ pub.PublicKey = .elgamal key.PublicKey
  | .ecdsa key => pub.PubKeyAlgo = PubKeyAlgoECDSA ∧ pub.PublicKey = .ecdsa key.PublicKey
  | .other => False

/-- What parsing secret material may do to the receiver `pk`. -/
def InstallsOrFails (call : Go PrivateKey Unit) (pk : PrivateKey) : Prop :=
  (∃ fault, Go.run call pk = (.error fault, pk)) ∨
    ∃ key, Matches pk.PublicKey key ∧ Go.run call pk = (.ok (), pk.install key)

@[simp] theorem install_PublicKey (pk : PrivateKey) (key : PrivateKeyValue) :
    (pk.install key).PublicKey = pk.PublicKey := rfl

@[simp] theorem install_Encrypted (pk : PrivateKey) (key : PrivateKeyValue) :
    (pk.install key).Encrypted = false := rfl

theorem install_inj {pk pk' : PrivateKey} {key key' : PrivateKeyValue}
    (same : pk.install key = pk'.install key') : key = key' := by
  simpa [PrivateKey.install] using congrArg PrivateKey.PrivateKey same

theorem installsOrFails_PublicKey {call : Go PrivateKey Unit} {pk : PrivateKey}
    (outcome : InstallsOrFails call pk) : (Go.run call pk).2.PublicKey = pk.PublicKey := by
  rcases outcome with ⟨_, failed⟩ | ⟨key, -, installed⟩ <;> simp [*]

theorem assert_ok {select : PublicKeyValue → Option κ} {name : String} {value : PublicKeyValue}
    {key : κ} : value.assert select name = .ok key ↔ select value = some key := by
  unfold PublicKeyValue.assert
  split <;> simp_all

theorem parseSingleMPIPrivateKey_installsOrFails (select : PublicKeyValue → Option κ)
    (name : String) (build : κ → Nat → PrivateKeyValue) (data : Bytes) (pk : PrivateKey)
    (fits : ∀ key x, select pk.PublicKey.PublicKey = some key → Matches pk.PublicKey (build key x)) :
    InstallsOrFails (parseSingleMPIPrivateKey select name build data) pk := by
  simp only [InstallsOrFails, parseSingleMPIPrivateKey, Go.run_get_bind, Go.run_lift_bind]
  rcases asserted : pk.PublicKey.PublicKey.assert select name with fault | pub
  · exact .inl ⟨fault, rfl⟩
  rcases MPI.ReadFrom data with err | ⟨x, _⟩
  · exact .inl ⟨.error err, rfl⟩
  · exact .inr ⟨build pub x.value, fits pub _ (assert_ok.mp asserted), rfl⟩

theorem parseRSAPrivateKey_installsOrFails (data : Bytes) (pk : PrivateKey)
    (rsa : IsRSA pk.PublicKey.PubKeyAlgo) : InstallsOrFails (parseRSAPrivateKey data) pk := by
  simp only [InstallsOrFails, parseRSAPrivateKey, Go.run_get_bind, Go.run_lift_bind]
  rcases asserted : pk.PublicKey.PublicKey.assert _ _ with fault | pub
  · exact .inl ⟨fault, rfl⟩
  simp only [Go.run_check_bind]
  rcases MPI.ReadFrom data with err | ⟨d, buf⟩
  · exact .inl ⟨.error err, rfl⟩
  dsimp only
  rcases MPI.ReadFrom buf with err | ⟨p, buf⟩
  · exact .inl ⟨.error err, rfl⟩
  dsimp only
  rcases MPI.ReadFrom buf with err | ⟨q, _⟩
  · exact .inl ⟨.error err, rfl⟩
  dsimp only
  rcases validated : RSAPrivateKey.Validate ⟨pub, d.value, [p.value, q.value], none⟩ with err | ⟨⟩
  · exact .inl ⟨.error err, rfl⟩
  have valid := RSAPrivateKey.Validate_ok.mp validated
  simp only [RSAPrivateKey.Precompute_ok rfl valid, Go.run_lift_bind, Go.run_modify]
  have same : pk.PublicKey.PublicKey = .rsa pub := by
    have := assert_ok.mp asserted
    split at this <;> simp_all
  exact .inr ⟨.rsa { (⟨pub, d.value, [p.value, q.value], none⟩ : RSAPrivateKey) with
    Qinv := modInverse q.value p.value }, ⟨rsa, same, valid.withQinv _⟩, rfl⟩

theorem installsOrFails_get_bind (f : PrivateKey → Go PrivateKey Unit) (pk : PrivateKey) :
    InstallsOrFails (get >>= f) pk ↔ InstallsOrFails (f pk) pk := Iff.rfl

theorem parsePrivateKey_installsOrFails (data : Bytes) (pk : PrivateKey) :
    InstallsOrFails (parsePrivateKey data) pk := by
  rw [parsePrivateKey, installsOrFails_get_bind]
  dsimp only
  split
  · exact parseRSAPrivateKey_installsOrFails data pk ‹_›
  split
  · exact parseSingleMPIPrivateKey_installsOrFails _ _ _ data pk fun key x found =>
      ⟨‹_›, by cases same : pk.PublicKey.PublicKey <;> simp_all⟩
  split
  · exact parseSingleMPIPrivateKey_installsOrFails _ _ _ data pk fun key x found =>
      ⟨‹_›, by cases same : pk.PublicKey.PublicKey <;> simp_all⟩
  split
  · exact parseSingleMPIPrivateKey_installsOrFails _ _ _ data pk fun key x found =>
      ⟨‹_›, by cases same : pk.PublicKey.PublicKey <;> simp_all⟩
  · exact .inl ⟨_, rfl⟩

/-- The decryption of an encrypted key that carries a cipher, an S2K function
and an IV of one block: the CFB stream over its blob under the S2K key, or the
panic of a cipher that is not linked in. -/
theorem decryptData_eq {pk : PrivateKey} {c : Cipher} {f : S2K} (cipher : pk.cipher = some c)
    (s2k : pk.s2k = some f) (positive : 0 < c.BlockSize) (iv : pk.iv.length = c.BlockSize)
    (passphrase : Bytes) :
    decryptData pk passphrase =
      if c.Available then
        .ok (cfbBlocks ⟨c.BlockSize, c.encrypt (f passphrase c.KeySize), c.encrypt_length _⟩
          (pk.encryptedData.getD []).length pk.iv (pk.encryptedData.getD []))
      else .error (.panic "algorithm: cipher not available") := by
  by_cases available : c.Available
  · simp [decryptData, cipher, s2k, Cipher.New, available, NewCFBDecrypter, iv, CFB.XORKeyStream,
      positive.ne']
  · simp [decryptData, cipher, s2k, Cipher.New, available]

theorem decryptData_cfbEncrypt {pk : PrivateKey} {c : Cipher} {f : S2K} {passphrase data : Bytes}
    (cipher : pk.cipher = some c) (available : c.Available = true) (positive : 0 < c.BlockSize)
    (iv : pk.iv.length = c.BlockSize) (s2k : pk.s2k = some f)
    (blob : pk.encryptedData = some (cfbEncrypt
      ⟨c.BlockSize, c.encrypt (f passphrase c.KeySize), c.encrypt_length _⟩ data.length pk.iv data)) :
    decryptData pk passphrase = .ok data := by
  rw [decryptData_eq cipher s2k positive iv, if_pos available, blob, Option.getD_some,
    cfbEncrypt_length positive _ _ _ le_rfl, cfbBlocks_cfbEncrypt positive _ _ _ le_rfl]

variable (env : Env) (passphrase : Bytes)

theorem Decrypt_run (pk : PrivateKey) :
    Go.run (PrivateKey.Decrypt env passphrase) pk =
      if pk.Encrypted then
        match decryptData pk passphrase with
        | .error fault => (.error fault, pk)
        | .ok data =>
          match checkTrailer env pk.sha1Checksum data with
          | .error fault => (.error fault, pk)
          | .ok data => Go.run (parsePrivateKey data) pk
      else (.ok (), pk) := by
  simp only [PrivateKey.Decrypt, Go.run_get_bind]
  cases pk.Encrypted
  · rfl
  · simp only [Bool.not_true, Bool.false_eq_true, if_false, if_true, Go.run_lift_bind]
    rcases decryptData pk passphrase with fault | data
    · rfl
    · simp only [Go.run_lift_bind]
      rcases checkTrailer env pk.sha1Checksum data with fault | data <;> rfl

theorem Decrypt_decrypted {pk : PrivateKey} (decrypted : pk.Encrypted = false) :
    Go.run (PrivateKey.Decrypt env passphrase) pk = (.ok (), pk) := by
  simp [Decrypt_run, decrypted]

theorem Decrypt_installsOrFails {pk : PrivateKey} (encrypted : pk.Encrypted = true) :
    InstallsOrFails (PrivateKey.Decrypt env passphrase) pk := by
  unfold InstallsOrFails
  rw [Decrypt_run, if_pos encrypted]
  rcases decryptData pk passphrase with fault | data
  · exact .inl ⟨_, rfl⟩
  dsimp only
  rcases checkTrailer env pk.sha1Checksum data with fault | data
  · exact .inl ⟨_, rfl⟩
  · exact parsePrivateKey_installsOrFails data pk

end OpenPGP.SecretMaterial
