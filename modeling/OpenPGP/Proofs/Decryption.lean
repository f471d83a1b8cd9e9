import OpenPGP.Proofs.Checksum
import OpenPGP.Proofs.Safety

/-! `Decrypt` against the encryption a key's creator performs. The blob is the
secret material followed by its integrity trailer, under CFB with the key the
S2K function derives from the passphrase; `Decrypt` with that passphrase undoes
it and parses exactly the secret material. A caller may retry passphrases, as
`TestPrivateKeyRead` does: the failed attempts leave no trace, and the first
attempt that succeeds decides the key. -/

namespace OpenPGP.Decryption
open SecretMaterial Lifecycle Safety

variable (env : Env)

/-- Modelled from the spec: the plaintext of an encrypted key's blob, the secret
material followed by the trailer its checksum mode selects, the SHA-1 digest or
the 16-bit sum `Serialize` writes (RFC 4880 section 5.5.3). -/
def sealed (sha1Checksum : Bool) (plain : Bytes) : Bytes :=
  plain ++ if sha1Checksum then env.sha1 plain else Checksum.trailer plain

theorem checkTrailer_sealed {sha1Checksum : Bool} {plain : Bytes}
    (digest : sha1Checksum = true → (env.sha1 plain).length = sha1Size) :
    checkTrailer env sha1Checksum (sealed env sha1Checksum plain) = .ok plain := by
  cases sha1Checksum
  · simp [sealed, Checksum.trailer, Checksum.checkTrailer_additive]
  · have length := digest rfl
    simp [sealed, checkTrailer, length]

/-- The integrity check accepts exactly the sealed plaintexts: in either mode it
returns `plain` for `data` exactly when `data` is `plain` followed by the
trailer the mode selects, a SHA-1 digest of `sha1.Size` bytes or the 16-bit
sum `Serialize` writes. -/
theorem checkTrailer_ok_iff (sha1Checksum : Bool) (data plain : Bytes) :
    checkTrailer env sha1Checksum data = .ok plain ↔
      data = sealed env sha1Checksum plain ∧
        (sha1Checksum = true → (env.sha1 plain).length = sha1Size) := by
  refine ⟨fun checked => ?_, fun ⟨sealedData, digest⟩ => sealedData ▸ checkTrailer_sealed env digest⟩
  cases sha1Checksum with
  | false =>
    have long : 2 ≤ data.length := by
      by_contra short
      rw [Checksum.checkTrailer_short env false (by simpa using short)] at checked
      cases checked
    obtain ⟨pre, a, b, rfl⟩ := Checksum.exists_append_pair long
    rw [Checksum.checkTrailer_additive] at checked
    split at checked
    · cases checked
    next same =>
      obtain ⟨high, low⟩ := not_or.mp same
      rw [not_not] at high low
      cases checked
      exact ⟨by simp [sealed, Checksum.trailer, high, low], nofun⟩
  | true =>
    simp only [checkTrailer, if_true] at checked
    split_ifs at checked with short digest
    cases checked
    rw [not_not] at digest
    refine ⟨by rw [sealed, if_pos rfl, digest, List.take_append_drop], fun _ => ?_⟩
    rw [digest, List.length_drop]
    omega

/-- `Decrypt` with the passphrase a blob was encrypted under undoes the CFB
encryption, accepts the trailer and parses exactly the secret material, in
either checksum mode. -/
theorem Decrypt_sealed {pk : PrivateKey} {c : Cipher} {f : S2K} {passphrase plain : Bytes}
    (encrypted : pk.Encrypted = true) (cipher : pk.cipher = some c) (available : c.Available = true)
    (positive : 0 < c.BlockSize) (iv : pk.iv.length = c.BlockSize) (s2k : pk.s2k = some f)
    (digest : pk.sha1Checksum = true → (env.sha1 plain).length = sha1Size)
    (blob : pk.encryptedData = some (cfbEncrypt
      ⟨c.BlockSize, c.encrypt (f passphrase c.KeySize), c.encrypt_length _⟩
      (sealed env pk.sha1Checksum plain).length pk.iv (sealed env pk.sha1Checksum plain))) :
    Go.run (PrivateKey.Decrypt env passphrase) pk = Go.run (parsePrivateKey plain) pk := by
  rw [Decrypt_run, if_pos encrypted, decryptData_cfbEncrypt cipher available positive iv s2k blob]
  simp only [checkTrailer_sealed env digest]

theorem heavyKey_Decrypt_sealed :
    Go.run (PrivateKey.Decrypt Collaborators.env [1]) Checksum.heavyKey =
      Go.run (parsePrivateKey Checksum.heavySecret) Checksum.heavyKey :=
  Decrypt_sealed Collaborators.env rfl rfl rfl (by decide) rfl rfl nofun rfl

/-- The receiver after `Decrypt` is called with each passphrase in turn,
whatever each call returns. -/
def decryptAll (pk : PrivateKey) : List Bytes → PrivateKey
  | [] => pk
  | passphrase :: rest => decryptAll (Go.run (PrivateKey.Decrypt env passphrase) pk).2 rest

theorem decryptAll_decrypted {pk : PrivateKey} (decrypted : pk.Encrypted = false)
    (passphrases : List Bytes) : decryptAll env pk passphrases = pk := by
  induction passphrases with
  | nil => rfl
  | cons passphrase rest ih => simp only [decryptAll, Decrypt_decrypted env _ decrypted, ih]

/-- Retrying passphrases: a run of `Decrypt` calls ends with the key the first
successful call makes of the key it started from, or with that key unchanged
when no call succeeds. Failed calls leave no trace, and calls after a success
change nothing. -/
theorem decryptAll_first_success (pk : PrivateKey) (passphrases : List Bytes) :
    decryptAll env pk passphrases =
      match passphrases.find? fun p => (Go.run (PrivateKey.Decrypt env p) pk).1.isOk with
      | some p => (Go.run (PrivateKey.Decrypt env p) pk).2
      | none => pk := by
  induction passphrases with
  | nil => rfl
  | cons passphrase rest ih =>
    cases encrypted : pk.Encrypted
    · simp [decryptAll, Decrypt_decrypted env _ encrypted, decryptAll_decrypted env encrypted,
        List.find?_cons, Except.toBool]
    · rcases Decrypt_installsOrFails env passphrase encrypted with
        ⟨fault, failed⟩ | ⟨key, -, installed⟩
      · simp [decryptAll, failed, ih, List.find?_cons, Except.toBool]
      · simp [decryptAll, installed, List.find?_cons, Except.toBool,
          decryptAll_decrypted env (install_Encrypted pk key)]

end OpenPGP.Decryption
