import OpenPGP.Proofs.Lifecycle

/-! What a failed `Decrypt` tells its caller. The integrity check rejects with
one of two `StructuralError`s, and which one depends only on the length of the
blob and on the checksum mode, never on the passphrase or on the bytes of the
blob. A plaintext that passes the check goes on to the key parser, and
`Decrypt` returns the parser's error unchanged, so a passphrase whose plaintext
passes the check is told apart from one whose plaintext does not. -/

namespace OpenPGP.ErrorOracle
open SecretMaterial Lifecycle

variable (env : Env)

/-- The error the integrity check returns on `length` bytes that it rejects. -/
def trailerError (sha1Checksum : Bool) (length : Nat) : Error :=
  .StructuralError (if length < (if sha1Checksum then sha1Size else 2)
    then "truncated private key data" else "private key checksum failure")

/-- The plaintext of `passphrase` passes the integrity check, and the key parser
fails with `e` on what is left of it. -/
def ParserFailure (pk : PrivateKey) (passphrase : Bytes) (e : Error) : Prop :=
  ∃ data plain, decryptData pk passphrase = .ok data ∧
    checkTrailer env pk.sha1Checksum data = .ok plain ∧
    (Go.run (parsePrivateKey plain) pk).1 = .error (.error e)

theorem checkTrailer_error {sha1Checksum : Bool} {data : Bytes} {fault : Fault}
    (rejected : checkTrailer env sha1Checksum data = .error fault) :
    fault = .error (trailerError sha1Checksum data.length) := by
  unfold checkTrailer at rejected
  cases sha1Checksum <;> simp only [Bool.false_eq_true, if_false, if_true] at rejected <;>
    split_ifs at rejected with short <;> cases rejected <;> simp [trailerError, short]

theorem decryptData_length {pk : PrivateKey} {passphrase data : Bytes}
    (decrypted : decryptData pk passphrase = .ok data) :
    data.length = (pk.encryptedData.getD []).length := by
  simp only [decryptData, Except.bind_eq_ok] at decrypted
  obtain ⟨_, _, _, _, _, _, _, _, streamed⟩ := decrypted
  exact CFB.XORKeyStream_length streamed

theorem decryptData_ne_error (pk : PrivateKey) (passphrase : Bytes) (e : Error) :
    decryptData pk passphrase ≠ .error (.error e) := by
  simp [decryptData, Except.bind_eq_error]

theorem Decrypt_error {pk : PrivateKey} (encrypted : pk.Encrypted = true) {passphrase : Bytes}
    {e : Error} (failed : (Go.run (PrivateKey.Decrypt env passphrase) pk).1 = .error (.error e)) :
    e = trailerError pk.sha1Checksum (pk.encryptedData.getD []).length ∨
      ParserFailure env pk passphrase e := by
  rw [Decrypt_run, if_pos encrypted] at failed
  rcases decrypted : decryptData pk passphrase with fault | data
  · rw [decrypted] at failed
    cases failed
    exact absurd decrypted (decryptData_ne_error pk passphrase e)
  rcases checked : checkTrailer env pk.sha1Checksum data with fault | plain
  · simp only [decrypted, checked] at failed
    cases failed
    have same := checkTrailer_error env checked
    rw [decryptData_length decrypted] at same
    exact .inl (Fault.error.inj same)
  · simp only [decrypted, checked] at failed
    exact .inr ⟨data, plain, decrypted, checked, failed⟩

/-- Two failed decryptions of blobs of one length in one checksum mode, under
any passphrases, return the same `StructuralError` unless the plaintext of one
of them passes the integrity check; that one returns the key parser's error. -/
theorem decrypt_failure_errors {pk₁ pk₂ : PrivateKey} {p₁ p₂ : Bytes} {e₁ e₂ : Error}
    (encrypted₁ : pk₁.Encrypted = true) (encrypted₂ : pk₂.Encrypted = true)
    (mode : pk₁.sha1Checksum = pk₂.sha1Checksum)
    (sameLength : (pk₁.encryptedData.getD []).length = (pk₂.encryptedData.getD []).length)
    (failed₁ : (Go.run (PrivateKey.Decrypt env p₁) pk₁).1 = .error (.error e₁))
    (failed₂ : (Go.run (PrivateKey.Decrypt env p₂) pk₂).1 = .error (.error e₂)) :
    (e₁ = trailerError pk₁.sha1Checksum (pk₁.encryptedData.getD []).length ∨
      ParserFailure env pk₁ p₁ e₁) ∧
    (e₂ = trailerError pk₁.sha1Checksum (pk₁.encryptedData.getD []).length ∨
      ParserFailure env pk₂ p₂ e₂) := by
  have second := Decrypt_error env encrypted₂ failed₂
  rw [← mode, ← sameLength] at second
  exact ⟨Decrypt_error env encrypted₁ failed₁, second⟩

theorem encryptedKey_failure_errors :
    (Error.ErrUnexpectedEOF =
        trailerError encryptedKey.sha1Checksum (encryptedKey.encryptedData.getD []).length ∨
      ParserFailure Collaborators.env encryptedKey [] .ErrUnexpectedEOF) ∧
    (Error.StructuralError "private key checksum failure" =
        trailerError encryptedKey.sha1Checksum (encryptedKey.encryptedData.getD []).length ∨
      ParserFailure Collaborators.env encryptedKey [1]
        (.StructuralError "private key checksum failure")) :=
  decrypt_failure_errors Collaborators.env rfl rfl rfl rfl rfl rfl

/-- One reachable key, one blob, two failed decryptions, two errors: under the
empty passphrase the blob `[0, 0]` decrypts to itself, passes the additive check
and leaves the RSA parser no bytes; under `[1]` it decrypts to `[1, 0]` and
fails the check. -/
theorem encryptedKey_errors_differ :
    Reachable Collaborators.env encryptedBody encryptedKey ∧ encryptedKey.Encrypted = true ∧
    (Go.run (PrivateKey.Decrypt Collaborators.env []) encryptedKey).1 =
      .error (.error .ErrUnexpectedEOF) ∧
    (Go.run (PrivateKey.Decrypt Collaborators.env [1]) encryptedKey).1 =
      .error (.error (.StructuralError "private key checksum failure")) :=
  ⟨encryptedKey_reachable, rfl, rfl, rfl⟩

end OpenPGP.ErrorOracle
