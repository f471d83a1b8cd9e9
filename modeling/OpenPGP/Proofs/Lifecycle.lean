import OpenPGP.Proofs.Parse
import OpenPGP.Collaborators

/-! The life of a private key: parsed once from a packet body, then decrypted by
any number of `Decrypt` calls. An encrypted key carries everything decryption
needs and no secret key; a decrypted one carries a secret key of its public
key's family and no blob, and no later call changes it. A failed `Decrypt`
leaves no trace. -/

namespace OpenPGP.Lifecycle
open SecretMaterial Parse

variable (env : Env)

/-- The states a key reaches from its packet body `r`: a successful parse of
`r` into a fresh key, then `Decrypt` calls with any passphrases, whatever each
returns. -/
inductive Reachable (r : Bytes) : PrivateKey → Prop where
  | parse {isSubkey : Bool} {pk : PrivateKey}
      (parsed : Go.run (PrivateKey.parse env r) (PrivateKey.new isSubkey) = (.ok (), pk)) :
      Reachable r pk
  | decrypt {pk pk' : PrivateKey} {result : Except Fault Unit} (passphrase : Bytes)
      (reached : Reachable r pk)
      (step : Go.run (PrivateKey.Decrypt env passphrase) pk = (result, pk')) : Reachable r pk'

/-- An encrypted key holds no secret key, the rest of its body after the IV as
its blob, a registered cipher of positive block size with an IV of one block,
and an S2K function. -/
structure EncryptedState (r : Bytes) (pk : PrivateKey) : Prop where
  noKey : pk.PrivateKey = none
  blob : ∃ pre data, r = pre ++ pk.iv ++ data ∧ pk.encryptedData = some data
  cipher : ∃ id c, env.CipherById id = some c ∧ pk.cipher = some c ∧ 0 < c.BlockSize ∧
    pk.iv.length = c.BlockSize
  s2k : ∃ f, pk.s2k = some f

/-- A decrypted key holds no blob and a secret key of the family its algorithm
id names, embedding its public key. -/
structure DecryptedState (pk : PrivateKey) : Prop where
  noBlob : pk.encryptedData = none
  key : ∃ key, pk.PrivateKey = some key ∧ Matches pk.PublicKey key

/-- The invariant, by the value of `Encrypted`. -/
def Invariant (r : Bytes) (pk : PrivateKey) : Prop :=
  (pk.Encrypted = true → EncryptedState env r pk) ∧ (pk.Encrypted = false → DecryptedState pk)

theorem install_decrypted {pk : PrivateKey} {key : PrivateKeyValue}
    (fits : Matches pk.PublicKey key) : DecryptedState (pk.install key) :=
  ⟨rfl, key, rfl, fits⟩

theorem invariant_parse {r : Bytes} {isSubkey : Bool} {pk : PrivateKey}
    (parsed : Go.run (PrivateKey.parse env r) (PrivateKey.new isSubkey) = (.ok (), pk)) :
    Invariant env r pk := by
  rcases parse_ok env parsed with ⟨encrypted, noKey, s2k, cipher, blob⟩ | ⟨mid, key, fits, rfl⟩
  · exact ⟨fun _ => ⟨noKey, blob, cipher, s2k⟩, fun decrypted => by simp_all⟩
  · exact ⟨nofun, fun _ => install_decrypted fits⟩

theorem invariant_decrypt {r : Bytes} {pk pk' : PrivateKey} {result : Except Fault Unit}
    (passphrase : Bytes) (invariant : Invariant env r pk)
    (step : Go.run (PrivateKey.Decrypt env passphrase) pk = (result, pk')) :
    Invariant env r pk' := by
  cases encrypted : pk.Encrypted
  · rw [Decrypt_decrypted env passphrase encrypted, Prod.mk.injEq] at step
    exact step.2 ▸ invariant
  · rcases Decrypt_installsOrFails env passphrase encrypted with
      ⟨fault, failed⟩ | ⟨key, fits, installed⟩
    · rw [failed, Prod.mk.injEq] at step
      exact step.2 ▸ invariant
    · rw [installed, Prod.mk.injEq] at step
      exact step.2 ▸ ⟨nofun, fun _ => install_decrypted fits⟩

theorem reachable_invariant {r : Bytes} {pk : PrivateKey} (reached : Reachable env r pk) :
    Invariant env r pk := by
  induction reached with
  | parse parsed => exact invariant_parse env parsed
  | decrypt passphrase _ step invariant => exact invariant_decrypt env passphrase invariant step

/-- Every state a parsed key reaches satisfies the invariant of its
`Encrypted` flag, and once decrypted every `Decrypt` call returns nil and
changes nothing. -/
theorem reachable_state_invariant {r : Bytes} {pk : PrivateKey} (reached : Reachable env r pk) :
    (pk.Encrypted = true → EncryptedState env r pk) ∧
    (pk.Encrypted = false → DecryptedState pk) ∧
    (pk.Encrypted = false → ∀ passphrase,
      Go.run (PrivateKey.Decrypt env passphrase) pk = (.ok (), pk)) :=
  ⟨(reachable_invariant env reached).1, (reachable_invariant env reached).2,
    fun decrypted passphrase => Decrypt_decrypted env passphrase decrypted⟩

def encryptedBody : Bytes := [1, 0, 7, 105, 0, 3, 5, 255, 7, 0, 2] ++ List.replicate 16 0 ++ [0, 0]

def encryptedKey : PrivateKey :=
  (Go.run (PrivateKey.parse Collaborators.env encryptedBody) (PrivateKey.new false)).2

theorem encryptedKey_reachable : Reachable Collaborators.env encryptedBody encryptedKey :=
  .parse (Prod.ext rfl rfl)

theorem encryptedKey_state_invariant :
    Reachable Collaborators.env encryptedBody encryptedKey ∧
    (encryptedKey.Encrypted = true → EncryptedState Collaborators.env encryptedBody encryptedKey) ∧
    (encryptedKey.Encrypted = false → DecryptedState encryptedKey) ∧
    (encryptedKey.Encrypted = false → ∀ passphrase,
      Go.run (PrivateKey.Decrypt Collaborators.env passphrase) encryptedKey = (.ok (), encryptedKey)) :=
  ⟨encryptedKey_reachable, reachable_state_invariant Collaborators.env encryptedKey_reachable⟩

end OpenPGP.Lifecycle
