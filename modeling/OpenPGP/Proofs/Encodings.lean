import OpenPGP.Proofs.Decryption
import OpenPGP.Proofs.RoundTrip

/-! The two encodings of a key's secret material in a packet body: in the clear
after the usage byte 0, or after the usage byte 254 or 255, a cipher id, an S2K
specification and an IV, encrypted under the key the S2K function derives from
a passphrase. The secret-material parse reads nothing of its receiver but the
public portion, so `Decrypt` with that passphrase, after `parse` of the
encrypted body, returns what `parse` of the cleartext body returns and installs
the same secret key. -/

namespace OpenPGP.Encodings
open SecretMaterial Decryption

variable (env : Env)

def installOrFail (decoded : Except Fault PrivateKeyValue) (pk : PrivateKey) :
    Except Fault Unit × PrivateKey :=
  match decoded with
  | .ok key => (.ok (), pk.install key)
  | .error fault => (.error fault, pk)

/-- `call` decodes one outcome on both receivers: the same fault, leaving each
as it was, or the same key, installed in each. -/
def SameOutcome (call : Go PrivateKey Unit) (pk pk' : PrivateKey) : Prop :=
  ∃ decoded, Go.run call pk = installOrFail decoded pk ∧ Go.run call pk' = installOrFail decoded pk'

section Frame

variable {pk pk' : PrivateKey}

theorem parseSingleMPIPrivateKey_same (same : pk.PublicKey.PublicKey = pk'.PublicKey.PublicKey)
    (select : PublicKeyValue → Option κ) (name : String) (build : κ → Nat → PrivateKeyValue)
    (data : Bytes) : SameOutcome (parseSingleMPIPrivateKey select name build data) pk pk' := by
  simp only [SameOutcome, parseSingleMPIPrivateKey, Go.run_get_bind, Go.run_lift_bind, ← same]
  rcases pk.PublicKey.PublicKey.assert select name with fault | key
  · exact ⟨.error fault, rfl, rfl⟩
  simp only [Go.run_check_bind]
  rcases MPI.ReadFrom data with err | ⟨x, _⟩
  · exact ⟨.error (.error err), rfl, rfl⟩
  · exact ⟨.ok (build key x.value), rfl, rfl⟩

theorem parseRSAPrivateKey_same (same : pk.PublicKey.PublicKey = pk'.PublicKey.PublicKey)
    (data : Bytes) : SameOutcome (parseRSAPrivateKey data) pk pk' := by
  simp only [SameOutcome, parseRSAPrivateKey, Go.run_get_bind, Go.run_lift_bind, Go.run_check_bind,
    ← same]
  rcases pk.PublicKey.PublicKey.assert _ _ with fault | pub
  · exact ⟨.error fault, rfl, rfl⟩
  rcases MPI.ReadFrom data with err | ⟨d, buf⟩
  · exact ⟨.error (.error err), rfl, rfl⟩
  dsimp only
  rcases MPI.ReadFrom buf with err | ⟨p, buf⟩
  · exact ⟨.error (.error err), rfl, rfl⟩
  dsimp only
  rcases MPI.ReadFrom buf with err | ⟨q, _⟩
  · exact ⟨.error (.error err), rfl, rfl⟩
  dsimp only
  rcases RSAPrivateKey.Validate ⟨pub, d.value, [p.value, q.value], none⟩ with err | ⟨⟩
  · exact ⟨.error (.error err), rfl, rfl⟩
  dsimp only
  rcases RSAPrivateKey.Precompute ⟨pub, d.value, [p.value, q.value], none⟩ with fault | priv
  · exact ⟨.error fault, rfl, rfl⟩
  · exact ⟨.ok (.rsa priv), rfl, rfl⟩

/-- The secret-material parse reads only the public portion of its receiver. -/
theorem parsePrivateKey_same (same : pk.PublicKey = pk'.PublicKey) (data : Bytes) :
    SameOutcome (parsePrivateKey data) pk pk' := by
  have value := congrArg PublicKey.PublicKey same
  simp only [SameOutcome, parsePrivateKey, Go.run_get_bind, ← same]
  split_ifs
  · exact parseRSAPrivateKey_same value data
  iterate 3 exact parseSingleMPIPrivateKey_same value _ _ _ data
  · exact ⟨.error (.panic "impossible"), rfl, rfl⟩

theorem SameOutcome.agree {call : Go PrivateKey Unit} (outcome : SameOutcome call pk pk')
    (secret : pk.PrivateKey = pk'.PrivateKey) :
    (Go.run call pk).1 = (Go.run call pk').1 ∧
      (Go.run call pk).2.PrivateKey = (Go.run call pk').2.PrivateKey := by
  obtain ⟨decoded, first, second⟩ := outcome
  rw [first, second]
  cases decoded
  · exact ⟨rfl, secret⟩
  · exact ⟨rfl, rfl⟩

end Frame

/-- Modelled from the spec: the body of a private-key packet whose secret
material `plain` is encrypted: the public portion, the usage byte, the cipher
id, the S2K specification, the IV, then the CFB encryption under `key` of the
secret material and the trailer the usage byte selects. -/
def sealedBody (bytes : Bytes) (usage id : UInt8) (spec iv : Bytes) (c : Cipher)
    (key plain : Bytes) : Bytes :=
  bytes ++ usage :: id :: spec ++ iv ++
    cfbEncrypt ⟨c.BlockSize, c.encrypt key, c.encrypt_length key⟩
      (sealed env (decide (usage = 254)) plain).length iv (sealed env (decide (usage = 254)) plain)

theorem parse_encrypted_body {isSubkey : Bool} {bytes spec iv blob : Bytes} {pub : PublicKey}
    {u id : UInt8} {c : Cipher} {f : S2K}
    (read : ∀ rest, env.parsePublicKey (PrivateKey.new isSubkey).PublicKey (bytes ++ rest) =
      .ok (pub, rest))
    (usage : u = 254 ∨ u = 255) (found : env.CipherById id = some c) (positive : 0 < c.BlockSize)
    (s2k : ∀ rest, env.parseS2K (spec ++ rest) = .ok (f, rest)) (full : iv.length = c.BlockSize) :
    Go.run (PrivateKey.parse env (bytes ++ u :: id :: spec ++ iv ++ blob)) (PrivateKey.new isSubkey) =
      (.ok (), { PrivateKey.new isSubkey with
        PublicKey := pub, cipher := some c, Encrypted := true, s2k := some f,
        sha1Checksum := decide (u = 254), iv := iv, encryptedData := some blob }) := by
  have body : bytes ++ u :: id :: spec ++ iv ++ blob = bytes ++ u :: (id :: (spec ++ (iv ++ blob))) := by
    simp
  rw [body, Parse.parse_encrypted env (read _) usage]
  by_cases sha1 : u = 254 <;>
    simp only [parseEncryptionParameters, parseIV, readFull, List.length_cons, List.length_append,
      full, le_add_iff_nonneg_left, zero_le, ↓reduceIte, List.take_succ_cons, List.take_zero,
      List.drop_succ_cons, List.drop_zero, List.getD_cons_zero, sha1, pure_bind, PrivateKey.new,
      Go.run_check_bind, found, s2k, Go.run_modify_bind, Go.run_pure, ExceptT.bind_throw,
      Go.run_get_bind, deref_some, Go.run_lift_bind, positive.ne', le_add_iff_nonneg_right,
      List.take_left', List.drop_left', decide_True, decide_False]

/-- The encrypted and the cleartext encodings of one secret material agree.
`parse` of the encrypted body leaves an encrypted key; `Decrypt` with the
passphrase it was sealed under then returns what `parse` of the cleartext body
returns, and installs the same secret key, or none when both fail. -/
theorem encrypted_matches_cleartext {isSubkey : Bool} {bytes spec iv plain passphrase : Bytes}
    {pub : PublicKey} {u id : UInt8} {c : Cipher} {f : S2K}
    (read : ∀ rest, env.parsePublicKey (PrivateKey.new isSubkey).PublicKey (bytes ++ rest) =
      .ok (pub, rest))
    (usage : u = 254 ∨ u = 255) (found : env.CipherById id = some c) (available : c.Available = true)
    (positive : 0 < c.BlockSize) (s2k : ∀ rest, env.parseS2K (spec ++ rest) = .ok (f, rest))
    (full : iv.length = c.BlockSize) (digest : u = 254 → (env.sha1 plain).length = sha1Size) :
    ∃ pk, Go.run (PrivateKey.parse env (sealedBody env bytes u id spec iv c (f passphrase c.KeySize)
        plain)) (PrivateKey.new isSubkey) = (.ok (), pk) ∧ pk.Encrypted = true ∧
      (Go.run (PrivateKey.Decrypt env passphrase) pk).1 =
        (Go.run (PrivateKey.parse env (bytes ++ 0 :: plain)) (PrivateKey.new isSubkey)).1 ∧
      (Go.run (PrivateKey.Decrypt env passphrase) pk).2.PrivateKey =
        (Go.run (PrivateKey.parse env (bytes ++ 0 :: plain)) (PrivateKey.new isSubkey)).2.PrivateKey := by
  refine ⟨_, parse_encrypted_body env read usage found positive s2k full, rfl, ?_⟩
  rw [Parse.parse_cleartext env (read _), Decrypt_run, if_pos rfl,
    decryptData_cfbEncrypt rfl available positive full rfl rfl]
  dsimp only
  rw [@checkTrailer_sealed env (decide (u = 254)) plain fun sha1 => digest (of_decide_eq_true sha1)]
  dsimp only
  exact (parsePrivateKey_same (by rfl) plain).agree (by rfl)

theorem rsaKey_encrypted_matches_cleartext :
    ∃ pk, Go.run (PrivateKey.parse Collaborators.env (sealedBody Collaborators.env RoundTrip.rsaPublic
        255 7 [0, 0] (List.replicate 16 0) Collaborators.cipher
        (([1] ++ List.replicate Collaborators.cipher.KeySize 0 : Bytes).take Collaborators.cipher.KeySize)
        (RoundTrip.rsaSecret 3 3 5 2))) (PrivateKey.new false) = (.ok (), pk) ∧ pk.Encrypted = true ∧
      (Go.run (PrivateKey.Decrypt Collaborators.env [1]) pk).1 = (Go.run (PrivateKey.parse
        Collaborators.env (RoundTrip.rsaPublic ++ 0 :: RoundTrip.rsaSecret 3 3 5 2))
          (PrivateKey.new false)).1 ∧
      (Go.run (PrivateKey.Decrypt Collaborators.env [1]) pk).2.PrivateKey = (Go.run (PrivateKey.parse
        Collaborators.env (RoundTrip.rsaPublic ++ 0 :: RoundTrip.rsaSecret 3 3 5 2))
          (PrivateKey.new false)).2.PrivateKey := by
  have sealedKey := @encrypted_matches_cleartext Collaborators.env false RoundTrip.rsaPublic [0, 0]
    (List.replicate 16 0) (RoundTrip.rsaSecret 3 3 5 2) [1] ⟨PubKeyAlgoRSA, .rsa ⟨15, 3⟩, false⟩ 255 7
    Collaborators.cipher (fun passphrase size => (passphrase ++ List.replicate size 0).take size)
  exact sealedKey
    (Collaborators.readPublicKey_writePublicKey ⟨PubKeyAlgoRSA, .rsa ⟨15, 3⟩, false⟩ ⟨15, 3⟩
      (by decide) rfl (by decide) (bitLen_lt_of_lt (by decide)) (bitLen_lt_of_lt (by decide)) rfl)
    (.inr rfl) rfl rfl (by decide)
    (fun rest => by
      simp [Collaborators.env, Collaborators.readS2K, Reader.run_bind, readFull, -bind_pure_comp])
    rfl (fun usage => absurd usage (by decide))

end OpenPGP.Encodings
