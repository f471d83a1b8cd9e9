import OpenPGP.Proofs.Lifecycle

/-! What `PrivateKey.Serialize` emits. It builds the public portion and the
secret material in buffers of its own and writes to `w` only once both have
serialized, so a failure of either leaves `w` as it was. A key still
encrypted holds no secret key, and `Serialize` refuses it before writing. -/

namespace OpenPGP.Emission
open SecretMaterial Lifecycle

variable (env : Env)

/-- A failure of the public portion or of the secret material ends the call as
that step ends, with the same error or the same panic, before the first write,
so `w` is left as it was. A key that a parse and any `Decrypt` calls leave
encrypted holds no secret key, so on it `Serialize` returns the public
portion's error or `InvalidArgumentError`, and writes nothing. -/
theorem Serialize_failure_writes_nothing (w₀ : Bytes) :
    (∀ pk e, env.serializePublicKey pk.PublicKey = .error e →
      Go.run (PrivateKey.Serialize env pk) w₀ = (.error (.error e), w₀)) ∧
    (∀ pk contents fault, env.serializePublicKey pk.PublicKey = .ok contents →
      serializeSecret pk.PrivateKey = .error fault →
      Go.run (PrivateKey.Serialize env pk) w₀ = (.error fault, w₀)) ∧
    (∀ r pk, Reachable env r pk → pk.Encrypted = true →
      (∃ e, env.serializePublicKey pk.PublicKey = .error e ∧
        Go.run (PrivateKey.Serialize env pk) w₀ = (.error (.error e), w₀)) ∨
      Go.run (PrivateKey.Serialize env pk) w₀ =
        (.error (.error (.InvalidArgumentError "unknown private key type")), w₀)) := by
  have public (pk : PrivateKey) (e : Error) (failed : env.serializePublicKey pk.PublicKey = .error e) :
      Go.run (PrivateKey.Serialize env pk) w₀ = (.error (.error e), w₀) := by
    simp [PrivateKey.Serialize, failed]
  have secret (pk : PrivateKey) (contents : Bytes) (fault : Fault)
      (pub : env.serializePublicKey pk.PublicKey = .ok contents)
      (failed : serializeSecret pk.PrivateKey = .error fault) :
      Go.run (PrivateKey.Serialize env pk) w₀ = (.error fault, w₀) := by
    simp [PrivateKey.Serialize, pub, failed]
  refine ⟨public, secret, fun r pk reached encrypted => ?_⟩
  have noKey := ((reachable_invariant env reached).1 encrypted).noKey
  rcases pub : env.serializePublicKey pk.PublicKey with e | contents
  · exact .inl ⟨e, rfl, public pk e pub⟩
  · exact .inr (secret pk contents _ pub (by rw [noKey]; rfl))

theorem encryptedKey_Serialize_refused :
    Reachable Collaborators.env encryptedBody encryptedKey ∧ encryptedKey.Encrypted = true ∧
    ((∃ e, Collaborators.env.serializePublicKey encryptedKey.PublicKey = .error e ∧
        Go.run (PrivateKey.Serialize Collaborators.env encryptedKey) [] = (.error (.error e), [])) ∨
      Go.run (PrivateKey.Serialize Collaborators.env encryptedKey) [] =
        (.error (.error (.InvalidArgumentError "unknown private key type")), [])) :=
  ⟨encryptedKey_reachable, rfl,
    (Serialize_failure_writes_nothing Collaborators.env []).2.2 encryptedBody encryptedKey
      encryptedKey_reachable rfl⟩

def unprecomputedSecret : RSAPrivateKey := ⟨⟨15, 3⟩, 3, [3, 5], none⟩

def unprecomputedKey : PrivateKey :=
  { PrivateKey.new false with
    PublicKey := ⟨PubKeyAlgoRSA, .rsa unprecomputedSecret.PublicKey, false⟩
    PrivateKey := some (.rsa unprecomputedSecret) }

theorem unprecomputedKey_Serialize_panics :
    Matches unprecomputedKey.PublicKey (.rsa unprecomputedSecret) ∧
    serializeSecret unprecomputedKey.PrivateKey =
      .error (.panic "invalid memory address or nil pointer dereference") ∧
    Go.run (PrivateKey.Serialize Collaborators.env unprecomputedKey) [] =
      (.error (.panic "invalid memory address or nil pointer dereference"), []) :=
  ⟨⟨by decide, rfl, RSAPrivateKey.Validate_ok.mp rfl⟩, rfl, rfl⟩

/-- An RSA key as `parseRSAPrivateKey` leaves it: two primes and the CRT
coefficient `Precompute` computes from them, nil when they share a factor. -/
def TwoPrime : PrivateKeyValue → Prop
  | .rsa priv => ∃ p q, priv.Primes = [p, q] ∧ priv.Qinv = modInverse q p
  | _ => True

theorem parseRSAPrivateKey_twoPrime {data : Bytes} {pk : PrivateKey} {key : PrivateKeyValue}
    (installed : Go.run (parseRSAPrivateKey data) pk = (.ok (), pk.install key)) : TwoPrime key := by
  simp only [parseRSAPrivateKey, Go.run_get_bind] at installed
  obtain ⟨pub, -, installed⟩ := Go.run_lift_bind_ok installed
  obtain ⟨⟨d, _⟩, -, installed⟩ := Go.run_check_bind_ok installed
  obtain ⟨⟨p, _⟩, -, installed⟩ := Go.run_check_bind_ok installed
  obtain ⟨⟨q, _⟩, -, installed⟩ := Go.run_check_bind_ok installed
  obtain ⟨⟨⟩, validated, installed⟩ := Go.run_check_bind_ok installed
  obtain ⟨priv, precomputed, installed⟩ := Go.run_lift_bind_ok installed
  rw [RSAPrivateKey.Precompute_ok rfl (RSAPrivateKey.Validate_ok.mp validated)] at precomputed
  cases precomputed
  simp only [Go.run_modify, Prod.mk.injEq] at installed
  rw [← install_inj installed.2]
  exact ⟨_, _, rfl, rfl⟩

theorem parseSingleMPIPrivateKey_installs {select : PublicKeyValue → Option κ} {name : String}
    {build : κ → Nat → PrivateKeyValue} {data : Bytes} {pk : PrivateKey} {key : PrivateKeyValue}
    (installed : Go.run (parseSingleMPIPrivateKey select name build data) pk = (.ok (), pk.install key)) :
    ∃ pub x, key = build pub x := by
  simp only [parseSingleMPIPrivateKey, Go.run_get_bind] at installed
  obtain ⟨pub, -, installed⟩ := Go.run_lift_bind_ok installed
  obtain ⟨⟨x, _⟩, -, installed⟩ := Go.run_check_bind_ok installed
  simp only [Go.run_modify, Prod.mk.injEq] at installed
  exact ⟨pub, x.value, (install_inj installed.2).symm⟩

theorem parsePrivateKey_twoPrime {data : Bytes} {pk : PrivateKey} {key : PrivateKeyValue}
    (installed : Go.run (parsePrivateKey data) pk = (.ok (), pk.install key)) : TwoPrime key := by
  simp only [parsePrivateKey, Go.run_get_bind] at installed
  split_ifs at installed
  · exact parseRSAPrivateKey_twoPrime installed
  all_goals first
    | cases installed
    | obtain ⟨_, _, rfl⟩ := parseSingleMPIPrivateKey_installs installed; trivial

theorem reachable_twoPrime {r : Bytes} {pk : PrivateKey} (reached : Reachable env r pk)
    (decrypted : pk.Encrypted = false) : ∃ key, pk.PrivateKey = some key ∧ TwoPrime key := by
  induction reached with
  | parse parsed =>
    obtain ⟨_, _, -, ⟨rest, -, secret⟩ | ⟨encrypted, -⟩⟩ := Parse.parse_cases env parsed
    · rcases parsePrivateKey_installsOrFails rest _ with ⟨_, failed⟩ | ⟨key, -, installed⟩
      · rw [failed] at secret
        cases secret
      · rw [installed, Prod.mk.injEq] at secret
        rw [← secret.2]
        exact ⟨key, rfl, parsePrivateKey_twoPrime installed⟩
    · simp [encrypted] at decrypted
  | @decrypt pk pk' result passphrase _ step ih =>
    cases encrypted : pk.Encrypted
    · rw [Decrypt_decrypted env passphrase encrypted, Prod.mk.injEq] at step
      rw [← step.2] at decrypted ⊢
      exact ih decrypted
    rcases Decrypt_installsOrFails env passphrase encrypted with ⟨_, failed⟩ | ⟨key, -, installed⟩
    · rw [failed, Prod.mk.injEq] at step
      rw [← step.2, encrypted] at decrypted
      cases decrypted
    · rw [installed, Prod.mk.injEq] at step
      rw [← step.2]
      refine ⟨key, rfl, ?_⟩
      rw [Decrypt_run, if_pos encrypted] at installed
      split at installed
      · cases installed
      split at installed
      · cases installed
      · exact parsePrivateKey_twoPrime installed

theorem serializeSecret_twoPrime {key : PrivateKeyValue} (shape : TwoPrime key) {p : String}
    (panicked : serializeSecret (some key) = .error (.panic p)) :
    p = "invalid memory address or nil pointer dereference" ∧
      ∃ priv a b, key = .rsa priv ∧ priv.Primes = [a, b] ∧ Nat.gcd b a ≠ 1 ∧ priv.Qinv = none := by
  cases key with
  | rsa priv =>
    obtain ⟨a, b, primes, qinv⟩ := shape
    simp only [serializeSecret, serializeRSAPrivateKey, index, primes, qinv, modInverse] at panicked
    split_ifs at panicked with coprime
    · cases panicked
    · simp at panicked
      exact ⟨panicked.symm, priv, a, b, rfl, primes, coprime, by simp [qinv, modInverse, coprime]⟩
  | _ => cases panicked

theorem Serialize_panic {pk : PrivateKey} {w : Bytes} {p : String}
    (panicked : (Go.run (PrivateKey.Serialize env pk) w).1 = .error (.panic p)) :
    serializeSecret pk.PrivateKey = .error (.panic p) := by
  simp only [PrivateKey.Serialize] at panicked
  obtain ⟨_, -, panicked⟩ := Go.run_check_bind_panic panicked
  rw [Go.run_lift_bind] at panicked
  rcases secret : serializeSecret pk.PrivateKey with fault | bytes <;> rw [secret] at panicked
  · cases panicked
    rfl
  · obtain ⟨_, -, panicked⟩ := Go.run_check_bind_panic panicked
    simp [write] at panicked

/-- On a key that a parse and any `Decrypt` calls leave decrypted, `Serialize`
panics only on an RSA key whose two primes share a factor: `Validate` accepts
equal primes, `Precompute` leaves the CRT coefficient nil, and writing it
dereferences nil. Every other such key serializes its secret material. -/
theorem reachable_Serialize_panics {r : Bytes} {pk : PrivateKey} (reached : Reachable env r pk)
    (decrypted : pk.Encrypted = false) (w : Bytes) (p : String)
    (panicked : (Go.run (PrivateKey.Serialize env pk) w).1 = .error (.panic p)) :
    p = "invalid memory address or nil pointer dereference" ∧
      ∃ priv a b, pk.PrivateKey = some (.rsa priv) ∧ priv.Primes = [a, b] ∧ Nat.gcd b a ≠ 1 ∧
        priv.Qinv = none := by
  obtain ⟨key, stored, shape⟩ := reachable_twoPrime env reached decrypted
  have secret := Serialize_panic env panicked
  rw [stored] at secret
  obtain ⟨message, priv, a, b, rfl, primes, shared, nil⟩ := serializeSecret_twoPrime shape secret
  exact ⟨message, priv, a, b, stored, primes, shared, nil⟩

def squareBody : Bytes := [1, 0, 4, 9, 0, 2, 3, 0, 0, 1, 1, 0, 2, 3, 0, 2, 3]

def squareKey : PrivateKey :=
  (Go.run (PrivateKey.parse Collaborators.env squareBody) (PrivateKey.new false)).2

/-- The cleartext RSA key `N = 9 = 3 · 3`, `E = 3`, `D = 1` passes `Validate`, and
its primes have no CRT coefficient. -/
theorem squareKey_Serialize_panics :
    "invalid memory address or nil pointer dereference" =
        "invalid memory address or nil pointer dereference" ∧
      ∃ priv a b, squareKey.PrivateKey = some (.rsa priv) ∧ priv.Primes = [a, b] ∧ Nat.gcd b a ≠ 1 ∧
        priv.Qinv = none :=
  reachable_Serialize_panics Collaborators.env
    (@Reachable.parse Collaborators.env squareBody false squareKey (Prod.ext rfl rfl)) rfl [] _ rfl

end OpenPGP.Emission
