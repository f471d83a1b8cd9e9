import OpenPGP.Proofs.ErrorOracle

/-! Where the private-key life cycle can panic. `parsePrivateKey` dispatches on
six algorithm ids and panics on every other; the public-key portion in front of
it may carry others, ECDH among them, and then a cleartext key panics in
`parse`. With a public-key parse that builds a key of the family its algorithm
id names, that is the only panic of the secret-material parsers: the RSA parser
runs `Validate` before `Precompute`, so a prime of 0 or 1 is an error rather
than a division by zero (the regression `TestIssue11505` guards). Over every
state a parsed key reaches, `Decrypt` panics only there or on a cipher that is
not linked in. -/

namespace OpenPGP.Safety
open SecretMaterial Lifecycle

variable (env : Env)

/-- An algorithm id that none of the secret-material parsers handles. -/
def UnknownAlgorithm (algo : UInt8) : Prop :=
  ¬IsRSA algo ∧ algo ≠ PubKeyAlgoDSA ∧ algo ≠ PubKeyAlgoElGamal ∧ algo ≠ PubKeyAlgoECDSA

theorem parsePrivateKey_unknown {pk : PrivateKey} (unknown : UnknownAlgorithm pk.PublicKey.PubKeyAlgo)
    (data : Bytes) : Go.run (parsePrivateKey data) pk = (.error (.panic "impossible"), pk) := by
  obtain ⟨notRSA, notDSA, notElGamal, notECDSA⟩ := unknown
  simp [parsePrivateKey, notRSA, notDSA, notElGamal, notECDSA]

theorem parse_unknown_panics {r rest : Bytes} {isSubkey : Bool} {pub : PublicKey}
    (read : env.parsePublicKey (PrivateKey.new isSubkey).PublicKey r = .ok (pub, 0 :: rest))
    (unknown : UnknownAlgorithm pub.PubKeyAlgo) :
    (Go.run (PrivateKey.parse env r) (PrivateKey.new isSubkey)).1 = .error (.panic "impossible") := by
  simp [Parse.parse_cleartext env read, parsePrivateKey_unknown, unknown]

theorem Decrypt_unknown_panics {pk : PrivateKey} (encrypted : pk.Encrypted = true)
    (unknown : UnknownAlgorithm pk.PublicKey.PubKeyAlgo) {passphrase data plain : Bytes}
    (decrypted : decryptData pk passphrase = .ok data)
    (checked : checkTrailer env pk.sha1Checksum data = .ok plain) :
    Go.run (PrivateKey.Decrypt env passphrase) pk = (.error (.panic "impossible"), pk) := by
  rw [Decrypt_run, if_pos encrypted]
  simp only [decrypted, checked, parsePrivateKey_unknown unknown]

def ecdhBody : Bytes := [18, 0, 1, 1, 0, 1, 1, 0]

theorem ecdhKey_parse_panics :
    (Go.run (PrivateKey.parse Collaborators.env ecdhBody) (PrivateKey.new false)).1 =
      .error (.panic "impossible") :=
  parse_unknown_panics Collaborators.env rfl ⟨by decide, by decide, by decide, by decide⟩

/-- The public key's value is of the family its algorithm id names, for each id
the secret-material parsers handle. -/
def Typed (pub : PublicKey) : Prop :=
  (IsRSA pub.PubKeyAlgo → ∃ key, pub.PublicKey = .rsa key) ∧
  (pub.PubKeyAlgo = PubKeyAlgoDSA → ∃ key, pub.PublicKey = .dsa key) ∧
  (pub.PubKeyAlgo = PubKeyAlgoElGamal → ∃ key, pub.PublicKey = .elgamal key) ∧
  (pub.PubKeyAlgo = PubKeyAlgoECDSA → ∃ key, pub.PublicKey = .ecdsa key)

/-- The public-key parse of `env` builds typed keys. -/
def TypedParse : Prop :=
  ∀ pub r pub' rest, env.parsePublicKey pub r = .ok (pub', rest) → Typed pub'

theorem parseSingleMPIPrivateKey_never_panics {select : PublicKeyValue → Option κ} {name : String}
    {build : κ → Nat → PrivateKeyValue} {pk : PrivateKey} {key : κ}
    (selected : select pk.PublicKey.PublicKey = some key) (data : Bytes) (p : String) :
    (Go.run (parseSingleMPIPrivateKey select name build data) pk).1 ≠ .error (.panic p) := by
  simp only [parseSingleMPIPrivateKey, Go.run_get_bind, PublicKeyValue.assert, selected,
    Go.run_lift_bind, Go.run_check_bind]
  rcases MPI.ReadFrom data with e | _ <;> simp

theorem parseRSAPrivateKey_never_panics {pk : PrivateKey} {key : RSAPublicKey}
    (rsa : pk.PublicKey.PublicKey = .rsa key) (data : Bytes) (p : String) :
    (Go.run (parseRSAPrivateKey data) pk).1 ≠ .error (.panic p) := by
  intro panicked
  simp only [parseRSAPrivateKey, Go.run_get_bind, PublicKeyValue.assert, rsa,
    Go.run_lift_bind] at panicked
  obtain ⟨⟨d, buf⟩, -, panicked⟩ := Go.run_check_bind_panic panicked
  obtain ⟨⟨p', buf⟩, -, panicked⟩ := Go.run_check_bind_panic panicked
  obtain ⟨⟨q, _⟩, -, panicked⟩ := Go.run_check_bind_panic panicked
  obtain ⟨⟨⟩, validated, panicked⟩ := Go.run_check_bind_panic panicked
  simp [RSAPrivateKey.Precompute_ok rfl (RSAPrivateKey.Validate_ok.mp validated)] at panicked

/-- On a typed public key, the secret-material parse panics exactly when no
parser handles the algorithm id, and then with `"impossible"`. -/
theorem parsePrivateKey_panics_iff {pk : PrivateKey} (typed : Typed pk.PublicKey) (data : Bytes)
    (p : String) :
    (Go.run (parsePrivateKey data) pk).1 = .error (.panic p) ↔
      UnknownAlgorithm pk.PublicKey.PubKeyAlgo ∧ p = "impossible" := by
  constructor
  · intro panicked
    obtain ⟨rsa, dsa, elGamal, ecdsa⟩ := typed
    simp only [parsePrivateKey, Go.run_get_bind] at panicked
    split_ifs at panicked with isRSA isDSA isElGamal isECDSA
    · obtain ⟨key, same⟩ := rsa isRSA
      exact absurd panicked (parseRSAPrivateKey_never_panics same data p)
    · obtain ⟨key, same⟩ := dsa isDSA
      exact absurd panicked (parseSingleMPIPrivateKey_never_panics (by rw [same]) data p)
    · obtain ⟨key, same⟩ := elGamal isElGamal
      exact absurd panicked (parseSingleMPIPrivateKey_never_panics (by rw [same]) data p)
    · obtain ⟨key, same⟩ := ecdsa isECDSA
      exact absurd panicked (parseSingleMPIPrivateKey_never_panics (by rw [same]) data p)
    · simp only [Go.run_throw, Except.error.injEq, Fault.panic.injEq] at panicked
      exact ⟨⟨isRSA, isDSA, isElGamal, isECDSA⟩, panicked.symm⟩
  · rintro ⟨unknown, rfl⟩
    rw [parsePrivateKey_unknown unknown]

theorem parseEncryptionParameters_never_panics (s2kType : UInt8) (r : Bytes) (pk : PrivateKey)
    (p : String) : (Go.run (parseEncryptionParameters env s2kType r) pk).1 ≠ .error (.panic p) := by
  intro panicked
  simp only [parseEncryptionParameters] at panicked
  obtain ⟨_, -, panicked⟩ := Go.run_check_bind_panic panicked
  simp only [Go.run_modify_bind] at panicked
  split at panicked
  · simp at panicked
  · simp only [Go.run_modify_bind] at panicked
    obtain ⟨_, -, panicked⟩ := Go.run_check_bind_panic panicked
    split_ifs at panicked <;> simp [-bind_pure_comp] at panicked

theorem parseIV_never_panics {pk : PrivateKey} {c : Cipher} (cipher : pk.cipher = some c)
    (r : Bytes) (p : String) : (Go.run (parseIV r) pk).1 ≠ .error (.panic p) := by
  intro panicked
  simp only [parseIV, Go.run_get_bind, cipher, deref_some, Go.run_lift_bind] at panicked
  split_ifs at panicked
  · simp at panicked
  · obtain ⟨_, -, panicked⟩ := Go.run_check_bind_panic panicked
    simp [-bind_pure_comp] at panicked

theorem parse_PublicKey {r : Bytes} {pk₀ pk : PrivateKey}
    (parsed : Go.run (PrivateKey.parse env r) pk₀ = (.ok (), pk)) :
    ∃ rest, env.parsePublicKey pk₀.PublicKey r = .ok (pk.PublicKey, rest) := by
  obtain ⟨pub, r₁, read, ⟨rest, -, secret⟩ | ⟨-, same⟩⟩ := Parse.parse_cases env parsed
  · have kept := installsOrFails_PublicKey (parsePrivateKey_installsOrFails rest
      { pk₀ with PublicKey := pub, s2k := none, Encrypted := false, encryptedData := some rest })
    simp only [secret] at kept
    rw [kept]
    exact ⟨r₁, read⟩
  · rw [same]
    exact ⟨r₁, read⟩

theorem parse_panics (typedParse : TypedParse env) {r : Bytes} {pk₀ : PrivateKey} {p : String}
    (panicked : (Go.run (PrivateKey.parse env r) pk₀).1 = .error (.panic p)) :
    p = "impossible" ∧ ∃ pub rest, env.parsePublicKey pk₀.PublicKey r = .ok (pub, 0 :: rest) ∧
      UnknownAlgorithm pub.PubKeyAlgo := by
  have whole := panicked
  simp only [PrivateKey.parse, Go.run_get_bind] at panicked
  obtain ⟨⟨pub, r₁⟩, read, panicked⟩ := Go.run_check_bind_panic panicked
  rw [Go.run_modify_bind] at panicked
  obtain ⟨⟨buf, r₂⟩, usage, panicked⟩ := Go.run_check_bind_panic panicked
  obtain ⟨length, rfl⟩ := readFull_ok usage
  obtain ⟨b, rfl⟩ := List.length_eq_one.mp length
  by_cases cleartext : b = 0
  · subst cleartext
    rw [Parse.parse_cleartext env read] at whole
    obtain ⟨unknown, rfl⟩ := (parsePrivateKey_panics_iff (typedParse _ _ _ _ read) r₂ p).mp whole
    exact ⟨rfl, pub, r₂, read, unknown⟩
  by_cases encrypted : b = 254 ∨ b = 255
  · rw [Parse.parse_encrypted env read encrypted] at whole
    split at whole
    next r₃ pk₁ parameters =>
      obtain ⟨_, _, c, _, _, -, -, -, rfl⟩ := Parse.parseEncryptionParameters_ok env parameters
      split at whole
      · cases whole
      next fault pk₂ failed =>
        cases whole
        exact absurd (congrArg Prod.fst failed) (parseIV_never_panics rfl r₃ p)
    next fault pk₁ failed =>
      cases whole
      exact absurd (congrArg Prod.fst failed) (parseEncryptionParameters_never_panics env _ r₂ _ p)
  · simp [cleartext, encrypted] at panicked

theorem Decrypt_PublicKey {passphrase : Bytes} {pk pk' : PrivateKey} {result : Except Fault Unit}
    (step : Go.run (PrivateKey.Decrypt env passphrase) pk = (result, pk')) :
    pk'.PublicKey = pk.PublicKey := by
  cases encrypted : pk.Encrypted
  · rw [Decrypt_decrypted env passphrase encrypted, Prod.mk.injEq] at step
    rw [← step.2]
  · rcases Decrypt_installsOrFails env passphrase encrypted with ⟨_, failed⟩ | ⟨key, -, installed⟩
    · rw [failed, Prod.mk.injEq] at step
      rw [← step.2]
    · rw [installed, Prod.mk.injEq] at step
      rw [← step.2, install_PublicKey]

theorem reachable_typed (typedParse : TypedParse env) {r : Bytes} {pk : PrivateKey}
    (reached : Reachable env r pk) : Typed pk.PublicKey := by
  induction reached with
  | parse parsed =>
    obtain ⟨_, read⟩ := parse_PublicKey env parsed
    exact typedParse _ _ _ _ read
  | decrypt passphrase _ step typed => rwa [Decrypt_PublicKey env step]

theorem Decrypt_panics {r : Bytes} {pk : PrivateKey} (typed : Typed pk.PublicKey)
    (invariant : Invariant env r pk) (passphrase : Bytes) (p : String)
    (panicked : (Go.run (PrivateKey.Decrypt env passphrase) pk).1 = .error (.panic p)) :
    (p = "impossible" ∧ UnknownAlgorithm pk.PublicKey.PubKeyAlgo) ∨
      (p = "algorithm: cipher not available" ∧ ∃ c, pk.cipher = some c ∧ c.Available = false) := by
  rw [Decrypt_run] at panicked
  cases encrypted : pk.Encrypted
  · simp [encrypted] at panicked
  obtain ⟨-, -, ⟨_, c, -, cipher, positive, iv⟩, ⟨f, s2k⟩⟩ := invariant.1 encrypted
  rw [encrypted, if_pos rfl, decryptData_eq cipher s2k positive iv] at panicked
  by_cases available : c.Available
  · simp only [available, if_true] at panicked
    split at panicked
    next fault failed =>
      rw [ErrorOracle.checkTrailer_error env failed] at panicked
      cases panicked
    next plain _ =>
      obtain ⟨unknown, rfl⟩ := (parsePrivateKey_panics_iff typed plain p).mp panicked
      exact .inl ⟨rfl, unknown⟩
  · simp only [available, Bool.false_eq_true, if_false] at panicked
    cases panicked
    exact .inr ⟨rfl, c, cipher, by simpa using available⟩

/-- With a public-key parse that builds keys of the family their algorithm id
names, the life cycle of a private key panics in two places only. `parse`
panics, from any receiver, only on a cleartext key whose algorithm id no
secret-material parser handles, with `"impossible"`; and `Decrypt`, on every
state a parse and any `Decrypt` calls reach, only there or when the key's
cipher is not linked in. A prime of 0 or 1, the input of `TestIssue11505`, is
rejected by `Validate` before `Precompute` could divide by it. -/
theorem lifecycle_panics (typedParse : TypedParse env) :
    (∀ r pk₀ p, (Go.run (PrivateKey.parse env r) pk₀).1 = .error (.panic p) →
      p = "impossible" ∧ ∃ pub rest, env.parsePublicKey pk₀.PublicKey r = .ok (pub, 0 :: rest) ∧
        UnknownAlgorithm pub.PubKeyAlgo) ∧
    (∀ r pk, Reachable env r pk → ∀ passphrase p,
      (Go.run (PrivateKey.Decrypt env passphrase) pk).1 = .error (.panic p) →
        (p = "impossible" ∧ UnknownAlgorithm pk.PublicKey.PubKeyAlgo) ∨
        (p = "algorithm: cipher not available" ∧ ∃ c, pk.cipher = some c ∧ c.Available = false)) :=
  ⟨fun _ _ _ => parse_panics env typedParse, fun _ _ reached =>
    Decrypt_panics env (reachable_typed env typedParse reached) (reachable_invariant env reached)⟩

theorem readPublicKey_typed : TypedParse Collaborators.env := by
  intro pub r pub' rest read
  simp only [Collaborators.env, Collaborators.readPublicKey] at read
  obtain ⟨buf, _, -, read⟩ := Reader.bind_eq_ok.mp read
  obtain ⟨x, _, -, read⟩ := Reader.bind_eq_ok.mp read
  obtain ⟨y, _, -, read⟩ := Reader.bind_eq_ok.mp read
  split_ifs at read with rsa curve
  · cases read
    refine ⟨fun _ => ⟨_, rfl⟩, ?_, ?_, ?_⟩ <;> intro (same : buf.getD 0 0 = _) <;> rw [same] at rsa <;>
      exact absurd rsa (by decide)
  · cases read
    refine ⟨fun h => absurd h rsa, ?_, ?_, fun _ => ⟨_, rfl⟩⟩ <;> intro (same : buf.getD 0 0 = _) <;>
      rw [same] at curve <;> exact absurd curve (by decide)
  · cases read

theorem ecdhKey_panic_is_unknown_algorithm :
    "impossible" = "impossible" ∧ ∃ pub rest,
      Collaborators.env.parsePublicKey (PrivateKey.new false).PublicKey ecdhBody = .ok (pub, 0 :: rest) ∧
        UnknownAlgorithm pub.PubKeyAlgo :=
  (lifecycle_panics Collaborators.env readPublicKey_typed).1 ecdhBody (PrivateKey.new false) _ rfl

end OpenPGP.Safety
