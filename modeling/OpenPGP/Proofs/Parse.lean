import OpenPGP.Proofs.SecretMaterial

/-! What `PrivateKey.parse` leaves in the receiver when it succeeds: for an
encrypted body a cipher from the registry, a full IV, the S2K function and the
rest of the body as the blob; for a cleartext body the state a secret-material
parse installs. -/

namespace OpenPGP.Parse
open SecretMaterial

variable (env : Env)

theorem parseEncryptionParameters_ok {s2kType : UInt8} {r rest : Bytes} {pk pk' : PrivateKey}
    (parsed : Go.run (parseEncryptionParameters env s2kType r) pk = (.ok rest, pk')) :
    ∃ id mid c f checksum, r = id :: mid ∧ env.CipherById id = some c ∧
      env.parseS2K mid = .ok (f, rest) ∧
      pk' = { pk with cipher := some c, Encrypted := true, s2k := some f, sha1Checksum := checksum } := by
  simp only [parseEncryptionParameters] at parsed
  obtain ⟨buf, mid, one, rfl, afterId⟩ := Go.run_readFull_bind parsed
  obtain ⟨id, rfl⟩ := List.length_eq_one.mp one
  simp only [Go.run_modify_bind, List.getD_cons_zero] at afterId
  rcases found : env.CipherById id with _ | c
  · simp only [found] at afterId
    cases afterId
  simp only [found, Go.run_modify_bind] at afterId
  obtain ⟨⟨f, r₂⟩, s2k, afterS2K⟩ := Go.run_check_bind_ok afterId
  refine ⟨id, mid, c, f, if s2kType = 254 then true else pk.sha1Checksum, rfl, found, ?_⟩
  by_cases sha1 : s2kType = 254 <;>
    simp only [sha1, if_true, if_false, Go.run_modify_bind, Go.run_pure_bind, Go.run_pure,
      Prod.mk.injEq, Except.ok.injEq] at afterS2K ⊢ <;>
    obtain ⟨rfl, rfl⟩ := afterS2K <;> exact ⟨s2k, rfl⟩

theorem parseIV_ok {r rest : Bytes} {pk pk' : PrivateKey}
    (parsed : Go.run (parseIV r) pk = (.ok rest, pk')) :
    ∃ c iv, pk.cipher = some c ∧ 0 < c.BlockSize ∧ iv.length = c.BlockSize ∧ r = iv ++ rest ∧
      pk' = { pk with iv := iv } := by
  simp only [parseIV, Go.run_get_bind, Go.run_lift_bind] at parsed
  rcases pk.cipher.eq_none_or_eq_some with cipher | ⟨c, cipher⟩
  · simp only [cipher, deref_none] at parsed
    cases parsed
  simp only [cipher, deref_some] at parsed
  by_cases empty : c.BlockSize = 0
  · simp only [empty, if_true, Go.run_throw_bind] at parsed
    cases parsed
  simp only [empty, if_false, Go.run_pure_bind] at parsed
  obtain ⟨iv, r₁, length, rfl, read⟩ := Go.run_readFull_bind parsed
  simp only [Go.run_modify_bind, Go.run_pure, Prod.mk.injEq, Except.ok.injEq] at read
  obtain ⟨rfl, rfl⟩ := read
  exact ⟨c, iv, cipher, Nat.pos_of_ne_zero empty, length, rfl, rfl⟩

theorem parse_cleartext {r rest : Bytes} {pk₀ : PrivateKey} {pub : PublicKey}
    (read : env.parsePublicKey pk₀.PublicKey r = .ok (pub, 0 :: rest)) :
    Go.run (PrivateKey.parse env r) pk₀ = Go.run (parsePrivateKey rest)
      { pk₀ with PublicKey := pub, s2k := none, Encrypted := false, encryptedData := some rest } := by
  simp [PrivateKey.parse, read, readFull]

theorem parse_encrypted {r rest : Bytes} {pk₀ : PrivateKey} {pub : PublicKey} {b : UInt8}
    (read : env.parsePublicKey pk₀.PublicKey r = .ok (pub, b :: rest))
    (encrypted : b = 254 ∨ b = 255) :
    Go.run (PrivateKey.parse env r) pk₀ =
      match Go.run (parseEncryptionParameters env b rest) { pk₀ with PublicKey := pub } with
      | (.ok r₁, pk₁) =>
        match Go.run (parseIV r₁) pk₁ with
        | (.ok r₂, pk₂) => (.ok (), { pk₂ with encryptedData := some r₂ })
        | (.error fault, pk₂) => (.error fault, pk₂)
      | (.error fault, pk₁) => (.error fault, pk₁) := by
  have opened : b ≠ 0 := by rcases encrypted with rfl | rfl <;> decide
  simp only [PrivateKey.parse, Go.run_get_bind, read, Go.run_check_bind, Go.run_modify_bind, readFull,
    List.length_cons, le_add_iff_nonneg_left, zero_le, ↓reduceIte, List.take_succ_cons,
    List.take_zero, List.drop_succ_cons, List.drop_zero, List.getD_cons_zero, opened, encrypted]
  rw [Go.run_bind]
  rcases parameters : Go.run (parseEncryptionParameters env b rest) { pk₀ with PublicKey := pub } with
    ⟨_ | r₁, pk₁⟩
  · rfl
  obtain ⟨_, _, _, _, _, -, -, -, rfl⟩ := parseEncryptionParameters_ok env parameters
  simp only [Go.run_get_bind, if_true]
  rw [Go.run_bind]
  rcases Go.run (parseIV r₁) _ with ⟨_ | r₂, pk₂⟩ <;> rfl

/-- A successful parse read a public portion, then either the usage byte 0 and
a cleartext body whose secret-material parse is the rest of the call, or an
encrypted body, which leaves the key encrypted. -/
theorem parse_cases {r : Bytes} {pk₀ pk : PrivateKey}
    (parsed : Go.run (PrivateKey.parse env r) pk₀ = (.ok (), pk)) :
    ∃ pub r₁, env.parsePublicKey pk₀.PublicKey r = .ok (pub, r₁) ∧
      ((∃ rest, r₁ = 0 :: rest ∧ Go.run (parsePrivateKey rest)
          { pk₀ with PublicKey := pub, s2k := none, Encrypted := false, encryptedData := some rest } =
            (.ok (), pk)) ∨
        (pk.Encrypted = true ∧ pk.PublicKey = pub)) := by
  have whole := parsed
  simp only [PrivateKey.parse, Go.run_get_bind] at parsed
  obtain ⟨⟨pub, r₁⟩, read, parsed⟩ := Go.run_check_bind_ok parsed
  refine ⟨pub, r₁, read, ?_⟩
  rw [Go.run_modify_bind] at parsed
  obtain ⟨buf, r₂, length, rfl, parsed⟩ := Go.run_readFull_bind parsed
  obtain ⟨b, rfl⟩ := List.length_eq_one.mp length
  by_cases cleartext : b = 0
  · subst cleartext
    exact .inl ⟨r₂, rfl, (parse_cleartext env read).symm.trans whole⟩
  refine .inr ?_
  by_cases encrypted : b = 254 ∨ b = 255
  · simp only [List.getD_cons_zero, cleartext, encrypted, if_true, if_false] at parsed
    rw [Go.run_bind] at parsed
    split at parsed
    next r₃ pk₁ parameters =>
      obtain ⟨_, _, _, _, _, -, -, -, rfl⟩ := parseEncryptionParameters_ok env parameters
      simp only [Go.run_get_bind, if_true] at parsed
      rw [Go.run_bind] at parsed
      split at parsed
      next r₄ pk₂ iv =>
        obtain ⟨_, _, -, -, -, -, rfl⟩ := parseIV_ok iv
        simp only [Go.run_modify_bind, if_true, Go.run_pure, Prod.mk.injEq] at parsed
        rw [← parsed.2]
        exact ⟨rfl, rfl⟩
      next => cases parsed
    next => cases parsed
  · simp only [List.getD_cons_zero, cleartext, encrypted, if_false, Go.run_throw_bind] at parsed
    cases parsed

/-- A successful parse leaves either an encrypted key with a registered cipher
of positive block size, a full IV, the S2K function and the rest of the body
as its blob, or a key whose secret material has been installed. -/
theorem parse_ok {r : Bytes} {pk₀ pk : PrivateKey}
    (parsed : Go.run (PrivateKey.parse env r) pk₀ = (.ok (), pk)) :
    (pk.Encrypted = true ∧ pk.PrivateKey = pk₀.PrivateKey ∧ (∃ f, pk.s2k = some f) ∧
      (∃ id c, env.CipherById id = some c ∧ pk.cipher = some c ∧ 0 < c.BlockSize ∧
        pk.iv.length = c.BlockSize) ∧
      ∃ pre data, r = pre ++ pk.iv ++ data ∧ pk.encryptedData = some data) ∨
    ∃ (mid : PrivateKey) (key : PrivateKeyValue), Matches mid.PublicKey key ∧
      pk = mid.install key := by
  simp only [PrivateKey.parse, Go.run_get_bind] at parsed
  obtain ⟨⟨pub, r₁⟩, header, afterHeader⟩ := Go.run_check_bind_ok parsed
  obtain ⟨pre₁, rfl⟩ := env.parsePublicKey_consumes _ _ _ _ header
  rw [Go.run_modify_bind] at afterHeader
  obtain ⟨buf, r₂, -, rfl, afterUsage⟩ := Go.run_readFull_bind afterHeader
  by_cases cleartext : buf.getD 0 0 = 0
  · simp only [cleartext, if_true, bind_assoc, Go.run_modify_bind, Go.run_pure_bind,
      Go.run_get_bind, Bool.false_eq_true, if_false] at afterUsage
    rcases parsePrivateKey_installsOrFails r₂ _ with ⟨fault, failed⟩ | ⟨key, fits, installed⟩
    · rw [failed] at afterUsage
      cases afterUsage
    · rw [installed, Prod.mk.injEq] at afterUsage
      exact .inr ⟨_, key, fits, afterUsage.2.symm⟩
  by_cases encrypted : buf.getD 0 0 = 254 ∨ buf.getD 0 0 = 255
  · simp only [cleartext, encrypted, if_true, if_false] at afterUsage
    rw [Go.run_bind] at afterUsage
    split at afterUsage
    next r₃ pk₁ parameters =>
      obtain ⟨id, mid, c, f, checksum, rfl, found, s2k, rfl⟩ :=
        parseEncryptionParameters_ok env parameters
      obtain ⟨pre₂, rfl⟩ := env.parseS2K_consumes _ _ _ s2k
      simp only [Go.run_get_bind, if_true] at afterUsage
      rw [Go.run_bind] at afterUsage
      split at afterUsage
      next r₄ pk₂ iv =>
        obtain ⟨c', iv, same, positive, length, rfl, rfl⟩ := parseIV_ok iv
        cases same
        simp only [Go.run_modify_bind, if_true, Go.run_pure, Prod.mk.injEq] at afterUsage
        obtain ⟨-, rfl⟩ := afterUsage
        refine .inl ⟨rfl, rfl, ⟨f, rfl⟩, ⟨id, c, found, rfl, positive, length⟩, ?_⟩
        exact ⟨pre₁ ++ buf ++ id :: pre₂, r₄, by simp, rfl⟩
      next => cases afterUsage
    next => cases afterUsage
  · simp only [cleartext, encrypted, if_false, Go.run_throw_bind] at afterUsage
    cases afterUsage

end OpenPGP.Parse
