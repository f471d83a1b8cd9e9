import OpenPGP.Proofs.Signature
import OpenPGP.Proofs.Parse
import OpenPGP.Collaborators

/-! Parsers that read their input front to back through `readFull`. Such a
parser looks only at the bytes it consumes: bytes after them are left unread
whatever they are, and an input that ends among them makes it report
`io.ErrUnexpectedEOF`, whatever it had read so far. The property is stated once
for readers and once for calls on a receiver, and lifted through binds, so the
parsers built from `readFull` and `MPI.ReadFrom` have it by construction. The
version 3 signature parser streams; the private-key parser streams up to the
blob, given collaborators that stream: the blob of an encrypted key is the rest
of the body, and the secret material of a cleartext key is read by MPIs that
ignore what follows them. -/

namespace OpenPGP.Streaming

theorem split_of_append_eq {P post pre mid : Bytes} (same : P ++ post = pre ++ mid)
    (within : post.length ≤ mid.length) : ∃ M, mid = M ++ post ∧ P = pre ++ M := by
  rcases List.append_eq_append_iff.mp same with ⟨a, rfl, rfl⟩ | ⟨c, rfl, rfl⟩
  · have empty : a = [] := by simpa using within
    subst empty
    exact ⟨[], by simp, by simp⟩
  · exact ⟨c, rfl, rfl⟩

/-- A reader that looks only at the bytes it consumes. -/
structure ReaderStreams (q : Reader α) : Prop where
  /-- What it consumed alone gives the same value. -/
  exact : ∀ {B a rest}, q B = .ok (a, rest) → ∃ pre, B = pre ++ rest ∧ q pre = .ok (a, [])
  /-- Bytes appended to its input are left unread. -/
  append : ∀ {B a rest}, q B = .ok (a, rest) → ∀ X, q (B ++ X) = .ok (a, rest ++ X)
  /-- A failure other than a short read does not depend on what follows. -/
  fail : ∀ {B e}, q B = .error e → e ≠ .ErrUnexpectedEOF → ∀ X, q (B ++ X) = .error e
  /-- An input that ends among the consumed bytes is a short read. -/
  short : ∀ {B a rest}, q B = .ok (a, rest) → ∀ P post, B = P ++ post →
    rest.length < post.length → q P = .error .ErrUnexpectedEOF

theorem readFull_streams (n : Nat) : ReaderStreams (readFull n) where
  exact read := by
    obtain ⟨length, rfl⟩ := readFull_ok read
    exact ⟨_, rfl, by simpa using readFull_append [] length⟩
  append read X := by
    obtain ⟨length, rfl⟩ := readFull_ok read
    rw [List.append_assoc, readFull_append _ length]
  fail failed notShort X := by
    unfold readFull at failed
    split at failed <;> cases failed
    exact absurd rfl notShort
  short read P post split longer := by
    obtain ⟨length, rfl⟩ := readFull_ok read
    have lengths := congrArg List.length split
    simp only [List.length_append] at lengths
    exact readFull_short (by omega)

theorem ReaderStreams.pure (a : α) : ReaderStreams (pure a : Reader α) where
  exact read := by
    cases read
    exact ⟨[], by simp, rfl⟩
  append read X := by
    cases read
    rfl
  fail failed := by cases failed
  short read P post split longer := by
    cases read
    simp [split] at longer

theorem ReaderStreams.bind {q : Reader α} {g : α → Reader β} (first : ReaderStreams q)
    (next : ∀ a, ReaderStreams (g a)) : ReaderStreams (q >>= g) where
  exact read := by
    obtain ⟨a, mid, read₁, read₂⟩ := Reader.bind_eq_ok.mp read
    obtain ⟨pre₁, rfl, alone₁⟩ := first.exact read₁
    obtain ⟨pre₂, rfl, alone₂⟩ := (next a).exact read₂
    refine ⟨pre₁ ++ pre₂, (List.append_assoc _ _ _).symm, Reader.bind_eq_ok.mpr ⟨a, pre₂, ?_, alone₂⟩⟩
    simpa using first.append alone₁ pre₂
  append read X := by
    obtain ⟨a, mid, read₁, read₂⟩ := Reader.bind_eq_ok.mp read
    exact Reader.bind_eq_ok.mpr ⟨a, mid ++ X, first.append read₁ X, (next a).append read₂ X⟩
  fail failed notShort X := by
    rw [Reader.run_bind]
    rcases Reader.bind_eq_error failed with read | ⟨a, mid, read, rest⟩
    · rw [first.fail read notShort]
    · rw [first.append read X]
      exact (next a).fail rest notShort X
  short read P post split longer := by
    obtain ⟨a, mid, read₁, read₂⟩ := Reader.bind_eq_ok.mp read
    obtain ⟨pre₁, rfl, alone₁⟩ := first.exact read₁
    rw [Reader.run_bind]
    by_cases within : post.length ≤ mid.length
    · obtain ⟨M, rfl, rfl⟩ := split_of_append_eq split.symm within
      rw [first.append alone₁ M, List.nil_append]
      exact (next a).short read₂ M post rfl longer
    · rw [first.short read₁ P post split (by omega)]

theorem ReaderStreams.throw (err : Error) : ReaderStreams (throw err : Reader α) where
  exact read := by cases read
  append read := by cases read
  fail failed _ _ := failed
  short read := by cases read

theorem MPI.ReadFrom_streams : ReaderStreams MPI.ReadFrom :=
  (readFull_streams 2).bind fun _ => (readFull_streams _).bind fun _ => .pure _

/-- A call on a receiver that reads its input front to back and returns what
it leaves: it ends on an input as on what it consumed of it, with the same
receiver afterwards. -/
structure Streams (p : Bytes → Go σ Bytes) : Prop where
  exact : ∀ {B s rest s'}, Go.run (p B) s = (.ok rest, s') →
    ∃ pre, B = pre ++ rest ∧ Go.run (p pre) s = (.ok [], s')
  append : ∀ {B s rest s'}, Go.run (p B) s = (.ok rest, s') → ∀ X,
    Go.run (p (B ++ X)) s = (.ok (rest ++ X), s')
  fail : ∀ {B s fault s'}, Go.run (p B) s = (.error fault, s') →
    fault ≠ .error .ErrUnexpectedEOF → ∀ X, Go.run (p (B ++ X)) s = (.error fault, s')
  short : ∀ {B s rest s'}, Go.run (p B) s = (.ok rest, s') → ∀ P post, B = P ++ post →
    rest.length < post.length → (Go.run (p P) s).1 = .error (.error .ErrUnexpectedEOF)

namespace Streams

theorem returns : Streams (σ := σ) fun r => pure r where
  exact ran := by
    cases ran
    exact ⟨[], rfl, rfl⟩
  append ran X := by
    cases ran
    rfl
  fail ran := by cases ran
  short ran P post split longer := by
    cases ran
    simp [split] at longer

theorem throws (fault : Fault) : Streams (σ := σ) fun _ => throw fault where
  exact ran := by cases ran
  append ran := by cases ran
  fail ran _ _ := ran
  short ran := by cases ran

theorem bind (m : Go σ α) {k : α → Bytes → Go σ Bytes} (next : ∀ a, Streams (k a)) :
    Streams fun r => m >>= fun a => k a r where
  exact ran := by
    rcases first : Go.run m _ with ⟨_ | a, t⟩ <;> rw [Go.run_bind, first] at ran
    · cases ran
    obtain ⟨pre, split, alone⟩ := (next a).exact ran
    exact ⟨pre, split, by rw [Go.run_bind, first]; exact alone⟩
  append ran X := by
    rcases first : Go.run m _ with ⟨_ | a, t⟩ <;> rw [Go.run_bind, first] at ran
    · cases ran
    rw [Go.run_bind, first]
    exact (next a).append ran X
  fail ran notShort X := by
    rcases first : Go.run m _ with ⟨_ | a, t⟩ <;> rw [Go.run_bind, first] at ran ⊢
    · exact ran
    · exact (next a).fail ran notShort X
  short ran P post split longer := by
    rcases first : Go.run m _ with ⟨_ | a, t⟩ <;> rw [Go.run_bind, first] at ran
    · cases ran
    rw [Go.run_bind, first]
    exact (next a).short ran P post split longer

theorem throw_bind (fault : Fault) {k : α → Bytes → Go σ Bytes} :
    Streams fun r => throw fault >>= fun x => k x r :=
  throws fault

theorem cut {p : Bytes → Go σ Bytes} (streams : Streams p) {B P post rest : Bytes} {s s' : σ}
    (ran : Go.run (p B) s = (.ok rest, s')) (split : B = P ++ post)
    (within : post.length ≤ rest.length) :
    ∃ M, rest = M ++ post ∧ Go.run (p P) s = (.ok M, s') := by
  obtain ⟨pre, rfl, alone⟩ := streams.exact ran
  obtain ⟨M, rfl, rfl⟩ := split_of_append_eq split.symm within
  exact ⟨M, rfl, by simpa using streams.append alone M⟩

theorem ite {c : Prop} [Decidable c] {p q : Bytes → Go σ Bytes} (yes : Streams p)
    (no : Streams q) : Streams fun r => if c then p r else q r := by
  by_cases h : c <;> simpa only [h, if_true, if_false]

theorem check_bind {q : Reader α} {f : α × Bytes → Go σ Bytes} (first : ReaderStreams q)
    (next : ∀ a, Streams fun r => f (a, r)) : Streams fun r => Go.check (q r) >>= f where
  exact ran := by
    obtain ⟨⟨a, mid⟩, read, rest⟩ := Go.run_check_bind_ok ran
    obtain ⟨pre₁, rfl, alone₁⟩ := first.exact read
    obtain ⟨pre₂, rfl, alone₂⟩ := (next a).exact rest
    refine ⟨pre₁ ++ pre₂, (List.append_assoc _ _ _).symm, ?_⟩
    simpa only [Go.run_check_bind, first.append alone₁ pre₂, List.nil_append] using alone₂
  append ran X := by
    obtain ⟨⟨a, mid⟩, read, rest⟩ := Go.run_check_bind_ok ran
    simpa only [Go.run_check_bind, first.append read X] using (next a).append rest X
  fail ran notShort X := by
    rcases Go.run_check_bind_error ran with ⟨e, read, rfl, rfl⟩ | ⟨⟨a, mid⟩, read, rest⟩
    · simp only [Go.run_check_bind, first.fail read (fun h => notShort (h ▸ rfl)) X]
    · simpa only [Go.run_check_bind, first.append read X] using (next a).fail rest notShort X
  short ran P post split longer := by
    obtain ⟨⟨a, mid⟩, read, rest⟩ := Go.run_check_bind_ok ran
    obtain ⟨pre₁, rfl, alone₁⟩ := first.exact read
    by_cases within : post.length ≤ mid.length
    · obtain ⟨M, rfl, rfl⟩ := split_of_append_eq split.symm within
      simpa only [Go.run_check_bind, first.append alone₁ M, List.nil_append] using
        (next a).short rest M post rfl longer
    · simp only [Go.run_check_bind, first.short read P post split (by omega)]

end Streams

theorem parseValue_streams (algo : PublicKeyAlgorithm) : Streams (SignatureV3.parseValue algo) := by
  unfold SignatureV3.parseValue
  exact .ite (.bind _ fun _ => .check_bind MPI.ReadFrom_streams fun _ => .bind _ fun _ => .returns)
    (.ite (.bind _ fun _ => .check_bind MPI.ReadFrom_streams fun _ =>
      .bind _ fun _ => .check_bind MPI.ReadFrom_streams fun _ => .bind _ fun _ => .returns) (.throws _))

theorem parseHash_streams (algo : PublicKeyAlgorithm) (keyId : Bytes) (hashId : UInt8) :
    Streams (SignatureV3.parseHash algo keyId hashId) := by
  unfold SignatureV3.parseHash
  rcases HashById hashId with _ | _ | _
  · exact .throws _
  · exact .bind _ fun _ => .check_bind (readFull_streams 2) fun _ =>
      .bind _ fun _ => parseValue_streams algo
  · exact .bind _ fun _ => .throws _

theorem parse_streams (registry : PublicKeyRegistry) : Streams (SignatureV3.parse registry) := by
  unfold SignatureV3.parse
  refine .check_bind (readFull_streams 1) fun _ => .ite (.throw_bind _) (.bind _ fun _ =>
    (.check_bind (readFull_streams 1) fun _ => .ite (.throw_bind _) (.bind _ fun _ =>
      (.check_bind (readFull_streams 5) fun _ => .bind _ fun _ =>
        (.check_bind (readFull_streams 8) fun keyId => .bind _ fun _ =>
          (.check_bind (readFull_streams 2) fun ids => .bind _ fun _ => ?_))))))
  rcases registry.byId (ids.getD 0 0) with _ | algo
  · exact .throws _
  · exact parseHash_streams algo keyId _

/-- `parse` reads a version 3 signature packet front to back and no further.
Bytes after what it consumes are left unread whatever they are, and a failure
other than a short read happens as well with them; an input cut after the
consumed bytes gives the same signature, and one cut among them is a short
read, `io.ErrUnexpectedEOF`. -/
theorem parse_reads_only_its_packet (registry : PublicKeyRegistry) (B : Bytes)
    (sig₀ : SignatureV3) :
    (∀ rest sig, Go.run (SignatureV3.parse registry B) sig₀ = (.ok rest, sig) →
      (∀ X, Go.run (SignatureV3.parse registry (B ++ X)) sig₀ = (.ok (rest ++ X), sig)) ∧
      (∀ P post, B = P ++ post → post.length ≤ rest.length →
        ∃ M, rest = M ++ post ∧ Go.run (SignatureV3.parse registry P) sig₀ = (.ok M, sig)) ∧
      (∀ P post, B = P ++ post → rest.length < post.length →
        (Go.run (SignatureV3.parse registry P) sig₀).1 = .error (.error .ErrUnexpectedEOF))) ∧
    (∀ fault sig, Go.run (SignatureV3.parse registry B) sig₀ = (.error fault, sig) →
      fault ≠ .error .ErrUnexpectedEOF →
      ∀ X, Go.run (SignatureV3.parse registry (B ++ X)) sig₀ = (.error fault, sig)) :=
  have streams := parse_streams registry
  ⟨fun _ _ ran => ⟨streams.append ran, fun _ _ split within => streams.cut ran split within,
    streams.short ran⟩, fun _ _ => streams.fail⟩

theorem dsaSig_trailing_byte_unread :
    ∃ sig, Go.run (SignatureV3.parse PublicKeyById Signature.dsaSigBody) SignatureV3.new =
        (.ok [], sig) ∧
      Go.run (SignatureV3.parse PublicKeyById (Signature.dsaSigBody ++ [7])) SignatureV3.new =
        (.ok [7], sig) :=
  ⟨_, rfl, ((parse_reads_only_its_packet PublicKeyById Signature.dsaSigBody SignatureV3.new).1
    [] _ rfl).1 [7]⟩

section PrivateKey
open SecretMaterial

variable (env : Env)

theorem parseEncryptionParameters_streams (streamsS2K : ReaderStreams env.parseS2K)
    (s2kType : UInt8) : Streams (parseEncryptionParameters env s2kType) := by
  unfold parseEncryptionParameters
  refine .check_bind (readFull_streams 1) fun buf => .bind _ fun _ => ?_
  rcases env.CipherById (buf.getD 0 0) with _ | c
  · exact .throws _
  · exact .bind _ fun _ => .check_bind streamsS2K fun _ => .bind _ fun _ =>
      .ite (.bind _ fun _ => .returns) (.bind _ fun _ => .returns)

theorem parseIV_streams : Streams parseIV := by
  unfold parseIV
  exact .bind _ fun _ => .bind _ fun _ => .ite (.throw_bind _) (.bind _ fun _ =>
    .check_bind (readFull_streams _) fun _ => .bind _ fun _ => .returns)

theorem parseSingleMPIPrivateKey_append {select : PublicKeyValue → Option κ} {name : String}
    {build : κ → Nat → PrivateKeyValue} {data : Bytes} {pk₁ pk₂ : PrivateKey} {key : PrivateKeyValue}
    (installed : Go.run (parseSingleMPIPrivateKey select name build data) pk₁ = (.ok (), pk₁.install key))
    (same : pk₁.PublicKey = pk₂.PublicKey) (X : Bytes) :
    Go.run (parseSingleMPIPrivateKey select name build (data ++ X)) pk₂ = (.ok (), pk₂.install key) := by
  simp only [parseSingleMPIPrivateKey, Go.run_get_bind, ← same] at installed ⊢
  obtain ⟨pub, asserted, installed⟩ := Go.run_lift_bind_ok installed
  obtain ⟨⟨x, rest⟩, read, installed⟩ := Go.run_check_bind_ok installed
  simp only [Go.run_modify, Prod.mk.injEq] at installed
  simp only [asserted, Go.run_lift_bind, Go.run_check_bind, MPI.ReadFrom_streams.append read X,
    Go.run_modify, install_inj installed.2]

theorem parseRSAPrivateKey_append {data : Bytes} {pk₁ pk₂ : PrivateKey} {key : PrivateKeyValue}
    (installed : Go.run (parseRSAPrivateKey data) pk₁ = (.ok (), pk₁.install key))
    (same : pk₁.PublicKey = pk₂.PublicKey) (X : Bytes) :
    Go.run (parseRSAPrivateKey (data ++ X)) pk₂ = (.ok (), pk₂.install key) := by
  simp only [parseRSAPrivateKey, Go.run_get_bind, ← same] at installed ⊢
  obtain ⟨pub, asserted, installed⟩ := Go.run_lift_bind_ok installed
  obtain ⟨⟨d, buf⟩, readD, installed⟩ := Go.run_check_bind_ok installed
  obtain ⟨⟨p, buf'⟩, readP, installed⟩ := Go.run_check_bind_ok installed
  obtain ⟨⟨q, rest⟩, readQ, installed⟩ := Go.run_check_bind_ok installed
  obtain ⟨⟨⟩, validated, installed⟩ := Go.run_check_bind_ok installed
  obtain ⟨priv, precomputed, installed⟩ := Go.run_lift_bind_ok installed
  simp only [Go.run_modify, Prod.mk.injEq] at installed
  simp only [asserted, Go.run_lift_bind, Go.run_check_bind, MPI.ReadFrom_streams.append readD X,
    MPI.ReadFrom_streams.append readP X, MPI.ReadFrom_streams.append readQ X, validated,
    precomputed, Go.run_modify, install_inj installed.2]

theorem parsePrivateKey_append {data : Bytes} {pk₁ pk₂ : PrivateKey} {key : PrivateKeyValue}
    (installed : Go.run (parsePrivateKey data) pk₁ = (.ok (), pk₁.install key))
    (same : pk₁.PublicKey = pk₂.PublicKey) (X : Bytes) :
    Go.run (parsePrivateKey (data ++ X)) pk₂ = (.ok (), pk₂.install key) := by
  simp only [parsePrivateKey, Go.run_get_bind, ← same] at installed ⊢
  split_ifs at installed ⊢
  · exact parseRSAPrivateKey_append installed same X
  · exact parseSingleMPIPrivateKey_append installed same X
  · exact parseSingleMPIPrivateKey_append installed same X
  · exact parseSingleMPIPrivateKey_append installed same X
  · cases installed

/-- Bytes appended to a packet body that `parse` accepts change nothing of a
cleartext key: the secret material is read MPI by MPI and what follows, the
two checksum bytes of RFC 4880 among it, is never read. For an encrypted key
the appended bytes become the end of its blob. -/
theorem parse_append (streamsPub : ∀ pub, ReaderStreams (env.parsePublicKey pub))
    (streamsS2K : ReaderStreams env.parseS2K) {r : Bytes} {pk₀ pk : PrivateKey}
    (parsed : Go.run (PrivateKey.parse env r) pk₀ = (.ok (), pk)) (X : Bytes) :
    Go.run (PrivateKey.parse env (r ++ X)) pk₀ =
      (.ok (), if pk.Encrypted then { pk with encryptedData := pk.encryptedData.map (· ++ X) }
        else pk) := by
  have whole := parsed
  simp only [PrivateKey.parse, Go.run_get_bind] at parsed
  obtain ⟨⟨pub, r₁⟩, read, parsed⟩ := Go.run_check_bind_ok parsed
  rw [Go.run_modify_bind] at parsed
  obtain ⟨buf, r₂, length, rfl, parsed⟩ := Go.run_readFull_bind parsed
  obtain ⟨b, rfl⟩ := List.length_eq_one.mp length
  rw [List.singleton_append] at read
  have readMore : env.parsePublicKey pk₀.PublicKey (r ++ X) = .ok (pub, b :: (r₂ ++ X)) :=
    (streamsPub _).append read X
  by_cases cleartext : b = 0
  · subst cleartext
    rw [Parse.parse_cleartext env read] at whole
    rw [Parse.parse_cleartext env readMore]
    rcases parsePrivateKey_installsOrFails r₂
      { pk₀ with PublicKey := pub, s2k := none, Encrypted := false, encryptedData := some r₂ } with
      ⟨_, failed⟩ | ⟨key, -, installed⟩
    · rw [failed] at whole
      cases whole
    · rw [installed, Prod.mk.injEq] at whole
      obtain ⟨-, rfl⟩ := whole
      simp only [install_Encrypted, Bool.false_eq_true, if_false]
      exact parsePrivateKey_append installed (by rfl) X
  by_cases encrypted : b = 254 ∨ b = 255
  · rw [Parse.parse_encrypted env read encrypted] at whole
    rw [Parse.parse_encrypted env readMore encrypted]
    split at whole
    next r₃ pk₁ parameters =>
      rw [(parseEncryptionParameters_streams env streamsS2K _).append parameters X]
      split at whole
      next r₄ pk₂ iv =>
        rw [parseIV_streams.append iv X]
        obtain ⟨_, _, -, -, -, -, rfl⟩ := Parse.parseIV_ok iv
        obtain ⟨_, _, _, _, _, -, -, -, rfl⟩ := Parse.parseEncryptionParameters_ok env parameters
        cases whole
        simp
      next => cases whole
    next => cases whole
  · simp only [List.getD_cons_zero, cleartext, encrypted, if_false, Go.run_throw_bind] at parsed
    cases parsed

theorem readPublicKey_streams (pub : PublicKey) : ReaderStreams (Collaborators.readPublicKey pub) := by
  refine (readFull_streams 1).bind fun _ => MPI.ReadFrom_streams.bind fun _ =>
    MPI.ReadFrom_streams.bind fun _ => ?_
  split
  · exact .pure _
  split
  · exact .pure _
  · exact .throw _

theorem readS2K_streams : ReaderStreams Collaborators.readS2K :=
  (readFull_streams 2).bind fun _ => .pure _

def ecdsaBody : Bytes := [19, 0, 1, 1, 0, 1, 1, 0, 0, 1, 1]

theorem ecdsaKey_wrong_checksum_accepted :
    ∃ pk, Go.run (PrivateKey.parse Collaborators.env ecdsaBody) (PrivateKey.new false) = (.ok (), pk) ∧
      Go.run (PrivateKey.parse Collaborators.env (ecdsaBody ++ [7, 7])) (PrivateKey.new false) =
        (.ok (), pk) :=
  ⟨_, rfl, @parse_append Collaborators.env readPublicKey_streams readS2K_streams ecdsaBody
    (PrivateKey.new false) _ rfl [7, 7]⟩

end PrivateKey

end OpenPGP.Streaming
