import OpenPGP.SignatureV3

/-! The v3 signature codec. `parse` accepts exactly the version, the length
byte 5 and a body laid out as `Serialize` writes it, and reads back every field
of a signature whose creation time fits 32 bits. Two slips: `parse` panics on
an algorithm the registry resolves but the switch does not handle, and
`Serialize` calls `Bytes()` on the nil `RSASignature` of a DSA signature that
`parse` reads into a fresh one. -/

namespace OpenPGP.Signature

theorem version_supported {v : UInt8} (supported : ¬(v < 2 ∨ v > 3)) : v = 2 ∨ v = 3 := by
  simp only [not_or, UInt8.not_lt, UInt8.le_def, BitVec.le_def, gt_iff_lt] at supported
  rw [UInt8.eq_iff_toNat, UInt8.eq_iff_toNat]
  simp only [UInt8.toNat] at *
  simp at supported ⊢
  omega

theorem beBytes_time {four : Bytes} (length : four.length = 4) :
    beBytes 4 (((beValue four : Nat) : Int) % 2 ^ 32).toNat = four := by
  have small : beValue four < 2 ^ 32 := by simpa [length] using beValue_lt four
  rw [Int.emod_eq_of_lt (by omega) (by omega), Int.toNat_ofNat, ← length, beBytes_beValue]

theorem beBytes_keyId {keyId : Bytes} (length : keyId.length = 8) :
    beBytes 8 (UInt64.ofNat (beValue keyId)).toNat = keyId := by
  have small : beValue keyId < 2 ^ 64 := by simpa [length] using beValue_lt keyId
  rw [UInt64.toNat_ofNat', Nat.mod_eq_of_lt small, ← length, beBytes_beValue]

/-- The body of a v3 signature after the version and length bytes, with `value`
as its signature value. -/
def layout (sig : SignatureV3) (algo : PublicKeyAlgorithm) (value : Bytes) : Bytes :=
  sig.SigType :: beBytes 4 (sig.CreationTime % 2 ^ 32).toNat ++ beBytes 8 sig.IssuerKeyId.toNat ++
    algo.Id :: sig.Hash.Id :: sig.HashTag.1 :: sig.HashTag.2 :: value

def value? (sig : SignatureV3) (algo : PublicKeyAlgorithm) : Option Bytes :=
  if algo = .RSA ∨ algo = .RSASignOnly then sig.RSASignature.map MPI.WriteTo
  else if algo = .DSA then
    sig.DSASigR.bind fun r => sig.DSASigS.map fun s => r.WriteTo ++ s.WriteTo
  else none

theorem Serialize_run {sig : SignatureV3} {algo : PublicKeyAlgorithm} {value : Bytes}
    (algorithm : sig.PubKeyAlgo = some algo) (signed : sig.unsigned = .ok false)
    (valued : value? sig algo = some value) (w : Bytes) :
    Go.run sig.Serialize w = (.ok (), w ++ layout sig algo value) := by
  simp only [SignatureV3.Serialize, write, algorithm, signed, deref_some, Go.run_modify_bind,
    Go.run_lift_bind, Bool.false_eq_true, if_false, Go.run_pure_bind, SignatureV3.writeValue]
  unfold value? at valued
  split
  next rsa =>
    rw [if_pos rsa] at valued
    obtain ⟨m, stored, rfl⟩ := Option.map_eq_some'.mp valued
    simp [stored, Field.WriteTo, layout]
  next notRSA =>
    rw [if_neg notRSA] at valued
    split at valued
    next dsa =>
      simp only [Option.bind_eq_some, Option.map_eq_some'] at valued
      obtain ⟨R, storedR, S, storedS, rfl⟩ := valued
      simp [dsa, storedR, storedS, Field.WriteTo, layout]
    next => cases valued

section Wire

variable (registry : PublicKeyRegistry)

/-- A signature that the wire format holds: an algorithm that the registry
files under its id and that signs, a creation time that fits 32 bits, a hash of
`HashById`, and the value fields of the algorithm set to well-formed MPIs. -/
structure Representable (algo : PublicKeyAlgorithm) (sig : SignatureV3) : Prop where
  filed : registry.byId algo.Id = some algo
  signs : algo = .RSA ∨ algo = .RSASignOnly ∨ algo = .DSA
  time : 0 ≤ sig.CreationTime ∧ sig.CreationTime < 2 ^ 32
  hash : ∃ id, HashById id = some (.crypto sig.Hash)
  value : if algo = .DSA then
      (∃ R, sig.DSASigR = some R ∧ R.WellFormed) ∧ ∃ S, sig.DSASigS = some S ∧ S.WellFormed
    else ∃ m, sig.RSASignature = some m ∧ m.WellFormed

theorem parse_lookup {v x : UInt8} {four keyId : Bytes} (version : v = 2 ∨ v = 3)
    (length : four.length = 4) (eight : keyId.length = 8) (a h : UInt8) (r : Bytes)
    (sig₀ : SignatureV3) :
    Go.run (SignatureV3.parse registry (v :: 5 :: x :: four ++ keyId ++ a :: h :: r)) sig₀ =
      Go.run (match registry.byId a with
        | none => throw (.error (.UnsupportedError ("public key algorithm " ++ toString a.toNat)))
        | some algo => SignatureV3.parseHash algo keyId h r) { sig₀ with
        SigType := x, CreationTime := beValue four, IssuerKeyId := UInt64.ofNat (beValue keyId),
        PubKeyAlgo := registry.byId a } := by
  have old : ¬(v < 2 ∨ v > 3) := by rcases version with rfl | rfl <;> decide
  rcases found : registry.byId a with _ | algo <;>
    simp only [SignatureV3.parse, readFull, List.cons_append, List.append_assoc, List.length_cons,
      List.length_append, length, eight, le_add_iff_nonneg_left, zero_le, ↓reduceIte,
      List.take_succ_cons, List.take_zero, List.drop_succ_cons, List.drop_zero,
      List.getD_cons_zero, List.getD_cons_succ, ne_eq, ExceptT.bind_throw, pure_bind, ite_not,
      Go.run_check_bind, old, Nat.reduceLeDiff, le_add_iff_nonneg_right, List.take_left',
      List.drop_left', Nat.reduceAdd, Go.run_modify_bind, not_true_eq_false, found]

theorem parse_header {v x : UInt8} {four keyId : Bytes} {algo : PublicKeyAlgorithm}
    (version : v = 2 ∨ v = 3) (length : four.length = 4) (eight : keyId.length = 8)
    (found : registry.byId algo.Id = some algo) (h : UInt8) (r : Bytes) (sig₀ : SignatureV3) :
    Go.run (SignatureV3.parse registry (v :: 5 :: x :: four ++ keyId ++ algo.Id :: h :: r)) sig₀ =
      Go.run (SignatureV3.parseHash algo keyId h r) { sig₀ with
        SigType := x, CreationTime := beValue four, IssuerKeyId := UInt64.ofNat (beValue keyId),
        PubKeyAlgo := some algo } := by
  rw [parse_lookup registry version length eight, found]

theorem parseHash_crypto {algo : PublicKeyAlgorithm} {keyId : Bytes} {h : UInt8} {c : CryptoHash}
    (hash : HashById h = some (.crypto c)) (t₀ t₁ : UInt8) (r : Bytes) (s : SignatureV3) :
    Go.run (SignatureV3.parseHash algo keyId h (t₀ :: t₁ :: r)) s =
      Go.run (SignatureV3.parseValue algo r) { s with Hash := c, HashTag := (t₀, t₁) } := by
  simp [SignatureV3.parseHash, hash, readFull]

theorem unsigned_false {algo : PublicKeyAlgorithm} {sig : SignatureV3}
    (representable : Representable registry algo sig) (rsaSet : sig.RSASignature ≠ none) :
    sig.unsigned = .ok false := by
  obtain ⟨m, rsa⟩ := Option.ne_none_iff_exists'.mp rsaSet
  have formed := representable.value
  split_ifs at formed
  · obtain ⟨⟨R, storedR, bytesR, holdsR, -⟩, -⟩ := formed
    rcases bytes : m.bytes with _ | _ <;>
      simp [SignatureV3.unsigned, Field.Bytes, rsa, storedR, bytes, holdsR]
  · obtain ⟨m', stored, bytes, holds, -⟩ := formed
    cases rsa.symm.trans stored
    simp [SignatureV3.unsigned, Field.Bytes, rsa, holds]

theorem parseValue_ok {algo : PublicKeyAlgorithm} {r rest : Bytes} {s s' : SignatureV3}
    (parsed : Go.run (SignatureV3.parseValue algo r) s = (.ok rest, s')) :
    ((algo = .RSA ∨ algo = .RSASignOnly) ∧ ∃ m, m.WellFormed ∧ r = m.WriteTo ++ rest ∧
      s' = { s with RSASignature := some m }) ∨
    (algo = .DSA ∧ ∃ R S, R.WellFormed ∧ S.WellFormed ∧ r = R.WriteTo ++ S.WriteTo ++ rest ∧
      s' = { s with DSASigR := some R, DSASigS := some S }) := by
  unfold SignatureV3.parseValue at parsed
  split_ifs at parsed with rsa dsa
  · rw [Go.run_modify_bind] at parsed
    obtain ⟨⟨m, r'⟩, read, stored⟩ := Go.run_check_bind_ok parsed
    simp only [Go.run_modify_bind, Go.run_pure, Prod.mk.injEq, Except.ok.injEq] at stored
    obtain ⟨rfl, rfl⟩ := stored
    obtain ⟨formed, rfl⟩ := MPI.ReadFrom_ok read
    exact .inl ⟨rsa, m, formed, rfl, rfl⟩
  · rw [Go.run_modify_bind] at parsed
    obtain ⟨⟨R, r'⟩, readR, afterR⟩ := Go.run_check_bind_ok parsed
    rw [Go.run_modify_bind] at afterR
    obtain ⟨⟨S, r''⟩, readS, afterS⟩ := Go.run_check_bind_ok afterR
    simp only [Go.run_modify_bind, Go.run_pure, Prod.mk.injEq, Except.ok.injEq] at afterS
    obtain ⟨rfl, rfl⟩ := afterS
    obtain ⟨formedR, rfl⟩ := MPI.ReadFrom_ok readR
    obtain ⟨formedS, rfl⟩ := MPI.ReadFrom_ok readS
    exact .inr ⟨dsa, R, S, formedR, formedS, by simp, rfl⟩
  · cases parsed

theorem parseValue_panic {algo : PublicKeyAlgorithm} {r : Bytes} {s s' : SignatureV3} {p : String}
    (panicked : Go.run (SignatureV3.parseValue algo r) s = (.error (.panic p), s')) :
    p = "unreachable" ∧ ¬(algo = .RSA ∨ algo = .RSASignOnly ∨ algo = .DSA) ∧ s' = s := by
  unfold SignatureV3.parseValue at panicked
  split_ifs at panicked with rsa dsa
  · simp only [Go.run_modify_bind, Go.run_check_bind] at panicked
    split at panicked <;> cases panicked
  · simp only [Go.run_modify_bind, Go.run_check_bind] at panicked
    split at panicked
    · split at panicked <;> cases panicked
    · cases panicked
  · simp only [Go.run_throw, Prod.mk.injEq, Except.error.injEq, Fault.panic.injEq] at panicked
    exact ⟨panicked.1.symm, by rw [← or_assoc]; exact not_or.mpr ⟨rsa, dsa⟩, panicked.2.symm⟩

theorem parseHash_inv {algo : PublicKeyAlgorithm} {keyId : Bytes} {h : UInt8} {r : Bytes}
    {s s' : SignatureV3} {result : Except Fault Bytes}
    (parsed : Go.run (SignatureV3.parseHash algo keyId h r) s = (result, s'))
    (noError : ∀ e, result ≠ .error (.error e)) :
    ∃ c t₀ t₁ r', HashById h = some (.crypto c) ∧ r = t₀ :: t₁ :: r' ∧
      Go.run (SignatureV3.parseValue algo r') { s with Hash := c, HashTag := (t₀, t₁) } =
        (result, s') := by
  unfold SignatureV3.parseHash at parsed
  rcases found : HashById h with _ | ⟨c | id⟩ <;>
    simp only [found, Go.run_modify_bind, Go.run_throw] at parsed
  · exact absurd (Prod.mk.inj parsed).1.symm (noError _)
  rotate_left
  · exact absurd (Prod.mk.inj parsed).1.symm (noError _)
  obtain ⟨tag, r', length, rfl, tagged⟩ := Go.run_readFull_bind_of_ne parsed (noError _)
  obtain ⟨t₀, t₁, rfl⟩ := List.length_eq_two.mp length
  exact ⟨c, t₀, t₁, r', rfl, rfl, tagged⟩

theorem parse_inv {B : Bytes} {sig₀ sig : SignatureV3} {result : Except Fault Bytes}
    (parsed : Go.run (SignatureV3.parse registry B) sig₀ = (result, sig))
    (noError : ∀ e, result ≠ .error (.error e)) :
    ∃ v x four keyId algo h r, (v = 2 ∨ v = 3) ∧ four.length = 4 ∧ keyId.length = 8 ∧
      registry.byId algo.Id = some algo ∧ B = v :: 5 :: x :: four ++ keyId ++ algo.Id :: h :: r ∧
      Go.run (SignatureV3.parseHash algo keyId h r) { sig₀ with
        SigType := x, CreationTime := beValue four, IssuerKeyId := UInt64.ofNat (beValue keyId),
        PubKeyAlgo := some algo } = (result, sig) := by
  simp only [SignatureV3.parse] at parsed
  obtain ⟨version, B₁, oneV, rfl, afterVersion⟩ := Go.run_readFull_bind_of_ne parsed (noError _)
  obtain ⟨v, rfl⟩ := List.length_eq_one.mp oneV
  split at afterVersion
  · exact absurd (Prod.mk.inj afterVersion).1.symm (noError _)
  next supported =>
  simp only [List.getD_cons_zero, Go.run_pure_bind] at afterVersion supported
  obtain ⟨length, B₂, oneL, rfl, afterLength⟩ := Go.run_readFull_bind_of_ne afterVersion (noError _)
  obtain ⟨l, rfl⟩ := List.length_eq_one.mp oneL
  split at afterLength
  · exact absurd (Prod.mk.inj afterLength).1.symm (noError _)
  next five =>
  simp only [List.getD_cons_zero, Go.run_pure_bind, ne_eq, not_not] at afterLength five
  subst five
  obtain ⟨hashed, B₃, fiveH, rfl, afterHashed⟩ := Go.run_readFull_bind_of_ne afterLength (noError _)
  rw [Go.run_modify_bind] at afterHashed
  obtain ⟨keyId, B₄, eightK, rfl, afterKey⟩ := Go.run_readFull_bind_of_ne afterHashed (noError _)
  rw [Go.run_modify_bind] at afterKey
  obtain ⟨ids, B₅, twoI, rfl, afterIds⟩ := Go.run_readFull_bind_of_ne afterKey (noError _)
  obtain ⟨a, h, rfl⟩ := List.length_eq_two.mp twoI
  obtain ⟨x, four, rfl⟩ := List.exists_cons_of_length_eq_add_one fiveH
  simp only [Go.run_modify_bind, List.getD_cons_zero, List.getD_cons_succ] at afterIds
  rcases found : registry.byId a with _ | algo <;> simp only [found] at afterIds
  · exact absurd (Prod.mk.inj afterIds).1.symm (noError _)
  obtain rfl := registry.id_byId a algo found
  exact ⟨v, x, four, keyId, algo, h, B₅, version_supported supported, by simpa using fiveH, eightK,
    found, by simp, afterIds⟩

/-- What `parse` accepts is a supported version, the length byte 5 and the
layout of a representable signature, which is what it returns; a DSA signature
keeps the `RSASignature` it had before the call. -/
theorem parse_ok {B rest : Bytes} {sig₀ sig : SignatureV3}
    (parsed : Go.run (SignatureV3.parse registry B) sig₀ = (.ok rest, sig)) :
    ∃ v algo value, (v = 2 ∨ v = 3) ∧ sig.PubKeyAlgo = some algo ∧
      Representable registry algo sig ∧ value? sig algo = some value ∧
      B = v :: 5 :: layout sig algo value ++ rest ∧
      (algo = .DSA → sig.RSASignature = sig₀.RSASignature) := by
  obtain ⟨v, x, four, keyId, algo, h, r, version, length, eight, found, rfl, afterIds⟩ :=
    parse_inv registry parsed fun _ => nofun
  obtain ⟨c, t₀, t₁, r', hash, rfl, afterTag⟩ := parseHash_inv afterIds fun _ => nofun
  obtain ⟨c', same, rfl⟩ := HashById_crypto hash
  cases same
  have time : 0 ≤ ((beValue four : Nat) : Int) ∧ ((beValue four : Nat) : Int) < 2 ^ 32 := by
    have := beValue_lt four
    rw [length] at this
    omega
  rcases parseValue_ok afterTag with ⟨rsa, m, formed, rfl, rfl⟩ |
    ⟨rfl, R, S, formedR, formedS, rfl, rfl⟩
  · have notDSA : algo ≠ .DSA := by rcases rsa with rfl | rfl <;> decide
    refine ⟨v, algo, m.WriteTo, version, rfl,
      ⟨found, rsa.elim .inl (.inr ∘ .inl), time, ⟨_, hash⟩, by simp [notDSA, formed]⟩,
      by simp [value?, rsa], ?_, by simp [notDSA]⟩
    simp only [layout, beBytes_time length, beBytes_keyId eight, List.cons_append,
      List.nil_append, List.append_assoc]
  · refine ⟨v, .DSA, R.WriteTo ++ S.WriteTo, version, rfl,
      ⟨found, .inr (.inr rfl), time, ⟨_, hash⟩, by simp [formedR, formedS]⟩, by simp [value?],
      ?_, fun _ => rfl⟩
    simp only [layout, beBytes_time length, beBytes_keyId eight, List.cons_append,
      List.nil_append, List.append_assoc]

/-- `parse` panics exactly when it reads a supported header whose algorithm id
the registry resolves to an algorithm the switch does not handle, and a hash id
of `HashById`; the panic is the switch's. -/
theorem parse_panics_iff (B : Bytes) (sig₀ : SignatureV3) (p : String) :
    (Go.run (SignatureV3.parse registry B) sig₀).1 = .error (.panic p) ↔
      p = "unreachable" ∧ ∃ v hashed keyId algo c t₀ t₁ rest, (v = 2 ∨ v = 3) ∧
        hashed.length = 5 ∧ keyId.length = 8 ∧ registry.byId algo.Id = some algo ∧
        ¬(algo = .RSA ∨ algo = .RSASignOnly ∨ algo = .DSA) ∧ HashById c.Id = some (.crypto c) ∧
        B = v :: 5 :: hashed ++ keyId ++ algo.Id :: c.Id :: t₀ :: t₁ :: rest := by
  constructor
  · intro panicked
    obtain ⟨v, x, four, keyId, algo, h, r, version, length, eight, found, rfl, afterIds⟩ :=
      parse_inv registry (Prod.ext panicked rfl) fun _ => by simp
    obtain ⟨c, t₀, t₁, r', hash, rfl, afterTag⟩ := parseHash_inv afterIds fun _ => by simp
    obtain ⟨c', same, rfl⟩ := HashById_crypto hash
    cases same
    obtain ⟨rfl, unhandled, -⟩ := parseValue_panic afterTag
    exact ⟨rfl, v, x :: four, keyId, algo, c, t₀, t₁, r', version, by simp [length], eight, found,
      unhandled, hash, rfl⟩
  · rintro ⟨rfl, v, hashed, keyId, algo, c, t₀, t₁, rest, version, five, eight, found, unhandled,
      hash, rfl⟩
    obtain ⟨x, four, rfl⟩ := List.exists_cons_of_length_eq_add_one five
    simp only [not_or] at unhandled
    rw [parse_header registry version (by simpa using five) eight found, parseHash_crypto hash]
    simp [SignatureV3.parseValue, unhandled]

def elGamalSigBody : Bytes := [3, 5, 0, 0, 0, 0, 0, 0, 0, 0, 0, 0, 0, 0, 0, 16, 2, 0, 0]

theorem elGamalSig_parse_panics :
    (Go.run (SignatureV3.parse PublicKeyById elGamalSigBody) SignatureV3.new).1 =
      .error (.panic "unreachable") :=
  (parse_panics_iff PublicKeyById elGamalSigBody SignatureV3.new "unreachable").mpr
    ⟨rfl, 3, [0, 0, 0, 0, 0], [0, 0, 0, 0, 0, 0, 0, 0], .ElGamal, SHA1, 0, 0, [], .inr rfl, rfl,
      rfl, rfl, by decide, rfl, rfl⟩

/-- `parse` cannot panic, whatever its input and receiver, exactly when the
registry resolves algorithm ids only to the algorithms its switch handles. -/
theorem parse_never_panics_iff :
    (∀ B sig₀ p, (Go.run (SignatureV3.parse registry B) sig₀).1 ≠ .error (.panic p)) ↔
      ∀ id algo, registry.byId id = some algo → algo = .RSA ∨ algo = .RSASignOnly ∨ algo = .DSA := by
  constructor
  · intro safe id algo found
    by_contra unhandled
    obtain rfl := registry.id_byId id algo found
    exact safe _ SignatureV3.new _ ((parse_panics_iff registry _ _ _).mpr
      ⟨rfl, 3, List.replicate 5 0, List.replicate 8 0, algo, SHA1, 0, 0, [], .inr rfl, rfl, rfl,
        found, unhandled, rfl, rfl⟩)
  · intro handled B sig₀ p panicked
    obtain ⟨-, _, _, _, algo, _, _, _, _, -, -, -, found, unhandled, -⟩ :=
      (parse_panics_iff registry B sig₀ p).mp panicked
    exact unhandled (handled _ algo found)

/-- What `parse` consumes after the version and the length byte is what
`Serialize` writes back, when the parsed signature has an `RSASignature`. It has
none only when it is a DSA signature parsed into a signature whose
`RSASignature` was nil, as `new(SignatureV3)`'s is, and then the guard of
`Serialize` panics on it. -/
theorem parse_Serialize {B rest : Bytes} {sig₀ sig : SignatureV3}
    (parsed : Go.run (SignatureV3.parse registry B) sig₀ = (.ok rest, sig)) :
    ∃ v P, B = v :: 5 :: P ++ rest ∧
      (sig.RSASignature ≠ none → Go.run sig.Serialize [] = (.ok (), P)) ∧
      (sig.RSASignature = none → sig.PubKeyAlgo = some .DSA ∧ sig₀.RSASignature = none ∧
        (Go.run sig.Serialize []).1 =
          .error (.panic "invalid memory address or nil pointer dereference")) := by
  obtain ⟨v, algo, value, -, algorithm, representable, valued, rfl, keeps⟩ :=
    parse_ok registry parsed
  refine ⟨v, layout sig algo value, rfl, fun rsaSet => ?_, fun nil => ?_⟩
  · simpa using Serialize_run algorithm (unsigned_false registry representable rsaSet) valued []
  · have dsa : algo = .DSA := by
      by_contra notDSA
      have formed := representable.value
      rw [if_neg notDSA, nil] at formed
      simp at formed
    subst dsa
    refine ⟨algorithm, (keeps rfl).symm.trans nil, ?_⟩
    simp [SignatureV3.Serialize, SignatureV3.unsigned, Field.Bytes, nil, algorithm, write]

def dsaSigBody : Bytes :=
  [3, 5, 0, 0, 0, 0, 0, 0, 0, 0, 0, 0, 0, 0, 0, 17, 2, 0, 0, 0, 1, 1, 0, 1, 1]

theorem dsaSig_Serialize_panics :
    (Go.run (SignatureV3.parse PublicKeyById dsaSigBody) SignatureV3.new).1 = .ok [] ∧
    (Go.run (SignatureV3.parse PublicKeyById dsaSigBody) SignatureV3.new).2.PubKeyAlgo =
      some .DSA ∧
    (Go.run (Go.run (SignatureV3.parse PublicKeyById dsaSigBody) SignatureV3.new).2.Serialize []).1 =
      .error (.panic "invalid memory address or nil pointer dereference") :=
  ⟨rfl, rfl, rfl⟩

end Wire

def signingById : PublicKeyRegistry where
  byId id := [PublicKeyAlgorithm.RSA, .RSASignOnly, .DSA].find? (·.Id = id)
  id_byId id a found := by simpa using List.find?_some found

theorem signingById_never_panics :
    ∀ B sig₀ p, (Go.run (SignatureV3.parse signingById B) sig₀).1 ≠ .error (.panic p) :=
  (parse_never_panics_iff signingById).mpr fun _ _ found => by
    simpa using List.mem_of_find?_eq_some found

end OpenPGP.Signature
