import Mathlib.Algebra.Order.BigOperators.GroupWithZero.List
import OpenPGP.Proofs.Checksum

/-! `Serialize` and `parse` on a cleartext key. `Serialize` frames the public
portion, the usage byte 0, the secret integers as MPIs and the additive
checksum; `parse` reads the public portion back through the codec, sees the
usage byte 0, and parses the secret integers again. An RSA key is written as
`D`, `Primes[1]`, `Primes[0]`, `Qinv` and read back as `D` and the primes in
that order, so it returns with its primes swapped and its CRT coefficient
recomputed; a key with more than two primes loses all but two. -/

namespace OpenPGP.RoundTrip
open SecretMaterial

variable (env : Env)

/-- The secret integers that `parse` reads back fit the 16-bit bit length of an
MPI, and an RSA key has two primes. -/
def Serializable : PrivateKeyValue → Prop
  | .rsa priv => ∃ p q, priv.Primes = [p, q] ∧
      bitLen priv.D < 65536 ∧ bitLen p < 65536 ∧ bitLen q < 65536
  | .dsa priv => bitLen priv.X < 65536
  | .elgamal priv => bitLen priv.X < 65536
  | .ecdsa priv => bitLen priv.D < 65536
  | .other => True

/-- What parsing serialized secret material gives back: the same key, except
that an RSA key has its two primes in the wire order, swapped, and still passes
`Validate`. -/
def SameSecret : PrivateKeyValue → PrivateKeyValue → Prop
  | .rsa priv, .rsa priv' => priv'.PublicKey = priv.PublicKey ∧ priv'.D = priv.D ∧
      priv'.Primes = [priv.Primes.getD 1 0, priv.Primes.getD 0 0] ∧
      priv'.Primes.Perm priv.Primes ∧ priv'.Validate = .ok ()
  | .dsa priv, .dsa priv' => priv' = priv
  | .elgamal priv, .elgamal priv' => priv' = priv
  | .ecdsa priv, .ecdsa priv' => priv' = priv
  | _, _ => False

theorem ReadFrom_SetBig {n : Nat} (small : bitLen n < 65536) (rest : Bytes) :
    MPI.ReadFrom ((MPI.SetBig n).WriteTo ++ rest) = .ok (MPI.SetBig n, rest) :=
  MPI.ReadFrom_WriteTo (MPI.SetBig_wellFormed small) rest

theorem parseSingleMPIPrivateKey_SetBig {select : PublicKeyValue → Option κ} {name : String}
    {build : κ → Nat → PrivateKeyValue} {pk : PrivateKey} {key : κ}
    (selected : select pk.PublicKey.PublicKey = some key) {x : Nat} (small : bitLen x < 65536)
    (rest : Bytes) :
    Go.run (parseSingleMPIPrivateKey select name build ((MPI.SetBig x).WriteTo ++ rest)) pk =
      (.ok (), pk.install (build key x)) := by
  simp [parseSingleMPIPrivateKey, PublicKeyValue.assert, selected, ReadFrom_SetBig small]

theorem parseRSAPrivateKey_SetBig {pk : PrivateKey} {priv : RSAPrivateKey} {p q : Nat}
    (pub : pk.PublicKey.PublicKey = .rsa priv.PublicKey) (two : priv.Primes = [p, q])
    (valid : RSAValid priv) (smallD : bitLen priv.D < 65536) (smallP : bitLen p < 65536)
    (smallQ : bitLen q < 65536) (rest : Bytes) :
    Go.run (parseRSAPrivateKey ((MPI.SetBig priv.D).WriteTo ++ ((MPI.SetBig q).WriteTo ++
        ((MPI.SetBig p).WriteTo ++ rest)))) pk =
      (.ok (), pk.install (.rsa ⟨priv.PublicKey, priv.D, [q, p], modInverse p q⟩)) := by
  have swapped : RSAValid ⟨priv.PublicKey, priv.D, [q, p], none⟩ :=
    (valid.perm (two ▸ List.Perm.swap p q [])).withQinv none
  simp [parseRSAPrivateKey, PublicKeyValue.assert, pub, ReadFrom_SetBig, smallD, smallP, smallQ,
    RSAPrivateKey.Validate_ok.mpr swapped, RSAPrivateKey.Precompute_ok rfl swapped]

theorem parseRSAPrivateKey_SetBig_invalid {pk : PrivateKey} {pub : RSAPublicKey} {d p q : Nat}
    {err : Error} (asserted : pk.PublicKey.PublicKey = .rsa pub)
    (invalid : RSAPrivateKey.Validate ⟨pub, d, [p, q], none⟩ = .error err)
    (smallD : bitLen d < 65536) (smallP : bitLen p < 65536) (smallQ : bitLen q < 65536)
    (rest : Bytes) :
    Go.run (parseRSAPrivateKey ((MPI.SetBig d).WriteTo ++ ((MPI.SetBig p).WriteTo ++
        ((MPI.SetBig q).WriteTo ++ rest)))) pk = (.error (.error err), pk) := by
  simp [parseRSAPrivateKey, PublicKeyValue.assert, asserted, ReadFrom_SetBig, smallD, smallP, smallQ,
    invalid]

theorem Validate_first_two {priv : RSAPrivateKey} (valid : RSAValid priv) {p q r : Nat}
    {more : List Nat} (primes : priv.Primes = p :: q :: r :: more) :
    RSAPrivateKey.Validate ⟨priv.PublicKey, priv.D, [q, p], none⟩ =
      .error (.New "crypto/rsa: invalid modulus") := by
  have big : ∀ x ∈ p :: q :: r :: more, 1 < x := primes ▸ valid.primes
  have hp := big p (by simp)
  have hq := big q (by simp)
  have rest : 1 < r * more.prod :=
    Nat.lt_of_lt_of_le (big r (by simp)) (Nat.le_mul_of_pos_right r
      (List.prod_pos fun x member => Nat.zero_lt_of_lt (big x (by simp [member]))))
  have smaller : q * p < priv.PublicKey.N := by
    calc q * p < q * p * (r * more.prod) :=
          lt_mul_of_one_lt_right (Nat.mul_pos (by omega) (by omega)) rest
      _ = (p :: q :: r :: more).prod := by simp only [List.prod_cons]; ring
      _ = priv.PublicKey.N := primes ▸ valid.modulus
  simp [RSAPrivateKey.Validate, valid.exponent, Nat.not_le.mpr hp, Nat.not_le.mpr hq, smaller.ne]

theorem serializeSecret_parse (pk : PrivateKey) {key : PrivateKeyValue} {bytes : Bytes}
    (fits : Matches pk.PublicKey key) (serializable : Serializable key)
    (serialized : serializeSecret (some key) = .ok bytes) (rest : Bytes) :
    ∃ key', SameSecret key key' ∧
      Go.run (parsePrivateKey (bytes ++ rest)) pk = (.ok (), pk.install key') := by
  cases key with
  | rsa priv =>
    obtain ⟨rsa, pub, valid⟩ := fits
    obtain ⟨p, q, two, smallD, smallP, smallQ⟩ := serializable
    have swap : [q, p].Perm priv.Primes := two ▸ List.Perm.swap p q []
    rcases qinv : priv.Qinv with _ | qinv
    all_goals simp only [serializeSecret, serializeRSAPrivateKey, index, two, qinv] at serialized
    · cases serialized
    cases serialized
    refine ⟨.rsa ⟨priv.PublicKey, priv.D, [q, p], modInverse p q⟩, ⟨rfl, rfl, by simp [two], swap,
      RSAPrivateKey.Validate_ok.mpr ((valid.perm swap).withQinv _)⟩, ?_⟩
    simp only [parsePrivateKey, Go.run_get_bind, if_pos rsa, List.append_assoc]
    exact parseRSAPrivateKey_SetBig pub two valid smallD smallP smallQ _
  | dsa priv =>
    obtain ⟨algo, pub⟩ := fits
    cases serialized
    refine ⟨.dsa priv, rfl, ?_⟩
    simp only [parsePrivateKey, Go.run_get_bind, algo]
    rw [if_neg (by decide), if_pos trivial]
    exact parseSingleMPIPrivateKey_SetBig (by rw [pub]) serializable rest
  | elgamal priv =>
    obtain ⟨algo, pub⟩ := fits
    cases serialized
    refine ⟨.elgamal priv, rfl, ?_⟩
    simp only [parsePrivateKey, Go.run_get_bind, algo]
    rw [if_neg (by decide), if_neg (by decide), if_pos trivial]
    exact parseSingleMPIPrivateKey_SetBig (by rw [pub]) serializable rest
  | ecdsa priv =>
    obtain ⟨algo, pub⟩ := fits
    cases serialized
    refine ⟨.ecdsa priv, rfl, ?_⟩
    simp only [parsePrivateKey, Go.run_get_bind, algo]
    rw [if_neg (by decide), if_neg (by decide), if_neg (by decide), if_pos trivial]
    exact parseSingleMPIPrivateKey_SetBig (by rw [pub]) serializable rest
  | other => exact fits.elim

theorem body_length (contents secret : Bytes) :
    (contents ++ 0 :: secret ++ Checksum.trailer secret).length =
      (contents ++ [0]).length + secret.length + 2 := by
  simp [Checksum.trailer]
  omega

/-- `Serialize` succeeds exactly when the public portion, the secret key and the
header serialize; it then appends the header, built for the length of the body,
and the body. -/
theorem Serialize_ok {pk : PrivateKey} {w₀ w : Bytes} :
    Go.run (PrivateKey.Serialize env pk) w₀ = (.ok (), w) ↔
    ∃ contents secret header, env.serializePublicKey pk.PublicKey = .ok contents ∧
      serializeSecret pk.PrivateKey = .ok secret ∧
      env.serializeHeader (if pk.PublicKey.IsSubkey then packetTypePrivateSubkey
        else packetTypePrivateKey) (contents ++ 0 :: secret ++ Checksum.trailer secret).length =
          .ok header ∧
      w = w₀ ++ header ++ (contents ++ 0 :: secret ++ Checksum.trailer secret) := by
  constructor
  · intro serialized
    simp only [PrivateKey.Serialize] at serialized
    obtain ⟨contents, pub, afterPub⟩ := Go.run_check_bind_ok serialized
    obtain ⟨secret, privateKey, afterSecret⟩ := Go.run_lift_bind_ok afterPub
    obtain ⟨header, framed, written⟩ := Go.run_check_bind_ok afterSecret
    simp only [write, Go.run_modify_bind, Go.run_modify, Prod.mk.injEq] at written
    refine ⟨contents, secret, header, pub, privateKey, body_length contents secret ▸ framed, ?_⟩
    simp [← written.2, Checksum.trailer]
  · rintro ⟨contents, secret, header, pub, privateKey, framed, rfl⟩
    rw [body_length, List.length_append, List.length_singleton] at framed
    simp [PrivateKey.Serialize, pub, privateKey, framed, write, Checksum.trailer]

theorem Serialize_succeeds (pk : PrivateKey) {contents secret : Bytes}
    (pub : env.serializePublicKey pk.PublicKey = .ok contents)
    (privateKey : serializeSecret pk.PrivateKey = .ok secret)
    (framing : ∀ ptype length, ∃ header, env.serializeHeader ptype length = .ok header)
    (w₀ : Bytes) : ∃ w, Go.run (PrivateKey.Serialize env pk) w₀ = (.ok (), w) := by
  obtain ⟨header, framed⟩ := framing (if pk.PublicKey.IsSubkey then packetTypePrivateSubkey
    else packetTypePrivateKey) (contents ++ 0 :: secret ++ Checksum.trailer secret).length
  exact ⟨_, (Serialize_ok env).mpr ⟨contents, secret, header, pub, privateKey, framed, rfl⟩⟩

/-- The codec of `env` reads back the public portion of `pk` that it writes. -/
def PublicKeyReadsBack (pk : PrivateKey) : Prop :=
  ∀ bytes rest, env.serializePublicKey pk.PublicKey = .ok bytes →
    env.parsePublicKey (PrivateKey.new pk.PublicKey.IsSubkey).PublicKey (bytes ++ rest) =
      .ok (pk.PublicKey, rest)

theorem Serialize_body {pk : PrivateKey} {w : Bytes} (codec : PublicKeyReadsBack env pk)
    (serialized : Go.run (PrivateKey.Serialize env pk) [] = (.ok (), w)) :
    ∃ header body secret, w = header ++ body ∧
      env.serializeHeader (if pk.PublicKey.IsSubkey then packetTypePrivateSubkey
        else packetTypePrivateKey) body.length = .ok header ∧
      serializeSecret pk.PrivateKey = .ok secret ∧
      ∃ cleartext : PrivateKey, cleartext.PublicKey = pk.PublicKey ∧
        Go.run (PrivateKey.parse env body) (PrivateKey.new pk.PublicKey.IsSubkey) =
          Go.run (parsePrivateKey (secret ++ Checksum.trailer secret)) cleartext := by
  obtain ⟨contents, secret, header, pub, privateKey, framed, rfl⟩ := (Serialize_ok env).mp serialized
  have body : contents ++ 0 :: secret ++ Checksum.trailer secret =
      contents ++ 0 :: (secret ++ Checksum.trailer secret) := by simp
  rw [body] at framed ⊢
  refine ⟨header, _, secret, List.nil_append _, framed, privateKey, _, ?_,
    Parse.parse_cleartext env (codec _ _ pub)⟩
  rfl

/-- A key whose secret key matches its public portion and whose secret integers
fit MPIs, with a public portion the codec reads back, serializes to a header
that frames exactly the bytes after it, and those bytes parse to a cleartext
key with the same secret material. -/
theorem Serialize_parse {pk : PrivateKey} {key : PrivateKeyValue} {w : Bytes}
    (holds : pk.PrivateKey = some key) (fits : Matches pk.PublicKey key)
    (serializable : Serializable key) (codec : PublicKeyReadsBack env pk)
    (serialized : Go.run (PrivateKey.Serialize env pk) [] = (.ok (), w)) :
    ∃ header body, w = header ++ body ∧
      env.serializeHeader (if pk.PublicKey.IsSubkey then packetTypePrivateSubkey
        else packetTypePrivateKey) body.length = .ok header ∧
      ∃ pk', Go.run (PrivateKey.parse env body) (PrivateKey.new pk.PublicKey.IsSubkey) =
          (.ok (), pk') ∧
        pk'.Encrypted = false ∧ ∃ key', pk'.PrivateKey = some key' ∧ SameSecret key key' := by
  obtain ⟨header, body, secret, rfl, framed, privateKey, cleartext, pub, parsed⟩ :=
    Serialize_body env codec serialized
  rw [holds] at privateKey
  obtain ⟨key', same, installed⟩ :=
    serializeSecret_parse cleartext (pub ▸ fits) serializable privateKey _
  exact ⟨header, body, rfl, framed, _, parsed.trans installed, rfl, key', rfl, same⟩

theorem Serialize_parse_multiprime {pk : PrivateKey} {priv : RSAPrivateKey} {p q r : Nat}
    {more : List Nat} {w : Bytes} (holds : pk.PrivateKey = some (.rsa priv))
    (fits : Matches pk.PublicKey (.rsa priv)) (primes : priv.Primes = p :: q :: r :: more)
    (smallD : bitLen priv.D < 65536) (smallP : bitLen p < 65536) (smallQ : bitLen q < 65536)
    (codec : PublicKeyReadsBack env pk)
    (serialized : Go.run (PrivateKey.Serialize env pk) [] = (.ok (), w)) :
    ∃ header body, w = header ++ body ∧
      env.serializeHeader (if pk.PublicKey.IsSubkey then packetTypePrivateSubkey
        else packetTypePrivateKey) body.length = .ok header ∧
      (Go.run (PrivateKey.parse env body) (PrivateKey.new pk.PublicKey.IsSubkey)).1 =
        .error (.error (.New "crypto/rsa: invalid modulus")) := by
  obtain ⟨rsa, pub, valid⟩ := fits
  obtain ⟨header, body, secret, rfl, framed, privateKey, cleartext, same, parsed⟩ :=
    Serialize_body env codec serialized
  rw [holds] at privateKey
  rcases qinv : priv.Qinv with _ | qinv
  all_goals simp only [serializeSecret, serializeRSAPrivateKey, index, primes, qinv] at privateKey
  · cases privateKey
  cases privateKey
  refine ⟨header, body, rfl, framed, ?_⟩
  simp only [parsed, parsePrivateKey, Go.run_get_bind, same, if_pos rsa, List.append_assoc]
  rw [parseRSAPrivateKey_SetBig_invalid (same ▸ pub) (Validate_first_two valid primes) smallD smallQ
    smallP]

def twoPrimeSecret : RSAPrivateKey := ⟨⟨15, 3⟩, 3, [3, 5], modInverse 5 3⟩

def twoPrimeKey : PrivateKey :=
  { PrivateKey.new false with
    PublicKey := ⟨PubKeyAlgoRSA, .rsa twoPrimeSecret.PublicKey, false⟩
    PrivateKey := some (.rsa twoPrimeSecret) }

theorem twoPrimeKey_round_trip :
    ∃ w, Go.run (PrivateKey.Serialize Collaborators.env twoPrimeKey) [] = (.ok (), w) ∧
      ∃ header body, w = header ++ body ∧
        Collaborators.env.serializeHeader (if twoPrimeKey.PublicKey.IsSubkey
          then packetTypePrivateSubkey else packetTypePrivateKey) body.length = .ok header ∧
        ∃ pk', Go.run (PrivateKey.parse Collaborators.env body)
            (PrivateKey.new twoPrimeKey.PublicKey.IsSubkey) = (.ok (), pk') ∧
          pk'.Encrypted = false ∧ ∃ key', pk'.PrivateKey = some key' ∧
            SameSecret (.rsa twoPrimeSecret) key' := by
  have fits : Matches twoPrimeKey.PublicKey (.rsa twoPrimeSecret) :=
    ⟨by decide, rfl, RSAPrivateKey.Validate_ok.mp rfl⟩
  have codec : PublicKeyReadsBack Collaborators.env twoPrimeKey := fun _ rest written =>
    Collaborators.readPublicKey_writePublicKey twoPrimeKey.PublicKey twoPrimeSecret.PublicKey
      (by decide) rfl (by decide) (bitLen_lt_of_lt (by decide)) (bitLen_lt_of_lt (by decide))
      written rest
  obtain ⟨w, serialized⟩ :=
    Serialize_succeeds Collaborators.env twoPrimeKey rfl rfl Collaborators.header_ok []
  exact ⟨w, serialized, Serialize_parse Collaborators.env rfl fits
    ⟨3, 5, rfl, bitLen_lt_of_lt (by decide), bitLen_lt_of_lt (by decide),
      bitLen_lt_of_lt (by decide)⟩ codec serialized⟩

def threePrimeSecret : RSAPrivateKey := ⟨⟨105, 5⟩, 5, [3, 5, 7], modInverse 5 3⟩

def threePrimeKey : PrivateKey :=
  { PrivateKey.new false with
    PublicKey := ⟨PubKeyAlgoRSA, .rsa threePrimeSecret.PublicKey, false⟩
    PrivateKey := some (.rsa threePrimeSecret) }

theorem threePrimeKey_round_trip_fails :
    Matches threePrimeKey.PublicKey (.rsa threePrimeSecret) ∧
    ∃ w, Go.run (PrivateKey.Serialize Collaborators.env threePrimeKey) [] = (.ok (), w) ∧
      ∃ header body, w = header ++ body ∧
        Collaborators.env.serializeHeader (if threePrimeKey.PublicKey.IsSubkey
          then packetTypePrivateSubkey else packetTypePrivateKey) body.length = .ok header ∧
        (Go.run (PrivateKey.parse Collaborators.env body)
          (PrivateKey.new threePrimeKey.PublicKey.IsSubkey)).1 =
            .error (.error (.New "crypto/rsa: invalid modulus")) := by
  have fits : Matches threePrimeKey.PublicKey (.rsa threePrimeSecret) :=
    ⟨by decide, rfl, RSAPrivateKey.Validate_ok.mp rfl⟩
  have codec : PublicKeyReadsBack Collaborators.env threePrimeKey := fun _ rest written =>
    Collaborators.readPublicKey_writePublicKey threePrimeKey.PublicKey threePrimeSecret.PublicKey
      (by decide) rfl (by decide) (bitLen_lt_of_lt (by decide)) (bitLen_lt_of_lt (by decide))
      written rest
  obtain ⟨w, serialized⟩ :=
    Serialize_succeeds Collaborators.env threePrimeKey rfl rfl Collaborators.header_ok []
  exact ⟨fits, w, serialized, Serialize_parse_multiprime Collaborators.env rfl fits rfl
    (bitLen_lt_of_lt (by decide)) (bitLen_lt_of_lt (by decide))
    (bitLen_lt_of_lt (by decide)) codec serialized⟩

def SingleMPI (pub : PublicKey) : Prop :=
  (pub.PubKeyAlgo = PubKeyAlgoDSA ∧ ∃ key, pub.PublicKey = .dsa key) ∨
    (pub.PubKeyAlgo = PubKeyAlgoElGamal ∧ ∃ key, pub.PublicKey = .elgamal key) ∨
    (pub.PubKeyAlgo = PubKeyAlgoECDSA ∧ ∃ key, pub.PublicKey = .ecdsa key)

theorem parsePrivateKey_single {pk : PrivateKey} (single : SingleMPI pk.PublicKey) {m : MPI}
    (formed : m.WellFormed) (canonical : MPI.SetBig m.value = m) (rest : Bytes) :
    ∃ key, Go.run (parsePrivateKey (m.WriteTo ++ rest)) pk = (.ok (), pk.install key) ∧
      serializeSecret (some key) = .ok m.WriteTo := by
  have readBack := MPI.ReadFrom_WriteTo formed rest
  rcases single with ⟨algo, key, value⟩ | ⟨algo, key, value⟩ | ⟨algo, key, value⟩
  · refine ⟨.dsa ⟨key, m.value⟩, ?_, by simp only [serializeSecret, serializeDSAPrivateKey, canonical]⟩
    simp only [parsePrivateKey, Go.run_get_bind, algo, show ¬IsRSA PubKeyAlgoDSA by decide,
      ↓reduceIte, parseDSAPrivateKey, parseSingleMPIPrivateKey, PublicKeyValue.assert, value,
      Go.run_lift_bind, readBack, Go.run_check_bind, Go.run_modify]
  · refine ⟨.elgamal ⟨key, m.value⟩, ?_, by simp only [serializeSecret, serializeElGamalPrivateKey, canonical]⟩
    simp only [parsePrivateKey, Go.run_get_bind, algo, show ¬IsRSA PubKeyAlgoElGamal by decide,
      show PubKeyAlgoElGamal ≠ PubKeyAlgoDSA by decide, ↓reduceIte, parseElGamalPrivateKey,
      parseSingleMPIPrivateKey, PublicKeyValue.assert, value, Go.run_lift_bind, readBack,
      Go.run_check_bind, Go.run_modify]
  · refine ⟨.ecdsa ⟨key, m.value⟩, ?_, by simp only [serializeSecret, serializeECDSAPrivateKey, canonical]⟩
    simp only [parsePrivateKey, Go.run_get_bind, algo, show ¬IsRSA PubKeyAlgoECDSA by decide,
      show PubKeyAlgoECDSA ≠ PubKeyAlgoDSA by decide, show PubKeyAlgoECDSA ≠ PubKeyAlgoElGamal by decide,
      ↓reduceIte, parseECDSAPrivateKey, parseSingleMPIPrivateKey, PublicKeyValue.assert, value,
      Go.run_lift_bind, readBack, Go.run_check_bind, Go.run_modify]

/-- Writing back a parsed DSA, ElGamal or ECDSA key: `Serialize` writes the
public portion and the secret MPI as `parse` read them, provided the codec
writes the public portion back and the MPI is the one `SetBig` writes for its
value. The bytes after the MPI, which `parse` never reads, are replaced by the
checksum of the secret bytes, so a key read with a wrong checksum is written
back with the right one, and a key with the right one byte for byte. -/
theorem parse_Serialize_single {isSubkey : Bool} {bytes : Bytes} {pub : PublicKey} {m : MPI}
    (read : ∀ rest, env.parsePublicKey (PrivateKey.new isSubkey).PublicKey (bytes ++ rest) =
      .ok (pub, rest))
    (written : env.serializePublicKey pub = .ok bytes) (single : SingleMPI pub)
    (formed : m.WellFormed) (canonical : MPI.SetBig m.value = m)
    (framing : ∀ ptype length, ∃ header, env.serializeHeader ptype length = .ok header)
    (trailer : Bytes) :
    ∃ pk header, Go.run (PrivateKey.parse env (bytes ++ 0 :: m.WriteTo ++ trailer))
        (PrivateKey.new isSubkey) = (.ok (), pk) ∧
      env.serializeHeader (if pub.IsSubkey then packetTypePrivateSubkey else packetTypePrivateKey)
        (bytes ++ 0 :: m.WriteTo ++ Checksum.trailer m.WriteTo).length = .ok header ∧
      Go.run (PrivateKey.Serialize env pk) [] =
        (.ok (), header ++ (bytes ++ 0 :: m.WriteTo ++ Checksum.trailer m.WriteTo)) := by
  have body : bytes ++ 0 :: m.WriteTo ++ trailer = bytes ++ 0 :: (m.WriteTo ++ trailer) := by simp
  obtain ⟨key, installed, secret⟩ := @parsePrivateKey_single { PrivateKey.new isSubkey with
    PublicKey := pub, s2k := none, Encrypted := false, encryptedData := some (m.WriteTo ++ trailer) }
    single m formed canonical trailer
  obtain ⟨header, framed⟩ := framing (if pub.IsSubkey then packetTypePrivateSubkey else packetTypePrivateKey)
    (bytes ++ 0 :: m.WriteTo ++ Checksum.trailer m.WriteTo).length
  rw [body, Parse.parse_cleartext env (read _)]
  exact ⟨_, header, installed, framed,
    (Serialize_ok env).mpr ⟨bytes, m.WriteTo, header, written, secret, framed, rfl⟩⟩

def ecdsaPublic : Bytes := [19] ++ (MPI.SetBig 1).WriteTo ++ (MPI.SetBig 1).WriteTo

theorem ecdsaKey_checksum_rewritten :
    ∃ pk header, Go.run (PrivateKey.parse Collaborators.env
        (ecdsaPublic ++ 0 :: (MPI.SetBig 1).WriteTo ++ [7, 7])) (PrivateKey.new false) = (.ok (), pk) ∧
      Collaborators.env.serializeHeader packetTypePrivateKey (ecdsaPublic ++ 0 ::
        (MPI.SetBig 1).WriteTo ++ Checksum.trailer (MPI.SetBig 1).WriteTo).length = .ok header ∧
      Go.run (PrivateKey.Serialize Collaborators.env pk) [] = (.ok (), header ++
        (ecdsaPublic ++ 0 :: (MPI.SetBig 1).WriteTo ++ Checksum.trailer (MPI.SetBig 1).WriteTo)) :=
  @parse_Serialize_single Collaborators.env false ecdsaPublic ⟨19, .ecdsa ⟨1, 1⟩, false⟩
    (MPI.SetBig 1)
    (fun rest => by
      simp [ecdsaPublic, Collaborators.env, Collaborators.readPublicKey, Reader.run_bind, readFull,
        MPI.ReadFrom_WriteTo (MPI.SetBig_wellFormed (bitLen_lt_of_lt (by decide : 1 < 2 ^ 16))),
        IsRSA, PubKeyAlgoRSA, PubKeyAlgoRSASignOnly, PubKeyAlgoRSAEncryptOnly, PubKeyAlgoECDSA, PrivateKey.new,
        -bind_pure_comp])
    rfl (.inr (.inr ⟨rfl, _, rfl⟩)) (MPI.SetBig_wellFormed (bitLen_lt_of_lt (by decide)))
    (by rw [MPI.SetBig_value]) Collaborators.header_ok [7, 7]

def rsaSecret (d p₁ p₀ qinv : Nat) : Bytes :=
  (MPI.SetBig d).WriteTo ++ (MPI.SetBig p₁).WriteTo ++ (MPI.SetBig p₀).WriteTo ++
    (MPI.SetBig qinv).WriteTo

theorem parsePrivateKey_rsa {pk : PrivateKey} {key : RSAPublicKey} {d p q u : Nat}
    (rsa : IsRSA pk.PublicKey.PubKeyAlgo) (value : pk.PublicKey.PublicKey = .rsa key)
    (valid : RSAValid ⟨key, d, [p, q], none⟩) (inverse : modInverse q p = some u)
    (smallD : bitLen d < 65536) (smallP : bitLen p < 65536) (smallQ : bitLen q < 65536)
    (rest : Bytes) :
    ∃ key', Go.run (parsePrivateKey ((MPI.SetBig d).WriteTo ++ (MPI.SetBig p).WriteTo ++
        (MPI.SetBig q).WriteTo ++ rest)) pk = (.ok (), pk.install key') ∧
      serializeSecret (some key') = .ok (rsaSecret d q p u) := by
  refine ⟨.rsa ⟨key, d, [p, q], modInverse q p⟩, ?_, by
    simp [serializeSecret, serializeRSAPrivateKey, index, inverse, rsaSecret]⟩
  simp only [parsePrivateKey, Go.run_get_bind, if_pos rsa, List.append_assoc]
  exact @parseRSAPrivateKey_SetBig pk ⟨key, d, [q, p], none⟩ q p value rfl
    (valid.perm (List.Perm.swap p q [])) smallD smallQ smallP rest

theorem parse_Serialize_rsa_once {isSubkey : Bool} {bytes : Bytes} {pub : PublicKey}
    {key : RSAPublicKey} {d p q u : Nat}
    (read : ∀ rest, env.parsePublicKey (PrivateKey.new isSubkey).PublicKey (bytes ++ rest) =
      .ok (pub, rest))
    (written : env.serializePublicKey pub = .ok bytes)
    (rsa : IsRSA pub.PubKeyAlgo) (value : pub.PublicKey = .rsa key)
    (valid : RSAValid ⟨key, d, [p, q], none⟩) (inverse : modInverse q p = some u)
    (smallD : bitLen d < 65536) (smallP : bitLen p < 65536) (smallQ : bitLen q < 65536)
    (framing : ∀ ptype length, ∃ header, env.serializeHeader ptype length = .ok header)
    (trailer : Bytes) :
    ∃ pk header, Go.run (PrivateKey.parse env (bytes ++ 0 :: (MPI.SetBig d).WriteTo ++
        (MPI.SetBig p).WriteTo ++ (MPI.SetBig q).WriteTo ++ trailer)) (PrivateKey.new isSubkey) =
          (.ok (), pk) ∧
      env.serializeHeader (if pub.IsSubkey then packetTypePrivateSubkey else packetTypePrivateKey)
        (bytes ++ 0 :: rsaSecret d q p u ++ Checksum.trailer (rsaSecret d q p u)).length = .ok header ∧
      Go.run (PrivateKey.Serialize env pk) [] =
        (.ok (), header ++ (bytes ++ 0 :: rsaSecret d q p u ++ Checksum.trailer (rsaSecret d q p u))) := by
  have body : bytes ++ 0 :: (MPI.SetBig d).WriteTo ++ (MPI.SetBig p).WriteTo ++
      (MPI.SetBig q).WriteTo ++ trailer = bytes ++ 0 :: ((MPI.SetBig d).WriteTo ++
        (MPI.SetBig p).WriteTo ++ (MPI.SetBig q).WriteTo ++ trailer) := by simp
  obtain ⟨key', installed, secret⟩ := @parsePrivateKey_rsa { PrivateKey.new isSubkey with
    PublicKey := pub, s2k := none, Encrypted := false,
    encryptedData := some ((MPI.SetBig d).WriteTo ++ (MPI.SetBig p).WriteTo ++
      (MPI.SetBig q).WriteTo ++ trailer) } key d p q u rsa value valid inverse smallD smallP smallQ trailer
  obtain ⟨header, framed⟩ := framing (if pub.IsSubkey then packetTypePrivateSubkey else packetTypePrivateKey)
    (bytes ++ 0 :: rsaSecret d q p u ++ Checksum.trailer (rsaSecret d q p u)).length
  rw [body, Parse.parse_cleartext env (read _)]
  exact ⟨_, header, installed, framed,
    (Serialize_ok env).mpr ⟨bytes, _, header, written, secret, framed, rfl⟩⟩

/-- Writing back a parsed RSA key swaps its primes: `parse` reads `d`, `p`, `q`
and never the coefficient after them, and `Serialize` writes `d`, `q`, `p` and
`q⁻¹ mod p`, then the checksum, in place of whatever followed `q`. A second
write-back swaps them again and writes `d`, `p`, `q` and `p⁻¹ mod q`: a body
in that form with its checksum comes back byte for byte after two write-backs,
and changed after one. -/
theorem parse_Serialize_rsa {isSubkey : Bool} {bytes : Bytes} {pub : PublicKey}
    {key : RSAPublicKey} {d p q u u' : Nat}
    (read : ∀ rest, env.parsePublicKey (PrivateKey.new isSubkey).PublicKey (bytes ++ rest) =
      .ok (pub, rest))
    (written : env.serializePublicKey pub = .ok bytes)
    (rsa : IsRSA pub.PubKeyAlgo) (value : pub.PublicKey = .rsa key)
    (valid : RSAPrivateKey.Validate ⟨key, d, [p, q], none⟩ = .ok ())
    (inverse : modInverse q p = some u) (inverse' : modInverse p q = some u')
    (smallD : bitLen d < 65536) (smallP : bitLen p < 65536) (smallQ : bitLen q < 65536)
    (framing : ∀ ptype length, ∃ header, env.serializeHeader ptype length = .ok header)
    (trailer : Bytes) :
    ∃ pk header, Go.run (PrivateKey.parse env (bytes ++ 0 :: (MPI.SetBig d).WriteTo ++
        (MPI.SetBig p).WriteTo ++ (MPI.SetBig q).WriteTo ++ trailer)) (PrivateKey.new isSubkey) =
          (.ok (), pk) ∧
      env.serializeHeader (if pub.IsSubkey then packetTypePrivateSubkey else packetTypePrivateKey)
        (bytes ++ 0 :: rsaSecret d q p u ++ Checksum.trailer (rsaSecret d q p u)).length = .ok header ∧
      Go.run (PrivateKey.Serialize env pk) [] =
        (.ok (), header ++ (bytes ++ 0 :: rsaSecret d q p u ++ Checksum.trailer (rsaSecret d q p u))) ∧
      ∃ pk' header', Go.run (PrivateKey.parse env (bytes ++ 0 :: rsaSecret d q p u ++
          Checksum.trailer (rsaSecret d q p u))) (PrivateKey.new isSubkey) = (.ok (), pk') ∧
        env.serializeHeader (if pub.IsSubkey then packetTypePrivateSubkey else packetTypePrivateKey)
          (bytes ++ 0 :: rsaSecret d p q u' ++ Checksum.trailer (rsaSecret d p q u')).length =
            .ok header' ∧
        Go.run (PrivateKey.Serialize env pk') [] = (.ok (), header' ++
          (bytes ++ 0 :: rsaSecret d p q u' ++ Checksum.trailer (rsaSecret d p q u'))) := by
  have valid := RSAPrivateKey.Validate_ok.mp valid
  have swapped : RSAValid ⟨key, d, [q, p], none⟩ := valid.perm (List.Perm.swap p q [])
  have once : bytes ++ 0 :: rsaSecret d q p u ++ Checksum.trailer (rsaSecret d q p u) =
      bytes ++ 0 :: (MPI.SetBig d).WriteTo ++ (MPI.SetBig q).WriteTo ++ (MPI.SetBig p).WriteTo ++
        ((MPI.SetBig u).WriteTo ++ Checksum.trailer (rsaSecret d q p u)) := by simp [rsaSecret]
  obtain ⟨pk, header, parsed, framed, serialized⟩ :=
    parse_Serialize_rsa_once env read written rsa value valid inverse smallD smallP smallQ framing trailer
  obtain ⟨pk', header', parsed', framed', serialized'⟩ := parse_Serialize_rsa_once env read written rsa
    value swapped inverse' smallD smallQ smallP framing _
  rw [← once] at parsed'
  exact ⟨pk, header, parsed, framed, serialized, pk', header', parsed', framed', serialized'⟩

def rsaPublic : Bytes := [1] ++ (MPI.SetBig 15).WriteTo ++ (MPI.SetBig 3).WriteTo

theorem rsaKey_written_back_twice :
    ∃ pk header, Go.run (PrivateKey.parse Collaborators.env (rsaPublic ++ 0 :: (MPI.SetBig 3).WriteTo ++
        (MPI.SetBig 3).WriteTo ++ (MPI.SetBig 5).WriteTo ++
          ((MPI.SetBig 2).WriteTo ++ Checksum.trailer (rsaSecret 3 3 5 2)))) (PrivateKey.new false) =
          (.ok (), pk) ∧
      Collaborators.env.serializeHeader packetTypePrivateKey
        (rsaPublic ++ 0 :: rsaSecret 3 5 3 2 ++ Checksum.trailer (rsaSecret 3 5 3 2)).length = .ok header ∧
      Go.run (PrivateKey.Serialize Collaborators.env pk) [] =
        (.ok (), header ++ (rsaPublic ++ 0 :: rsaSecret 3 5 3 2 ++ Checksum.trailer (rsaSecret 3 5 3 2))) ∧
      ∃ pk' header', Go.run (PrivateKey.parse Collaborators.env (rsaPublic ++ 0 :: rsaSecret 3 5 3 2 ++
          Checksum.trailer (rsaSecret 3 5 3 2))) (PrivateKey.new false) = (.ok (), pk') ∧
        Collaborators.env.serializeHeader packetTypePrivateKey
          (rsaPublic ++ 0 :: rsaSecret 3 3 5 2 ++ Checksum.trailer (rsaSecret 3 3 5 2)).length =
            .ok header' ∧
        Go.run (PrivateKey.Serialize Collaborators.env pk') [] = (.ok (), header' ++
          (rsaPublic ++ 0 :: rsaSecret 3 3 5 2 ++ Checksum.trailer (rsaSecret 3 3 5 2))) :=
  @parse_Serialize_rsa Collaborators.env false rsaPublic ⟨PubKeyAlgoRSA, .rsa ⟨15, 3⟩, false⟩ ⟨15, 3⟩
    3 3 5 2 2
    (Collaborators.readPublicKey_writePublicKey ⟨PubKeyAlgoRSA, .rsa ⟨15, 3⟩, false⟩ ⟨15, 3⟩
      (by decide) rfl (by decide) (bitLen_lt_of_lt (by decide)) (bitLen_lt_of_lt (by decide)) rfl)
    rfl (by decide) rfl rfl
    (by simp [modInverse, Nat.gcdA, Nat.xgcd, Nat.xgcdAux_rec, Nat.xgcd_zero_left])
    (by simp [modInverse, Nat.gcdA, Nat.xgcd, Nat.xgcdAux_rec, Nat.xgcd_zero_left])
    (bitLen_lt_of_lt (by decide)) (bitLen_lt_of_lt (by decide)) (bitLen_lt_of_lt (by decide))
    Collaborators.header_ok _

end OpenPGP.RoundTrip
