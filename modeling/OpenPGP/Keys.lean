import OpenPGP.Runtime

/-! The key types of the standard library that the packets carry, the
`Validate` and `Precompute` methods of `crypto/rsa` (as in the Go releases that
check for primes below 2), and the public-key portion of a key packet as the
private-key code reads it. -/

namespace OpenPGP

structure RSAPublicKey where
  N : Nat
  E : Int
  deriving DecidableEq, Repr

/-- `rsa.PrivateKey`. Of its precomputed values only `Qinv` is kept: it is the
one `Serialize` writes. -/
structure RSAPrivateKey where
  PublicKey : RSAPublicKey
  D : Nat
  Primes : List Nat
  Qinv : Option Nat
  deriving DecidableEq, Repr

structure DSAPublicKey where
  P : Nat
  Q : Nat
  G : Nat
  Y : Nat
  deriving DecidableEq, Repr

structure DSAPrivateKey where
  PublicKey : DSAPublicKey
  X : Nat
  deriving DecidableEq, Repr

structure ElGamalPublicKey where
  G : Nat
  P : Nat
  Y : Nat
  deriving DecidableEq, Repr

structure ElGamalPrivateKey where
  PublicKey : ElGamalPublicKey
  X : Nat
  deriving DecidableEq, Repr

/-- `ecdsa.PublicKey`, its curve left out: nothing modelled reads it. -/
structure ECDSAPublicKey where
  X : Nat
  Y : Nat
  deriving DecidableEq, Repr

structure ECDSAPrivateKey where
  PublicKey : ECDSAPublicKey
  D : Nat
  deriving DecidableEq, Repr

/-- `checkPub` of `crypto/rsa`; the modulus is never nil here. -/
def checkPub (pub : RSAPublicKey) : Except Error Unit :=
  if pub.E < 2 then .error (.New "crypto/rsa: public exponent too small")
  else if pub.E > 2 ^ 31 - 1 then .error (.New "crypto/rsa: public exponent too large")
  else .ok ()

/-- `priv.Validate()`: the public exponent, primes above 1 whose product is the
modulus, and `d * e ≡ 1` modulo each `p - 1`. -/
def RSAPrivateKey.Validate (priv : RSAPrivateKey) : Except Error Unit :=
  match checkPub priv.PublicKey with
  | .error err => .error err
  | .ok () =>
    if priv.Primes.any (· ≤ 1) then .error (.New "crypto/rsa: invalid prime value")
    else if priv.Primes.prod ≠ priv.PublicKey.N then .error (.New "crypto/rsa: invalid modulus")
    else if priv.Primes.any (fun p => priv.PublicKey.E.toNat * priv.D % (p - 1) ≠ 1) then
      .error (.New "crypto/rsa: invalid exponents")
    else .ok ()

/-- `new(big.Int).ModInverse(g, n)`: nil when `g` has no inverse modulo `n`. -/
def modInverse (g n : Nat) : Option Nat :=
  if Nat.gcd g n = 1 then some ((Nat.gcdA g n) % n).toNat else none

/-- `priv.Precompute()` on a key not yet precomputed. `D mod (p - 1)` divides by
zero for a prime equal to 1. -/
def RSAPrivateKey.Precompute (priv : RSAPrivateKey) : Except Fault RSAPrivateKey :=
  match priv.Primes with
  | p :: q :: _ =>
    if p = 1 ∨ q = 1 then .error (.panic "division by zero")
    else .ok { priv with Qinv := modInverse q p }
  | _ => .error (.panic "index out of range")

/-- What a successful `Validate` establishes. -/
structure RSAValid (priv : RSAPrivateKey) : Prop where
  exponent : checkPub priv.PublicKey = .ok ()
  primes : ∀ p ∈ priv.Primes, 1 < p
  modulus : priv.Primes.prod = priv.PublicKey.N
  exponents : ∀ p ∈ priv.Primes, priv.PublicKey.E.toNat * priv.D % (p - 1) = 1

theorem RSAPrivateKey.Validate_ok {priv : RSAPrivateKey} :
    priv.Validate = .ok () ↔ RSAValid priv := by
  unfold RSAPrivateKey.Validate
  split
  case h_1 rejected => exact ⟨nofun, fun valid => by simp [valid.exponent] at rejected⟩
  case h_2 exponent =>
    constructor
    · intro ok
      split_ifs at ok with small modulus exps
      refine ⟨exponent, ?_, not_not.mp modulus, ?_⟩
      · simpa using small
      · simpa using exps
    · rintro ⟨_, below, modulus, inverse⟩
      have small : ¬ priv.Primes.any (· ≤ 1) = true := by
        simp only [List.any_eq_true, decide_eq_true_eq, not_exists, not_and, Nat.not_le]
        exact below
      simpa [small, modulus] using inverse

theorem RSAValid.withQinv {key : RSAPrivateKey} (valid : RSAValid key) (qinv : Option Nat) :
    RSAValid { key with Qinv := qinv } :=
  ⟨valid.exponent, valid.primes, valid.modulus, valid.exponents⟩

theorem RSAValid.perm {priv : RSAPrivateKey} (valid : RSAValid priv) {primes : List Nat}
    (perm : primes.Perm priv.Primes) : RSAValid { priv with Primes := primes } :=
  ⟨valid.exponent, fun p member => valid.primes p (perm.subset member),
    (perm.prod_eq).trans valid.modulus, fun p member => valid.exponents p (perm.subset member)⟩

theorem RSAPrivateKey.Precompute_ok {priv : RSAPrivateKey} {p q : Nat} (two : priv.Primes = [p, q])
    (valid : RSAValid priv) : priv.Precompute = .ok { priv with Qinv := modInverse q p } := by
  have hp := valid.primes p (by simp [two])
  have hq := valid.primes q (by simp [two])
  simp only [RSAPrivateKey.Precompute, two]
  rw [if_neg (by omega)]

/-- The public-key portion's key value, the `interface{}` field
`PublicKey.PublicKey`. `other` stands for nil or any type the private-key code
does not switch on. -/
inductive PublicKeyValue where
  | rsa (key : RSAPublicKey)
  | dsa (key : DSAPublicKey)
  | elgamal (key : ElGamalPublicKey)
  | ecdsa (key : ECDSAPublicKey)
  | other
  deriving DecidableEq, Repr

set_option linter.dupNamespace false in
/-- The embedded `packet.PublicKey` with the fields the private-key code reads;
the rest belongs to the public-key codec, which is not among the sources. -/
structure PublicKey where
  PubKeyAlgo : UInt8
  PublicKey : PublicKeyValue
  IsSubkey : Bool
  deriving DecidableEq, Repr

/-- The value of the `interface{}` field `PrivateKey.PrivateKey`. -/
inductive PrivateKeyValue where
  | rsa (key : RSAPrivateKey)
  | dsa (key : DSAPrivateKey)
  | elgamal (key : ElGamalPrivateKey)
  | ecdsa (key : ECDSAPrivateKey)
  | other
  deriving DecidableEq, Repr

/-! The public-key algorithm constants of `packet`, not among the sources, with
their RFC 4880 values. -/

def PubKeyAlgoRSA : UInt8 := 1
def PubKeyAlgoRSAEncryptOnly : UInt8 := 2
def PubKeyAlgoRSASignOnly : UInt8 := 3
def PubKeyAlgoElGamal : UInt8 := 16
def PubKeyAlgoDSA : UInt8 := 17
def PubKeyAlgoECDH : UInt8 := 18
def PubKeyAlgoECDSA : UInt8 := 19

end OpenPGP
