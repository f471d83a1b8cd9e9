import OpenPGP.Encoding
import OpenPGP.Algorithm

/-! `packet.SignatureV3`, the version 3 signature of RFC 4880 section 5.2.2: a
fixed header, then the signature value, one MPI for RSA and two for DSA.
`parse` reads the version and the length byte 5 first; `Serialize` writes what
follows them. The algorithm byte is resolved through `algorithm.PublicKeyById`,
which is not among the sources and is a parameter here. -/

namespace OpenPGP

/-- A value of the `encoding.Field` interface; `none` is nil. -/
abbrev Field := Option MPI

/-- `f.Bytes()`, a method call on the interface, which panics when it is nil. -/
def Field.Bytes (f : Field) : Except Fault (Option Bytes) := MPI.bytes <$> deref f

/-- The bytes `f.WriteTo(w)` writes, a method call on the interface. -/
def Field.WriteTo (f : Field) : Except Fault OpenPGP.Bytes := MPI.WriteTo <$> deref f

/-- `time.Time{}`, January 1 of year 1, in Unix seconds. -/
def zeroTime : Int := -62135596800

/-- `packet.SignatureV3`. `CreationTime` is a `time.Time` in Unix seconds, its
sub-second part left out; `PubKeyAlgo` is an interface value, `none` when nil. -/
structure SignatureV3 where
  SigType : UInt8
  CreationTime : Int
  IssuerKeyId : UInt64
  PubKeyAlgo : Option PublicKeyAlgorithm
  Hash : CryptoHash
  HashTag : UInt8 × UInt8
  RSASignature : Field
  DSASigR : Field
  DSASigS : Field

/-- `new(SignatureV3)`. -/
def SignatureV3.new : SignatureV3 := ⟨0, zeroTime, 0, none, ⟨0, 0⟩, (0, 0), none, none, none⟩

/-- `new(encoding.MPI)`. -/
def MPI.new : MPI := ⟨none, 0⟩

/-- The signature value after the hash tag: one MPI for RSA and RSASignOnly,
`r` then `s` for DSA. Each field is set to a fresh MPI before it is read. -/
def SignatureV3.parseValue (algo : PublicKeyAlgorithm) (r : Bytes) : Go SignatureV3 Bytes := do
  if algo = .RSA ∨ algo = .RSASignOnly then
    modify fun sig => { sig with RSASignature := some MPI.new }
    let (m, r) ← Go.check (MPI.ReadFrom r)
    modify fun sig => { sig with RSASignature := some m }
    pure r
  else if algo = .DSA then
    modify fun sig => { sig with DSASigR := some MPI.new }
    let (R, r) ← Go.check (MPI.ReadFrom r)
    modify fun sig => { sig with DSASigR := some R, DSASigS := some MPI.new }
    let (S, r) ← Go.check (MPI.ReadFrom r)
    modify fun sig => { sig with DSASigS := some S }
    pure r
  else throw (.panic "unreachable")

/-- The hash id, the hash tag and the signature value. The rejection of the
hash id prints `buf[2]`, which still holds the third byte of the key id. -/
def SignatureV3.parseHash (algo : PublicKeyAlgorithm) (keyId : Bytes) (hashId : UInt8)
    (r : Bytes) : Go SignatureV3 Bytes :=
  let unsupported : Fault := .error (.UnsupportedError
    ("hash function " ++ toString (keyId.getD 2 0).toNat))
  match HashById hashId with
  | none => throw unsupported
  | some (.other _) => do
    modify fun sig => { sig with Hash := ⟨0, 0⟩ }
    throw unsupported
  | some (.crypto h) => do
    modify fun sig => { sig with Hash := h }
    let (tag, r) ← Go.check (readFull 2 r)
    modify fun sig => { sig with HashTag := (tag.getD 0 0, tag.getD 1 0) }
    SignatureV3.parseValue algo r

/-- `sig.parse(r)`, returning what it leaves of `r`. -/
def SignatureV3.parse (registry : PublicKeyRegistry) (r : Bytes) : Go SignatureV3 Bytes := do
  let (version, r) ← Go.check (readFull 1 r)
  let v := version.getD 0 0
  if v < 2 ∨ v > 3 then
    throw (.error (.UnsupportedError ("signature packet version " ++ toString v.toNat)))
  let (length, r) ← Go.check (readFull 1 r)
  let l := length.getD 0 0
  if l ≠ 5 then
    throw (.error (.UnsupportedError ("invalid hashed material length " ++ toString l.toNat)))
  let (hashed, r) ← Go.check (readFull 5 r)
  modify fun sig => { sig with
    SigType := hashed.getD 0 0, CreationTime := beValue (hashed.drop 1) }
  let (keyId, r) ← Go.check (readFull 8 r)
  modify fun sig => { sig with IssuerKeyId := UInt64.ofNat (beValue keyId) }
  let (ids, r) ← Go.check (readFull 2 r)
  let found := registry.byId (ids.getD 0 0)
  modify fun sig => { sig with PubKeyAlgo := found }
  match found with
  | none =>
    throw (.error (.UnsupportedError ("public key algorithm " ++ toString (ids.getD 0 0).toNat)))
  | some algo => SignatureV3.parseHash algo keyId (ids.getD 1 0) r

/-- `sig.RSASignature.Bytes() == nil && sig.DSASigR.Bytes() == nil`, evaluated
left to right. -/
def SignatureV3.unsigned (sig : SignatureV3) : Except Fault Bool := do
  let rsa ← sig.RSASignature.Bytes
  if rsa.isNone then
    let dsa ← sig.DSASigR.Bytes
    pure dsa.isNone
  else pure false

/-- The switch that ends `Serialize`: the signature value as its algorithm lays
it out. -/
def SignatureV3.writeValue (sig : SignatureV3) (algo : PublicKeyAlgorithm) : Go Bytes Unit :=
  if algo = .RSA ∨ algo = .RSASignOnly then do
    write (← Go.lift sig.RSASignature.WriteTo)
  else if algo = .DSA then do
    write (← Go.lift sig.DSASigR.WriteTo)
    write (← Go.lift sig.DSASigS.WriteTo)
  else throw (.panic "impossible")

/-- `sig.Serialize(w)`, with what is written to `w` as the state. -/
def SignatureV3.Serialize (sig : SignatureV3) : Go Bytes Unit := do
  write (sig.SigType :: beBytes 4 (sig.CreationTime % 2 ^ 32).toNat)
  write (beBytes 8 sig.IssuerKeyId.toNat)
  let algo ← Go.lift (deref sig.PubKeyAlgo)
  write [algo.Id, sig.Hash.Id, sig.HashTag.1, sig.HashTag.2]
  if ← Go.lift sig.unsigned then
    throw (.error (.InvalidArgumentError
      "Signature: need to call Sign, SignUserId or SignKey before Serialize"))
  sig.writeValue algo

end OpenPGP
