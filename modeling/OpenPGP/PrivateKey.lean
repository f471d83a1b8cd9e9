import OpenPGP.Algorithm
import OpenPGP.Encoding
import OpenPGP.Keys

/-! `packet.PrivateKey`: parsing a private-key packet body, decrypting its
secret material with a passphrase, and serializing an unencrypted key. The
collaborators that are not among the sources are the fields of `Env`. -/

namespace OpenPGP

/-- The function `s2k.Parse` returns: `s2k(out, in)` fills `out` from the
passphrase `in`; here it maps the passphrase and `len(out)` to the key. -/
abbrev S2K := Bytes → Nat → Bytes

/-- The collaborators of the private-key code that are not among the sources. -/
structure Env where
  /-- `(&pk.PublicKey).parse(r)`, from the receiver's public portion. -/
  parsePublicKey : PublicKey → Reader PublicKey
  /-- `pk.PublicKey.serializeWithoutHeaders(buf)`. -/
  serializePublicKey : PublicKey → Except Error Bytes
  /-- `s2k.Parse(r)`. -/
  parseS2K : Reader S2K
  /-- `algorithm.CipherById`. -/
  CipherById : UInt8 → Option Cipher
  /-- `sha1.New()` written with the data, then `Sum(nil)`. -/
  sha1 : Bytes → Bytes
  /-- The header `serializeHeader(w, ptype, length)` writes. -/
  serializeHeader : UInt8 → Nat → Except Error Bytes
  parsePublicKey_consumes : ∀ pub, (parsePublicKey pub).Consumes
  parseS2K_consumes : parseS2K.Consumes

set_option linter.dupNamespace false in
/-- `packet.PrivateKey`. -/
structure PrivateKey where
  PublicKey : PublicKey
  Encrypted : Bool
  encryptedData : Option Bytes
  cipher : Option Cipher
  s2k : Option S2K
  PrivateKey : Option PrivateKeyValue
  sha1Checksum : Bool
  iv : Bytes

/-- `new(PrivateKey)`, with `IsSubkey` as `packet.Read` sets it from the tag. -/
def PrivateKey.new (isSubkey : Bool) : OpenPGP.PrivateKey :=
  ⟨⟨0, .other, isSubkey⟩, false, none, none, none, none, false, []⟩

/-- The receiver after a successful parse of its secret material: the key
installed, `Encrypted` cleared and the blob dropped. -/
def PrivateKey.install (pk : OpenPGP.PrivateKey) (key : PrivateKeyValue) : OpenPGP.PrivateKey :=
  { pk with PrivateKey := some key, Encrypted := false, encryptedData := none }

/-- `sha1.Size`. -/
def sha1Size : Nat := 20

/-- The packet tags `Serialize` frames with, from RFC 4880. -/
def packetTypePrivateKey : UInt8 := 5
def packetTypePrivateSubkey : UInt8 := 7

/-! Algorithm-specific secret material -/

/-- A type assertion `pk.PublicKey.PublicKey.(*T)`, where `select` picks out the
values of type `T`. -/
def PublicKeyValue.assert (select : PublicKeyValue → Option κ) (name : String)
    (value : PublicKeyValue) : Except Fault κ :=
  match select value with
  | some key => .ok key
  | none => .error (.panic ("interface conversion: interface \x7b\x7d is not " ++ name))

/-- `pk.parseRSAPrivateKey(data)`. -/
def parseRSAPrivateKey (data : Bytes) : Go PrivateKey Unit := do
  let pk ← get
  let rsaPub ← Go.lift (pk.PublicKey.PublicKey.assert
    (fun | .rsa key => some key | _ => none) "*rsa.PublicKey")
  let (d, buf) ← Go.check (MPI.ReadFrom data)
  let (p, buf) ← Go.check (MPI.ReadFrom buf)
  let (q, _) ← Go.check (MPI.ReadFrom buf)
  let rsaPriv : RSAPrivateKey := ⟨rsaPub, d.value, [p.value, q.value], none⟩
  Go.check rsaPriv.Validate
  let rsaPriv ← Go.lift rsaPriv.Precompute
  modify (·.install (.rsa rsaPriv))

/-- The body shared by `parseDSAPrivateKey`, `parseElGamalPrivateKey` and
`parseECDSAPrivateKey`: assert the public key's type, read one MPI, and install
the private key built from the two. -/
def parseSingleMPIPrivateKey (select : PublicKeyValue → Option κ) (name : String)
    (build : κ → Nat → PrivateKeyValue) (data : Bytes) : Go PrivateKey Unit := do
  let pk ← get
  let pub ← Go.lift (pk.PublicKey.PublicKey.assert select name)
  let (x, _) ← Go.check (MPI.ReadFrom data)
  modify (·.install (build pub x.value))

/-- `pk.parseDSAPrivateKey(data)`. -/
def parseDSAPrivateKey : Bytes → Go PrivateKey Unit :=
  parseSingleMPIPrivateKey (fun | .dsa key => some key | _ => none) "*dsa.PublicKey"
    fun pub x => .dsa ⟨pub, x⟩

/-- `pk.parseElGamalPrivateKey(data)`. -/
def parseElGamalPrivateKey : Bytes → Go PrivateKey Unit :=
  parseSingleMPIPrivateKey (fun | .elgamal key => some key | _ => none) "*elgamal.PublicKey"
    fun pub x => .elgamal ⟨pub, x⟩

/-- `pk.parseECDSAPrivateKey(data)`. -/
def parseECDSAPrivateKey : Bytes → Go PrivateKey Unit :=
  parseSingleMPIPrivateKey (fun | .ecdsa key => some key | _ => none) "*ecdsa.PublicKey"
    fun pub d => .ecdsa ⟨pub, d⟩

/-- Whether the algorithm id names an RSA key. -/
def IsRSA (algo : UInt8) : Prop :=
  algo = PubKeyAlgoRSA ∨ algo = PubKeyAlgoRSASignOnly ∨ algo = PubKeyAlgoRSAEncryptOnly

instance (algo : UInt8) : Decidable (IsRSA algo) := inferInstanceAs (Decidable (_ ∨ _))

/-- `pk.parsePrivateKey(data)`: dispatch on the public key's algorithm. -/
def parsePrivateKey (data : Bytes) : Go PrivateKey Unit := do
  let pk ← get
  let algo := pk.PublicKey.PubKeyAlgo
  if IsRSA algo then parseRSAPrivateKey data
  else if algo = PubKeyAlgoDSA then parseDSAPrivateKey data
  else if algo = PubKeyAlgoElGamal then parseElGamalPrivateKey data
  else if algo = PubKeyAlgoECDSA then parseECDSAPrivateKey data
  else throw (.panic "impossible")

/-! Parsing -/

section Env

variable (env : Env)

/-- The cipher of an encrypted key: `algorithm.CipherById[buf[0]]`, then the
S2K specification and the checksum mode the usage byte selects. -/
def parseEncryptionParameters (s2kType : UInt8) (r : Bytes) : Go PrivateKey Bytes := do
  let (buf, r) ← Go.check (readFull 1 r)
  let id := buf.getD 0 0
  let found := env.CipherById id
  modify fun pk => { pk with cipher := found }
  match found with
  | none => throw (.error (.UnsupportedError ("unknown cipher: " ++ toString id.toNat)))
  | some _ =>
    modify fun pk => { pk with Encrypted := true }
    let (f, r) ← Go.check (env.parseS2K r)
    modify fun pk => { pk with s2k := some f }
    if s2kType = 254 then modify fun pk => { pk with sha1Checksum := true }
    pure r

/-- The IV of an encrypted key: one block of the cipher. -/
def parseIV (r : Bytes) : Go PrivateKey Bytes := do
  let pk ← get
  let c ← Go.lift (deref pk.cipher)
  if c.BlockSize = 0 then
    throw (.error (.UnsupportedError
      ("unsupported cipher in private key: " ++ toString c.Id.toNat)))
  let (iv, r) ← Go.check (readFull c.BlockSize r)
  modify fun pk => { pk with iv := iv }
  pure r

/-- `pk.parse(r)` on the packet body `r`. -/
def PrivateKey.parse (r : Bytes) : Go OpenPGP.PrivateKey Unit := do
  let pk ← get
  let (pub, r) ← Go.check (env.parsePublicKey pk.PublicKey r)
  modify fun pk => { pk with PublicKey := pub }
  let (buf, r) ← Go.check (readFull 1 r)
  let s2kType := buf.getD 0 0
  let r ← if s2kType = 0 then do
      modify fun pk => { pk with s2k := none, Encrypted := false }
      pure r
    else if s2kType = 254 ∨ s2kType = 255 then parseEncryptionParameters env s2kType r
    else throw (.error (.UnsupportedError "deprecated s2k function in private key"))
  let pk ← get
  let r ← if pk.Encrypted then parseIV r else pure r
  modify fun pk => { pk with encryptedData := some r }
  if pk.Encrypted then pure () else parsePrivateKey r

/-! Decryption -/

/-- The additive checksum loop of `Decrypt`,
`for i := 0; i < len(data)-2; i++ { sum += uint16(data[i]) }`, with `count`
turns left from index `i`. -/
def checksumLoop (data : Bytes) (i : Nat) (sum : UInt16) : (count : Nat) → UInt16
  | 0 => sum
  | count + 1 => checksumLoop data (i + 1) (sum + (data.getD i 0).toUInt16) count

/-- The integrity check of `Decrypt`: the SHA-1 trailer when `sha1Checksum`,
the additive 16-bit one otherwise. It returns the data without the trailer. -/
def checkTrailer (sha1Checksum : Bool) (data : Bytes) : Except Fault Bytes :=
  if sha1Checksum then
    if data.length < sha1Size then .error (.error (.StructuralError "truncated private key data"))
    else if env.sha1 (data.take (data.length - sha1Size)) ≠ data.drop (data.length - sha1Size) then
      .error (.error (.StructuralError "private key checksum failure"))
    else .ok (data.take (data.length - sha1Size))
  else
    if data.length < 2 then .error (.error (.StructuralError "truncated private key data"))
    else
      let sum := checksumLoop data 0 0 (data.length - 2)
      if data.getD (data.length - 2) 0 ≠ (sum >>> 8).toUInt8 ∨
          data.getD (data.length - 1) 0 ≠ sum.toUInt8 then
        .error (.error (.StructuralError "private key checksum failure"))
      else .ok (data.take (data.length - 2))

/-- The plaintext `Decrypt` computes for `passphrase`: the S2K key, the block
cipher it keys, and CFB decryption of the stored blob under the stored IV. -/
def decryptData (pk : PrivateKey) (passphrase : Bytes) : Except Fault Bytes := do
  let c ← deref pk.cipher
  let s2k ← deref pk.s2k
  let key := s2k passphrase c.KeySize
  let block ← c.New key
  let cfb ← NewCFBDecrypter block pk.iv
  cfb.XORKeyStream (pk.encryptedData.getD [])

/-- `pk.Decrypt(passphrase)`. -/
def PrivateKey.Decrypt (passphrase : Bytes) : Go OpenPGP.PrivateKey Unit := do
  let pk ← get
  if !pk.Encrypted then pure ()
  else
    let data ← Go.lift (decryptData pk passphrase)
    let data ← Go.lift (checkTrailer env pk.sha1Checksum data)
    parsePrivateKey data

/-! Serialization -/

/-- `mod64kHash(d)`. -/
def mod64kHash (d : Bytes) : UInt16 := d.foldl (fun h b => h + b.toUInt16) 0

/-- `priv.Primes[i]`, which panics past the end. -/
def index (primes : List Nat) (i : Nat) : Except Fault Nat :=
  match primes.get? i with
  | some p => .ok p
  | none => .error (.panic "index out of range")

/-- The bytes `serializeRSAPrivateKey` writes: `D`, `Primes[1]`, `Primes[0]`,
`Qinv`, each as an MPI. -/
def serializeRSAPrivateKey (priv : RSAPrivateKey) : Except Fault Bytes := do
  let p₁ ← index priv.Primes 1
  let p₀ ← index priv.Primes 0
  let qinv ← deref priv.Qinv
  pure ((MPI.SetBig priv.D).WriteTo ++ (MPI.SetBig p₁).WriteTo ++ (MPI.SetBig p₀).WriteTo ++
    (MPI.SetBig qinv).WriteTo)

def serializeDSAPrivateKey (priv : DSAPrivateKey) : Bytes := (MPI.SetBig priv.X).WriteTo

def serializeElGamalPrivateKey (priv : ElGamalPrivateKey) : Bytes := (MPI.SetBig priv.X).WriteTo

def serializeECDSAPrivateKey (priv : ECDSAPrivateKey) : Bytes := (MPI.SetBig priv.D).WriteTo

/-- The type switch of `Serialize` on `pk.PrivateKey`. -/
def serializeSecret : Option PrivateKeyValue → Except Fault Bytes
  | some (.rsa priv) => serializeRSAPrivateKey priv
  | some (.dsa priv) => .ok (serializeDSAPrivateKey priv)
  | some (.elgamal priv) => .ok (serializeElGamalPrivateKey priv)
  | some (.ecdsa priv) => .ok (serializeECDSAPrivateKey priv)
  | _ => .error (.error (.InvalidArgumentError "unknown private key type"))

/-- `pk.Serialize(w)`, with what is written to `w` as the state. -/
def PrivateKey.Serialize (pk : OpenPGP.PrivateKey) : Go Bytes Unit := do
  let contents ← Go.check (env.serializePublicKey pk.PublicKey)
  let contents := contents ++ [0]
  let privateKeyBytes ← Go.lift (serializeSecret pk.PrivateKey)
  let ptype := if pk.PublicKey.IsSubkey then packetTypePrivateSubkey else packetTypePrivateKey
  let header ← Go.check (env.serializeHeader ptype
    (contents.length + privateKeyBytes.length + 2))
  write header
  write contents
  write privateKeyBytes
  let checksum := mod64kHash privateKeyBytes
  write [(checksum >>> 8).toUInt8, checksum.toUInt8]

end Env

end OpenPGP
