import OpenPGP.PrivateKey

/-! One choice of the collaborators that the private-key code takes from outside
the sources, so that the hypotheses of the theorems can be met by actual runs:
the public key as its algorithm id and two public integers as MPIs, a
passphrase-padding S2K, one 16-byte block cipher, and the new-format packet
header of RFC 4880. -/

namespace OpenPGP.Collaborators

/-- An RSA or elliptic-curve public-key portion: the algorithm id, then two MPIs
(`N` and `E`, or the point). -/
def readPublicKey (pub : PublicKey) : Reader PublicKey := do
  let buf ← readFull 1
  let algo := buf.getD 0 0
  let x ← MPI.ReadFrom
  let y ← MPI.ReadFrom
  if IsRSA algo then pure { pub with PubKeyAlgo := algo, PublicKey := .rsa ⟨x.value, y.value⟩ }
  else if algo = PubKeyAlgoECDSA ∨ algo = PubKeyAlgoECDH then
    pure { pub with PubKeyAlgo := algo, PublicKey := .ecdsa ⟨x.value, y.value⟩ }
  else throw (.UnsupportedError ("public key type: " ++ toString algo.toNat))

def writePublicKey (pub : PublicKey) : Except Error Bytes :=
  match pub.PublicKey with
  | .rsa key => .ok ([pub.PubKeyAlgo] ++ (MPI.SetBig key.N).WriteTo ++ (MPI.SetBig key.E.toNat).WriteTo)
  | .ecdsa key => .ok ([pub.PubKeyAlgo] ++ (MPI.SetBig key.X).WriteTo ++ (MPI.SetBig key.Y).WriteTo)
  | _ => .error (.InvalidArgumentError "public key type")

/-- A two-byte S2K specification whose key is the passphrase, zero-padded. -/
def readS2K : Reader S2K := do
  let _ ← readFull 2
  pure fun passphrase size => (passphrase ++ List.replicate size 0).take size

/-- A 16-byte block cipher under id 7 whose block function xors key and block. -/
def cipher : Cipher where
  Id := 7
  KeySize := 16
  BlockSize := 16
  Available := true
  encrypt key block := (List.range 16).map fun i => key.getD i 0 ^^^ block.getD i 0
  encrypt_length _ _ := by simp

/-- The new-format packet header: the tag, then a one-, two- or five-byte
length. -/
def header (ptype : UInt8) (length : Nat) : Except Error Bytes :=
  let tag := 0x80 ||| 0x40 ||| ptype
  if length < 192 then .ok [tag, UInt8.ofNat length]
  else if length < 8384 then
    .ok [tag, UInt8.ofNat (192 + (length - 192) / 256), UInt8.ofNat (length - 192)]
  else .ok ([tag, 255] ++ beBytes 4 length)

theorem readPublicKey_consumes (pub : PublicKey) : (readPublicKey pub).Consumes := by
  refine (readFull_consumes 1).bind fun buf => MPI.ReadFrom_consumes.bind fun x =>
    MPI.ReadFrom_consumes.bind fun y => ?_
  split
  · exact .pure _
  split
  · exact .pure _
  · exact .throw _

/-- The codec reads back an RSA public portion that it writes, when the modulus
and the exponent fit MPIs. -/
theorem readPublicKey_writePublicKey (pub : PublicKey) (key : RSAPublicKey)
    (rsa : IsRSA pub.PubKeyAlgo) (value : pub.PublicKey = .rsa key) (positive : 0 ≤ key.E)
    (smallN : bitLen key.N < 65536) (smallE : bitLen key.E.toNat < 65536) {bytes : Bytes}
    (written : writePublicKey pub = .ok bytes) (rest : Bytes) :
    readPublicKey ⟨0, .other, pub.IsSubkey⟩ (bytes ++ rest) = .ok (pub, rest) := by
  rcases pub with ⟨algo, _, isSubkey⟩
  subst value
  cases written
  simp [readPublicKey, Reader.run_bind, readFull, MPI.ReadFrom_WriteTo, MPI.SetBig_wellFormed,
    smallN, smallE, rsa, positive, -bind_pure_comp]

theorem header_ok (ptype : UInt8) (length : Nat) : ∃ bytes, header ptype length = .ok bytes := by
  unfold header
  split_ifs <;> exact ⟨_, rfl⟩

def env : Env where
  parsePublicKey := readPublicKey
  serializePublicKey := writePublicKey
  parseS2K := readS2K
  CipherById id := if id = 7 then some cipher else none
  sha1 _ := List.replicate sha1Size 0
  serializeHeader := header
  parsePublicKey_consumes := readPublicKey_consumes
  parseS2K_consumes := (readFull_consumes 2).bind fun _ => .pure _

end OpenPGP.Collaborators
