import OpenPGP.Runtime
import OpenPGP.Algorithm
import OpenPGP.Encoding
import OpenPGP.SignatureV3
import OpenPGP.Keys
import OpenPGP.PrivateKey
import OpenPGP.Collaborators
import OpenPGP.Proofs.SecretMaterial
import OpenPGP.Proofs.Parse
import OpenPGP.Proofs.Lifecycle
import OpenPGP.Proofs.Checksum
import OpenPGP.Proofs.ErrorOracle
import OpenPGP.Proofs.RoundTrip
import OpenPGP.Proofs.Signature
import OpenPGP.Proofs.Emission
import OpenPGP.Proofs.Streaming
import OpenPGP.Proofs.Safety
import OpenPGP.Proofs.Decryption
import OpenPGP.Proofs.ParseErrors
import OpenPGP.Proofs.Encodings
