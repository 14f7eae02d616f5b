import BearerAuth.Asn1.Block
import BearerAuth.Asn1.Pem
import BearerAuth.AuthError
import BearerAuth.Key.Basic
import BearerAuth.Token.Fault

/-!
# Key files

Keys come as armoured files.  An RSA file holds the key itself or wraps it with a name of the key's
kind; whether it is the private or the public half is not looked at.  An elliptic curve file always
wraps the key.
-/

namespace BearerAuth

open Asn1 (Block Pem)
open Token (Family Fault)

/-- A key file whose kind is known. -/
structure KeyFile where
  /-- The family of the key; a bare file is always RSA. -/
  family : Family
  /-- Whether the key stands in a wrapper that names its kind. -/
  wrapped : Bool
  /-- Whether the file says that it holds a private key. -/
  isPrivate : Bool
  /-- All that the file holds. -/
  contents : List UInt8
  /-- The same as blocks. -/
  blocks : List Block

namespace KeyFile

/-- The family that an object's identifier names. -/
def familyOf? : List Nat → Option Family
  | [1, 2, 840, 10045, 2, 1] => some .ec
  | [1, 2, 840, 113549, 1, 1, 1] => some .rsa
  | [1, 3, 101, 112] => some .ed
  | _ => none

/-- The first family that is named in blocks. -/
def namedFamily? (blocks : List Block) : Option Family :=
  Block.findIn (fun
    | .objectId parts => familyOf? parts
    | _ => none) blocks

/-- The key file that some bytes are. -/
def ofBytes (file : List UInt8) : Except Fault KeyFile :=
  match Pem.ofBytes? file with
  | none => .error .keyFormat
  | some pem =>
    match Block.ofBytes? pem.contents with
    | none => .error .keyFormat
    | some blocks =>
      if pem.label = "RSA PRIVATE KEY" ∨ pem.label = "RSA PUBLIC KEY" then
        .ok ⟨.rsa, false, pem.label = "RSA PRIVATE KEY", pem.contents, blocks⟩
      else if pem.label ∈ ["PRIVATE KEY", "PUBLIC KEY", "CERTIFICATE"] then
        match namedFamily? blocks with
        | some family => .ok ⟨family, true, pem.label = "PRIVATE KEY", pem.contents, blocks⟩
        | none => .error .keyFormat
      else .error .keyFormat

/-- The bytes of an RSA key. -/
def rsaKey? (f : KeyFile) : Except Fault (List UInt8) :=
  if !f.wrapped then .ok f.contents
  else if f.family = .rsa then
    match Block.firstString? f.blocks with
    | some bytes => .ok bytes
    | none => .error .ecKey
  else .error .keyFormat

/-- The bytes of an elliptic curve private key. -/
def ecPrivateKey? (f : KeyFile) : Except Fault (List UInt8) :=
  if f.wrapped ∧ f.family = .ec ∧ f.isPrivate then .ok f.contents else .error .keyFormat

/-- The bytes of an elliptic curve public key. -/
def ecPublicKey? (f : KeyFile) : Except Fault (List UInt8) :=
  if f.wrapped ∧ f.family = .ec ∧ !f.isPrivate then
    match Block.firstString? f.blocks with
    | some bytes => .ok bytes
    | none => .error .ecKey
  else .error .keyFormat

end KeyFile

/-! ## Keys from files -/

namespace KeyFile

/-- The bytes of the RSA key in a file. -/
def rsaKeyOfBytes (file : List UInt8) : Except Fault (List UInt8) := do (← ofBytes file).rsaKey?

/-- The bytes of the elliptic curve private key in a file. -/
def ecPrivateKeyOfBytes (file : List UInt8) : Except Fault (List UInt8) := do
  (← ofBytes file).ecPrivateKey?

/-- The bytes of the elliptic curve public key in a file. -/
def ecPublicKeyOfBytes (file : List UInt8) : Except Fault (List UInt8) := do
  (← ofBytes file).ecPublicKey?

end KeyFile

/-- The RSA verifying key in a file. -/
def VerifyingKey.ofRsaFile (file : List UInt8) : Except Fault VerifyingKey := do
  return .rsaEncoded (← KeyFile.rsaKeyOfBytes file)

/-- The elliptic curve verifying key in a file. -/
def VerifyingKey.ofEcFile (file : List UInt8) : Except Fault VerifyingKey := do
  return .ec (← KeyFile.ecPublicKeyOfBytes file)

/-- Reports a fault of a key as a fault of the configuration. -/
def configurationFault {α : Type} (what : String) : Except Fault α → Except AuthError α
  | .ok a => .ok a
  | .error fault => .error (.invalidConfiguration ("invalid " ++ what ++ ": " ++ fault.name))

/-- A pair of RSA keys; the private one is read first. -/
def KeyPair.ofRsaFiles (privateFile publicFile : List UInt8) : Except AuthError KeyPair := do
  let signing ← configurationFault "RSA private key" (KeyFile.rsaKeyOfBytes privateFile)
  let verifying ← configurationFault "RSA public key" (KeyFile.rsaKeyOfBytes publicFile)
  return .ofRsa signing verifying

/-- A pair of elliptic curve keys; the private one is read first. -/
def KeyPair.ofEcFiles (privateFile publicFile : List UInt8) : Except AuthError KeyPair := do
  let signing ← configurationFault "EC private key" (KeyFile.ecPrivateKeyOfBytes privateFile)
  let verifying ← configurationFault "EC public key" (KeyFile.ecPublicKeyOfBytes publicFile)
  return .ofEc signing verifying

end BearerAuth
