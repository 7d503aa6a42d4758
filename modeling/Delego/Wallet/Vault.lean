import Delego.Shared.Cipher
import Delego.Shared.Text

set_option autoImplicit false

namespace Delego.Wallet

open Shared Shared.Text

abbrev Environment := String → Option String

variable {Key : Type}

def getActiveKeyVersion (env : Environment) : String :=
  let active := trim ((env "WALLET_ACTIVE_KEY_VERSION").getD "")
  if active = "" then "v1" else active

def unversionedSecret (env : Environment) : String :=
  (env "WALLET_MASTER_SECRET").getD "default-dev-wallet-master-secret-key-32-chars"

def versionedName (toUpperCase : String → String) (version : String) : String :=
  "WALLET_MASTER_SECRET_" ++ toUpperCase version

-- A blank variable counts for one that is not set.
def versionedSecret (toUpperCase : String → String) (env : Environment) (version : String) :
    Option String :=
  (env (versionedName toUpperCase version)).filter fun secret => trim secret ≠ ""

def getMasterKeyForVersion (toUpperCase : String → String) (env : Environment)
    (keyVersion : String) : Except String String :=
  let normalized := trim keyVersion
  if normalized = "" then .error "keyVersion is required"
  else
    match versionedSecret toUpperCase env normalized with
    | some envKey => .ok envKey
    | none =>
      if normalized = getActiveKeyVersion env ∨ normalized = "v1" then .ok (unversionedSecret env)
      else .error ("Unknown signing key version: " ++ normalized)

structure EncryptedSeedPhrase where
  ciphertext : String
  iv : String
  authTag : String
  keyVersion : String
  deriving DecidableEq

-- The master key that is given, or else that of the version.
def resolveMasterKey (toUpperCase : String → String) (env : Environment) (masterKey : Option String)
    (keyVersion : String) : Except String String :=
  match masterKey with
  | some masterKey => .ok masterKey
  | none => getMasterKeyForVersion toUpperCase env keyVersion

def encryptSeedPhrase (cipher : Cipher Key) (sha256 : String → Key) (toUpperCase : String → String)
    (env : Environment) (randomIv : List UInt8) (plainText : String)
    (masterKey keyVersion : Option String) : Except String EncryptedSeedPhrase :=
  if plainText = "" then .error "Plaintext cannot be empty"
  else
    let given := trim (keyVersion.getD "")
    let resolvedVersion := if given = "" then getActiveKeyVersion env else given
    match resolveMasterKey toUpperCase env masterKey resolvedVersion with
    | .error message => .error message
    | .ok resolvedMasterKey =>
      if resolvedMasterKey = "" then .error "Master key cannot be empty"
      else
        let (encrypted, tag) := cipher.encrypt (sha256 resolvedMasterKey) randomIv plainText
        .ok ⟨toHex encrypted, toHex randomIv, toHex tag, resolvedVersion⟩

inductive Encrypted where
  | phrase (encrypted : EncryptedSeedPhrase) (masterKey : Option String)
  | parts (ciphertext : String) (iv authTag masterKey keyVersion : Option String)

def decryptSeedPhrase (cipher : Cipher Key) (sha256 : String → Key) (toUpperCase : String → String)
    (env : Environment) (given : Encrypted) : Except String String :=
  let (ciphertext, iv, tag, resolvedMasterKey, resolvedKeyVersion) :=
    match given with
    | .phrase encrypted masterKey =>
      (encrypted.ciphertext, encrypted.iv, encrypted.authTag, masterKey, encrypted.keyVersion)
    | .parts ciphertext iv authTag masterKey keyVersion =>
      (ciphertext, iv.getD "", authTag.getD "", masterKey,
        keyVersion.getD (getActiveKeyVersion env))
  if ciphertext = "" then .error "Ciphertext cannot be empty"
  else if iv = "" then .error "IV cannot be empty"
  else if tag = "" then .error "Tag cannot be empty"
  else
    match resolveMasterKey toUpperCase env resolvedMasterKey resolvedKeyVersion with
    | .error message => .error message
    | .ok effectiveMasterKey =>
      if effectiveMasterKey = "" then .error "Master key cannot be empty"
      else if (fromHex iv).length ≠ 12 then
        .error "Decryption failed: Invalid IV length for AES-256-GCM (expected 12 bytes)"
      else if (fromHex tag).length ≠ 16 then
        .error "Decryption failed: Invalid Auth Tag length for AES-256-GCM (expected 16 bytes)"
      else
        match cipher.decrypt (sha256 effectiveMasterKey) (fromHex iv) (fromHex tag)
          (fromHex ciphertext) with
        | none => .error "Decryption failed: Unsupported state or unable to authenticate data"
        | some decrypted => .ok decrypted

end Delego.Wallet
