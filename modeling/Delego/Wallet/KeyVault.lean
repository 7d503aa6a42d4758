import Delego.Wallet.Vault
import Mathlib.Logic.Function.Basic

set_option autoImplicit false

namespace Delego.Wallet.KeyVault

open Shared Shared.Text

variable {Key : Type}

structure VaultRecord where
  iv : String
  tag : String
  encryptedData : String
  salt : String
  keyVersion : String
  deriving DecidableEq

/-- The vault as an object: its own properties, in the order they were first set. -/
abbrev VaultData := List (String × VaultRecord)

def assign (publicKey : String) (record : VaultRecord) : VaultData → VaultData
  | [] => [(publicKey, record)]
  | (name, held) :: rest =>
    if name = publicKey then (publicKey, record) :: rest
    else (name, held) :: assign publicKey record rest

-- An assignment to `__proto__` sets no property of the object.
def set (publicKey : String) (record : VaultRecord) (data : VaultData) : VaultData :=
  if publicKey = "__proto__" then data else assign publicKey record data

-- What every object has without being given it.
def inherited : List String :=
  [ "__proto__", "constructor", "hasOwnProperty", "isPrototypeOf", "propertyIsEnumerable",
    "toLocaleString", "toString", "valueOf", "__defineGetter__", "__defineSetter__",
    "__lookupGetter__", "__lookupSetter__" ]

/-- What a service is made with: the cipher, and how its master secret and a salt give a key. -/
structure VaultService (Key : Type) where
  cipher : Cipher Key
  getEncryptionKey : (salt : List UInt8) → Key

def VaultService.encrypted (service : VaultService Key) (salt iv : List UInt8)
    (keyVersion secretKey : String) : VaultRecord :=
  let (encrypted, tag) := service.cipher.encrypt (service.getEncryptionKey salt) iv secretKey
  ⟨toHex iv, toHex tag, toHex encrypted, toHex salt, keyVersion⟩

def VaultService.decrypted (service : VaultService Key) (record : VaultRecord) : Option String :=
  service.cipher.decrypt (service.getEncryptionKey (fromHex record.salt)) (fromHex record.iv)
    (fromHex record.tag) (fromHex record.encryptedData)

inductive Request where
  | storeKey (publicKey secretKey : String)
  | getKey (publicKey : String)
  | listPublicKeys
  deriving DecidableEq

inductive Reply where
  | stored
  | secretKey (secretKey : String)
  | publicKeys (publicKeys : List String)
  deriving DecidableEq

/-- Where a call stands between two of its awaits. -/
inductive Phase where
  | idle
  | loading (request : Request)
  | loaded (request : Request) (content : Option VaultData)
  | encrypting (publicKey secretKey : String) (salt iv : List UInt8)
  | saving (publicKey secretKey : String)
  | writing (publicKey secretKey : String) (data : VaultData)
  | decrypting (publicKey : String) (record : VaultRecord)
  | returned (request : Request) (result : Except String Reply)

structure System where
  file : Option VaultData
  vaultData : VaultData
  calls : Nat → Phase

inductive Input where
  | call (id : Nat) (request : Request)
  | readFile (id : Nat)
  | load (id : Nat) (salt iv : List UInt8)
  | derive (id : Nat) (activeKeyVersion : String)
  | serialise (id : Nat)
  | writeFile (id : Nat)

def System.content (system : System) : VaultData := system.file.getD []

def System.withCall (system : System) (id : Nat) (phase : Phase) : System :=
  { system with
    calls := Function.update system.calls id phase }

def resume (vaultData : VaultData) (salt iv : List UInt8) : Request → Phase
  | .storeKey publicKey secretKey => .encrypting publicKey secretKey salt iv
  | .getKey publicKey =>
    match vaultData.lookup publicKey with
    | some record => .decrypting publicKey record
    | none =>
      .returned (.getKey publicKey) (.error (
        if publicKey ∈ inherited then
          "The first argument must be of type string or an instance of Buffer, ArrayBuffer, or Array or an Array-like Object. Received undefined"
        else "Key not found in vault: " ++ publicKey))
  | .listPublicKeys => .returned .listPublicKeys (.ok (.publicKeys (vaultData.map Prod.fst)))

def getKeyResult (service : VaultService Key) (record : VaultRecord) : Except String Reply :=
  match service.decrypted record with
  | some secretKey => .ok (.secretKey secretKey)
  | none => .error "Unsupported state or unable to authenticate data"

def step (service : VaultService Key) (system : System) : Input → System
  | .call id request =>
    match system.calls id with
    | .idle => system.withCall id (.loading request)
    | _ => system
  | .readFile id =>
    match system.calls id with
    | .loading request => system.withCall id (.loaded request system.file)
    | _ => system
  | .load id salt iv =>
    match system.calls id with
    | .loaded request content =>
      { system.withCall id (resume (content.getD []) salt iv request) with
        vaultData := content.getD [] }
    | _ => system
  | .derive id activeKeyVersion =>
    match system.calls id with
    | .encrypting publicKey secretKey salt iv =>
      { system.withCall id (.saving publicKey secretKey) with
        vaultData := set publicKey (service.encrypted salt iv activeKeyVersion secretKey)
          system.vaultData }
    | .decrypting publicKey record =>
      system.withCall id (.returned (.getKey publicKey) (getKeyResult service record))
    | _ => system
  | .serialise id =>
    match system.calls id with
    | .saving publicKey secretKey =>
      system.withCall id (.writing publicKey secretKey system.vaultData)
    | _ => system
  | .writeFile id =>
    match system.calls id with
    | .writing publicKey secretKey data =>
      { system.withCall id (.returned (.storeKey publicKey secretKey) (.ok .stored)) with
        file := some data }
    | _ => system

def start (file : Option VaultData) : System where
  file
  vaultData := []
  calls _ := .idle

def final (service : VaultService Key) (file : Option VaultData) : List Input → System
  | [] => start file
  | input :: earlier => step service (final service file earlier) input

theorem lookup_assign (publicKey name : String) (record : VaultRecord) (data : VaultData) :
    (assign publicKey record data).lookup name =
      if name = publicKey then some record else data.lookup name := by
  induction data with
  | nil =>
    by_cases same : name = publicKey
    · simp [assign, same]
    · simp [assign, List.lookup_cons, beq_false_of_ne same, same]
  | cons entry rest ih =>
    obtain ⟨held, old⟩ := entry
    by_cases ours : held = publicKey
    · by_cases same : name = publicKey
      · simp [assign, ours, same]
      · simp [assign, ours, List.lookup_cons, beq_false_of_ne same, same]
    · simp only [assign, ours, if_false, List.lookup_cons, ih]
      by_cases here : name = held
      · have other : name ≠ publicKey := here ▸ ours
        simp [here, ours]
      · simp [beq_false_of_ne here]

theorem lookup_set {publicKey : String} (named : publicKey ≠ "__proto__") (name : String)
    (record : VaultRecord) (data : VaultData) :
    (set publicKey record data).lookup name =
      if name = publicKey then some record else data.lookup name := by
  rw [set, if_neg named, lookup_assign]

theorem decrypted_encrypted {service : VaultService Key} (lawful : service.cipher.Lawful)
    (salt iv : List UInt8) (keyVersion secretKey : String) :
    service.decrypted (service.encrypted salt iv keyVersion secretKey) = some secretKey := by
  simp [VaultService.decrypted, VaultService.encrypted, lawful.inverts]

end Delego.Wallet.KeyVault
