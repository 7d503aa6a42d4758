import Delego.Wallet.Vault
import Mathlib.Logic.Function.Basic

set_option autoImplicit false

namespace Delego.Wallet

open Shared Shared.Text

variable {Key : Type} {cipher : Cipher Key} {sha256 : String → Key} {toUpperCase : String → String}
  {env before after : Environment} {version secret phrase suffix : String} {randomIv : List UInt8}
  {keyVersion : Option String} {encrypted : EncryptedSeedPhrase}

/-- A change of the configuration that takes no secret away. -/
inductive ConfigChange where
  | addSecret (suffix secret : String)
  | activate (version : Option String)

def ConfigChange.apply (env : Environment) : ConfigChange → Environment
  | .addSecret suffix secret => Function.update env ("WALLET_MASTER_SECRET_" ++ suffix) (some secret)
  | .activate version => Function.update env "WALLET_ACTIVE_KEY_VERSION" version

def ConfigChange.Adds (env : Environment) : ConfigChange → Prop
  | .addSecret suffix _ => ∀ held ∈ env ("WALLET_MASTER_SECRET_" ++ suffix), trim held = ""
  | .activate _ => True

def configured (env : Environment) : List ConfigChange → Environment
  | [] => env
  | change :: earlier => change.apply (configured env earlier)

def OnlyAdds (env : Environment) : List ConfigChange → Prop
  | [] => True
  | change :: earlier => change.Adds (configured env earlier) ∧ OnlyAdds env earlier

structure Extends (before after : Environment) : Prop where
  unversioned : after "WALLET_MASTER_SECRET" = before "WALLET_MASTER_SECRET"
  versioned : ∀ suffix secret, before ("WALLET_MASTER_SECRET_" ++ suffix) = some secret →
    trim secret ≠ "" → after ("WALLET_MASTER_SECRET_" ++ suffix) = some secret

theorem active_ne_versioned (suffix : String) :
    "WALLET_MASTER_SECRET_" ++ suffix ≠ "WALLET_ACTIVE_KEY_VERSION" := by
  intro same
  have letters := congrArg (fun name => name.toList[7]?) same
  simp at letters

theorem unversioned_ne_versioned (suffix : String) :
    "WALLET_MASTER_SECRET" ≠ "WALLET_MASTER_SECRET_" ++ suffix := by
  intro same
  have lengths := congrArg String.length same
  rw [String.length_append] at lengths
  have sizes : "WALLET_MASTER_SECRET".length < "WALLET_MASTER_SECRET_".length := by decide
  omega

theorem ConfigChange.Adds.extends {change : ConfigChange} (adds : change.Adds env) :
    Extends env (change.apply env) := by
  cases change with
  | addSecret suffix secret =>
    refine ⟨Function.update_of_ne (unversioned_ne_versioned suffix) .., ?_⟩
    intro other held found some
    by_cases same : "WALLET_MASTER_SECRET_" ++ other = "WALLET_MASTER_SECRET_" ++ suffix
    · rw [same] at found
      exact absurd (adds held found) some
    · exact (Function.update_of_ne same ..).trans found
  | activate version =>
    have apart : "WALLET_MASTER_SECRET" ≠ "WALLET_ACTIVE_KEY_VERSION" := by decide
    refine ⟨Function.update_of_ne apart .., ?_⟩
    intro other held found _
    exact (Function.update_of_ne (active_ne_versioned other) ..).trans found

theorem OnlyAdds.extends {changes : List ConfigChange} (adds : OnlyAdds env changes) :
    Extends env (configured env changes) := by
  induction changes with
  | nil => exact ⟨rfl, fun _ _ found _ => found⟩
  | cons change earlier ih =>
    obtain ⟨unversioned, versioned⟩ := ih adds.2
    obtain ⟨same, kept⟩ := adds.1.extends
    refine ⟨same.trans unversioned, ?_⟩
    intro suffix secret found some
    exact kept suffix secret (versioned suffix secret found some) some

theorem configured_append (later earlier : List ConfigChange) :
    configured env (later ++ earlier) = configured (configured env earlier) later := by
  induction later with
  | nil => rfl
  | cons change later ih => simp [configured, ih]

theorem OnlyAdds.later {later earlier : List ConfigChange} (adds : OnlyAdds env (later ++ earlier)) :
    OnlyAdds (configured env earlier) later := by
  induction later with
  | nil => trivial
  | cons change later ih =>
    exact ⟨configured_append later earlier ▸ adds.1, ih adds.2⟩

def Resolves (sha256 : String → Key) (toUpperCase : String → String) (before after : Environment)
    (version : String) : Prop :=
  match versionedSecret toUpperCase before version with
  | some _ => True
  | none =>
    match versionedSecret toUpperCase after version with
    | some secret => sha256 (unversionedSecret before) = sha256 secret
    | none => version = getActiveKeyVersion after ∨ version = "v1"

theorem getActiveKeyVersion_trimmed (env : Environment) :
    trim (getActiveKeyVersion env) = getActiveKeyVersion env ∧ getActiveKeyVersion env ≠ "" := by
  by_cases given : trim ((env "WALLET_ACTIVE_KEY_VERSION").getD "") = ""
  · simp only [getActiveKeyVersion, given, if_true]
    exact ⟨by decide, by decide⟩
  · simp only [getActiveKeyVersion, given, if_false]
    exact ⟨trim_trim _, given⟩

theorem versionedSecret_eq_some : versionedSecret toUpperCase env version = some secret ↔
    env (versionedName toUpperCase version) = some secret ∧ trim secret ≠ "" := by
  simp [versionedSecret, Option.filter_eq_some_iff]

theorem encrypted_under
    (produced : encryptSeedPhrase cipher sha256 toUpperCase env randomIv phrase none keyVersion =
      .ok encrypted) :
    phrase ≠ "" ∧ trim encrypted.keyVersion = encrypted.keyVersion ∧ encrypted.keyVersion ≠ "" ∧
      ∃ secret, getMasterKeyForVersion toUpperCase env encrypted.keyVersion = .ok secret ∧
        secret ≠ "" ∧
        encrypted.ciphertext = toHex (cipher.encrypt (sha256 secret) randomIv phrase).1 ∧
        encrypted.iv = toHex randomIv ∧
        encrypted.authTag = toHex (cipher.encrypt (sha256 secret) randomIv phrase).2 := by
  by_cases blank : phrase = ""
  · simp [encryptSeedPhrase, blank] at produced
  · simp only [encryptSeedPhrase, blank, if_false, resolveMasterKey] at produced
    generalize chosen : (if trim (keyVersion.getD "") = "" then getActiveKeyVersion env
      else trim (keyVersion.getD "")) = resolved at produced
    have version : trim resolved = resolved ∧ resolved ≠ "" := by
      rw [← chosen]
      split
      · exact getActiveKeyVersion_trimmed env
      · rename_i given
        exact ⟨trim_trim _, given⟩
    cases found : getMasterKeyForVersion toUpperCase env resolved with
    | error message => simp [found] at produced
    | ok secret =>
      by_cases empty : secret = ""
      · simp [found, empty] at produced
      · simp only [found, empty, if_false, Except.ok.injEq] at produced
        subst produced
        exact ⟨blank, version.1, version.2, secret, found, empty, rfl, rfl, rfl⟩

theorem decrypted_under (lawful : cipher.Lawful) (sized : randomIv.length = 12) (some : phrase ≠ "")
    (ciphertext : encrypted.ciphertext = toHex (cipher.encrypt (sha256 secret) randomIv phrase).1)
    (iv : encrypted.iv = toHex randomIv)
    (authTag : encrypted.authTag = toHex (cipher.encrypt (sha256 secret) randomIv phrase).2) :
    decryptSeedPhrase cipher sha256 toUpperCase env (.phrase encrypted none) = .ok phrase ↔
      ∃ later, getMasterKeyForVersion toUpperCase env encrypted.keyVersion = .ok later ∧
        later ≠ "" ∧ sha256 secret = sha256 later := by
  have tagged := lawful.tag_length (sha256 secret) randomIv phrase
  have full : (cipher.encrypt (sha256 secret) randomIv phrase).1 ≠ [] := by
    rw [← List.length_pos_iff, lawful.ciphertext_length, Nat.pos_iff_ne_zero]
    simpa using some
  have randomIv_some : randomIv ≠ [] := by
    rintro rfl
    cases sized
  have tag_some : (cipher.encrypt (sha256 secret) randomIv phrase).2 ≠ [] := by
    intro none
    simp [none] at tagged
  simp only [decryptSeedPhrase, ciphertext, iv, authTag, toHex_eq_empty, full, randomIv_some, tag_some,
    if_false, fromHex_toHex, sized, tagged, resolveMasterKey, ne_eq, not_true]
  cases getMasterKeyForVersion toUpperCase env encrypted.keyVersion with
  | error message => simp
  | ok later =>
    by_cases empty : later = ""
    · simp [empty]
    · have opens := lawful.decrypt_encrypt (sha256 secret) (sha256 later) randomIv phrase
      simp only [empty, if_false, Except.ok.injEq, exists_eq_left', not_false_eq_true, true_and,
        ← opens]
      cases cipher.decrypt (sha256 later) randomIv (cipher.encrypt (sha256 secret) randomIv phrase).2
        (cipher.encrypt (sha256 secret) randomIv phrase).1 <;> simp

theorem getMasterKeyForVersion_eq_ok (trimmed : trim version = version) (named : version ≠ "") :
    getMasterKeyForVersion toUpperCase env version = .ok secret ↔
      versionedSecret toUpperCase env version = some secret ∨
        versionedSecret toUpperCase env version = none ∧
          (version = getActiveKeyVersion env ∨ version = "v1") ∧ unversionedSecret env = secret := by
  simp only [getMasterKeyForVersion, trimmed, named, if_false]
  cases versionedSecret toUpperCase env version with
  | some envKey => simp
  | none => by_cases known : version = getActiveKeyVersion env ∨ version = "v1" <;> simp [known]

/-- A seed phrase survives the changes made since it was encrypted exactly if its version was given
a secret of its own by then, or is given none of another digest since and still stands for the
unversioned one. -/
theorem seedPhrase_survives_iff (cipher : Cipher Key) (lawful : cipher.Lawful)
    (sha256 : String → Key) (toUpperCase : String → String) (env : Environment)
    (earlier later : List ConfigChange) (onlyAdds : OnlyAdds env (later ++ earlier))
    (randomIv : List UInt8) (sized : randomIv.length = 12) (phrase : String)
    (keyVersion : Option String) (encrypted : EncryptedSeedPhrase)
    (produced : encryptSeedPhrase cipher sha256 toUpperCase (configured env earlier) randomIv phrase
      none keyVersion = .ok encrypted) :
    decryptSeedPhrase cipher sha256 toUpperCase (configured env (later ++ earlier))
        (.phrase encrypted none) = .ok phrase ↔
      Resolves sha256 toUpperCase (configured env earlier) (configured env (later ++ earlier))
        encrypted.keyVersion := by
  obtain ⟨some, trimmed, named, secret, resolved, filled, ciphertext, iv, authTag⟩ :=
    encrypted_under produced
  rw [decrypted_under lawful sized some ciphertext iv authTag]
  have grown : Extends (configured env earlier) (configured env (later ++ earlier)) := by
    rw [configured_append]
    exact onlyAdds.later.extends
  generalize configured env (later ++ earlier) = after at grown ⊢
  generalize configured env earlier = before at grown resolved ⊢
  have unversioned : unversionedSecret after = unversionedSecret before := by
    rw [unversionedSecret, grown.unversioned, unversionedSecret]
  simp only [getMasterKeyForVersion_eq_ok trimmed named] at resolved ⊢
  cases own : versionedSecret toUpperCase before encrypted.keyVersion with
  | some secret' =>
    -- A secret of its own is there to stay.
    obtain rfl : secret' = secret := by simpa [own] using resolved
    obtain ⟨held, nonblank⟩ := versionedSecret_eq_some.mp own
    have kept := versionedSecret_eq_some.mpr ⟨grown.versioned _ _ held nonblank, nonblank⟩
    simp [Resolves, own, kept, filled]
  | none =>
    obtain ⟨_, rfl⟩ : _ ∧ unversionedSecret before = secret := by simpa [own] using resolved
    cases now : versionedSecret toUpperCase after encrypted.keyVersion with
    | some later =>
      have full : later ≠ "" := by
        rintro rfl
        exact (versionedSecret_eq_some.mp now).2 trim_empty
      simp [Resolves, own, now, full]
    | none => simp [Resolves, own, now, unversioned, filled]

def sampleEnvironment : Environment := fun name =>
  if name = "WALLET_MASTER_SECRET" then some "old"
  else if name = "WALLET_ACTIVE_KEY_VERSION" then some "v2" else none

def sampleDigest (secret : String) : UInt8 := UInt8.ofNat secret.length

def sampleEncrypted : EncryptedSeedPhrase where
  ciphertext := "73656564"
  iv := "000000000000000000000000"
  authTag := "03030303030303030303030303030303"
  keyVersion := "v2"

def sampleChanges : List ConfigChange := [.activate (some "v2"), .addSecret "V3" "newer", .activate none]

theorem sampleChanges_add : OnlyAdds sampleEnvironment sampleChanges := by
  refine ⟨trivial, ?_, trivial, trivial⟩
  intro held found
  have unset : configured sampleEnvironment [.activate none] ("WALLET_MASTER_SECRET_" ++ "V3") = none := by
    decide +kernel
  cases unset.symm.trans found

theorem seedPhrase_survives_sample :
    decryptSeedPhrase Cipher.plain sampleDigest String.toUpper (configured sampleEnvironment sampleChanges)
        (.phrase sampleEncrypted none) = .ok "seed" ↔
      Resolves sampleDigest String.toUpper (configured sampleEnvironment [])
        (configured sampleEnvironment sampleChanges) "v2" := by
  have produced : encryptSeedPhrase Cipher.plain sampleDigest String.toUpper (configured sampleEnvironment [])
      (List.replicate 12 0) "seed" none none = .ok sampleEncrypted := by
    decide +kernel
  exact seedPhrase_survives_iff Cipher.plain Cipher.plain_lawful sampleDigest String.toUpper
    sampleEnvironment [] sampleChanges sampleChanges_add (List.replicate 12 0) (by decide) "seed" none
    sampleEncrypted produced

-- The version falls back to the unversioned secret only as long as it is the active one.
theorem seedPhrase_lost_by_activation :
    encryptSeedPhrase Cipher.plain sampleDigest String.toUpper (configured sampleEnvironment [])
        (List.replicate 12 0) "seed" none none = .ok sampleEncrypted ∧
      OnlyAdds sampleEnvironment [.activate (some "v3")] ∧
      decryptSeedPhrase Cipher.plain sampleDigest String.toUpper
        (configured sampleEnvironment [.activate (some "v3")]) (.phrase sampleEncrypted none) =
          .error "Unknown signing key version: v2" :=
  ⟨by decide +kernel, ⟨trivial, trivial⟩, by decide +kernel⟩

end Delego.Wallet
