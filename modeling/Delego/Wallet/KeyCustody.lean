import Delego.Shared.Run
import Delego.Wallet.KeyVault

set_option autoImplicit false

namespace Delego.Wallet.KeyVault

open Shared

variable {Key : Type} {service : VaultService Key} {secretOf : String → String} {system : System}
  {file : Option VaultData} {publicKey secretKey : String} {data : VaultData}
  {phase : Phase} {inputs : List Input}

def Completed (system : System) (publicKey secretKey : String) : Prop :=
  ∃ id, system.calls id = .returned (.storeKey publicKey secretKey) (.ok .stored)

/-- A stored key stays in the file, and every later call for it returns it. -/
structure KeysKept (service : VaultService Key) (file : Option VaultData) (inputs : List Input) :
    Prop where
  present : ∀ older, older <:+ inputs → ∀ publicKey secretKey,
    Completed (final service file older) publicKey secretKey →
      ∃ record, (final service file older).content.lookup publicKey = some record ∧
        service.decrypted record = some secretKey
  returned : ∀ older newer, older <:+ newer → newer <:+ inputs → ∀ publicKey secretKey,
    Completed (final service file older) publicKey secretKey →
      ∀ id, (final service file older).calls id = .idle →
        ∀ result, (final service file newer).calls id = .returned (.getKey publicKey) result →
          result = .ok (.secretKey secretKey)

-- A public key has one secret key, and is no name of the prototype.
def Input.Paired (secretOf : String → String) : Input → Prop
  | .call _ (.storeKey publicKey secretKey) =>
    secretKey = secretOf publicKey ∧ publicKey ≠ "__proto__"
  | _ => True

def Sound (service : VaultService Key) (secretOf : String → String) (data : VaultData) : Prop :=
  ∀ publicKey record, data.lookup publicKey = some record →
    service.decrypted record = some (secretOf publicKey)

/-- In what order the calls have come to the file and to the vault in memory: whose key was set in the vault
that the file was written from last, or in the one in memory since it was loaded, and what a call has read,
and serialised, of that. -/
structure Order where
  completed : List Nat
  file : List Nat
  vault : List Nat
  read : Nat → List Nat
  serialised : Nat → List Nat

def Order.step (system : System) (order : Order) : Input → Order
  | .call .. => order
  | .readFile id =>
    match system.calls id with
    | .loading _ =>
      { order with
        read := Function.update order.read id order.file }
    | _ => order
  | .load id _ _ =>
    match system.calls id with
    | .loaded .. =>
      { order with
        vault := order.read id }
    | _ => order
  | .derive id _ =>
    match system.calls id with
    | .encrypting .. =>
      { order with
        vault := id :: order.vault }
    | _ => order
  | .serialise id =>
    match system.calls id with
    | .saving .. =>
      { order with
        serialised := Function.update order.serialised id order.vault }
    | _ => order
  | .writeFile id =>
    match system.calls id with
    | .writing .. =>
      { order with
        completed := id :: order.completed
        file := order.serialised id }
    | _ => order

def ordering (service : VaultService Key) (file : Option VaultData) : List Input → Order
  | [] => ⟨[], [], [], fun _ => [], fun _ => []⟩
  | input :: earlier => (ordering service file earlier).step (final service file earlier) input

/-- A call writes a vault in which it has set its key since the vault was loaded, and which was loaded after
the file had the keys of the calls that are completed by then, or in which they too have set theirs since. -/
def InOrder (system : System) (order : Order) : Input → Prop
  | .writeFile id =>
    match system.calls id with
    | .writing .. => ∀ other ∈ id :: order.completed, other ∈ order.serialised id
    | _ => True
  | _ => True

def Request.Paired (secretOf : String → String) : Request → Prop
  | .storeKey publicKey secretKey => secretKey = secretOf publicKey ∧ publicKey ≠ "__proto__"
  | _ => True

def PhaseOk (service : VaultService Key) (secretOf : String → String) : Phase → Prop
  | .idle => True
  | .loading request => request.Paired secretOf
  | .loaded request content => request.Paired secretOf ∧ Sound service secretOf (content.getD [])
  | .encrypting publicKey secretKey _ _ =>
    secretKey = secretOf publicKey ∧ publicKey ≠ "__proto__"
  | .saving publicKey secretKey => secretKey = secretOf publicKey
  | .writing publicKey secretKey data => secretKey = secretOf publicKey ∧ Sound service secretOf data
  | .decrypting publicKey record => service.decrypted record = some (secretOf publicKey)
  | .returned (.storeKey publicKey secretKey) _ => secretKey = secretOf publicKey
  | .returned _ _ => True

structure Formed (service : VaultService Key) (secretOf : String → String) (system : System) :
    Prop where
  file : Sound service secretOf system.content
  vaultData : Sound service secretOf system.vaultData
  calls : ∀ id, PhaseOk service secretOf (system.calls id)

def Phase.key : Phase → Option String
  | .saving publicKey _ | .writing publicKey _ _ | .returned (.storeKey publicKey _) _ => some publicKey
  | _ => none

def Has (system : System) (ids : List Nat) (data : VaultData) : Prop :=
  ∀ id ∈ ids, ∃ publicKey, (system.calls id).key = some publicKey ∧ data.lookup publicKey ≠ none

structure Placed (system : System) (order : Order) : Prop where
  file : Has system order.file system.content
  vault : Has system order.vault system.vaultData
  read : ∀ id request content, system.calls id = .loaded request content →
    Has system (order.read id) (content.getD [])
  serialised : ∀ id publicKey secretKey data, system.calls id = .writing publicKey secretKey data →
    Has system (order.serialised id) data
  completed : ∀ id publicKey secretKey,
    system.calls id = .returned (.storeKey publicKey secretKey) (.ok .stored) → id ∈ order.completed
  kept : ∀ id ∈ order.completed, id ∈ order.file

theorem Sound.nil : Sound service secretOf [] := by
  intro publicKey record found
  cases found

theorem Sound.set (sound : Sound service secretOf data) (lawful : service.cipher.Lawful)
    (named : publicKey ≠ "__proto__") (salt iv : List UInt8) (keyVersion : String) :
    Sound service secretOf
      (set publicKey (service.encrypted salt iv keyVersion (secretOf publicKey)) data) := by
  intro name record found
  rw [lookup_set named] at found
  split at found
  · rename_i same
    cases found
    rw [same]
    exact decrypted_encrypted lawful salt iv keyVersion (secretOf publicKey)
  · exact sound name record found

theorem resume_ok (sound : Sound service secretOf data) (salt iv : List UInt8)
    {request : Request} (paired : request.Paired secretOf) :
    PhaseOk service secretOf (resume data salt iv request) := by
  cases request with
  | storeKey publicKey secretKey => exact paired
  | getKey publicKey =>
    cases found : data.lookup publicKey with
    | none =>
      simp only [resume, found]
      trivial
    | some record =>
      simp only [resume, found]
      exact sound publicKey record found
  | listPublicKeys => trivial

theorem Formed.updated {after : System} {id : Nat} (formed : Formed service secretOf system)
    (calls : after.calls = Function.update system.calls id phase)
    (file : Sound service secretOf after.content)
    (vaultData : Sound service secretOf after.vaultData)
    (here : PhaseOk service secretOf phase) : Formed service secretOf after := by
  refine ⟨file, vaultData, ?_⟩
  intro other
  by_cases same : other = id
  · rw [calls, same, Function.update_self]
    exact here
  · rw [calls, Function.update_of_ne same]
    exact formed.calls other

theorem Formed.moved {id : Nat} (formed : Formed service secretOf system)
    (here : PhaseOk service secretOf phase) : Formed service secretOf (system.withCall id phase) :=
  formed.updated rfl formed.file formed.vaultData here

theorem getKeyResult_decrypted {record : VaultRecord}
    (decrypted : service.decrypted record = some secretKey) :
    getKeyResult service record = .ok (.secretKey secretKey) := by
  simp [getKeyResult, decrypted]

theorem step_formed (lawful : service.cipher.Lawful) (formed : Formed service secretOf system)
    {input : Input} (paired : input.Paired secretOf) :
    Formed service secretOf (step service system input) := by
  cases input with
  | call id request =>
    cases phase : system.calls id with
    | idle =>
      simp only [step, phase]
      apply formed.moved
      cases request with
      | storeKey | getKey | listPublicKeys => exact paired
    | loading | loaded | encrypting | saving | writing | decrypting | returned =>
      simp only [step, phase]
      exact formed
  | readFile id =>
    have ok := formed.calls id
    cases phase : system.calls id with
    | loading request =>
      rw [phase] at ok
      simp only [step, phase]
      exact formed.moved ⟨ok, formed.file⟩
    | idle | loaded | encrypting | saving | writing | decrypting | returned =>
      simp only [step, phase]
      exact formed
  | load id salt iv =>
    have ok := formed.calls id
    cases phase : system.calls id with
    | loaded request content =>
      rw [phase] at ok
      simp only [step, phase]
      exact formed.updated rfl formed.file ok.2 (resume_ok ok.2 salt iv ok.1)
    | idle | loading | encrypting | saving | writing | decrypting | returned =>
      simp only [step, phase]
      exact formed
  | derive id activeKeyVersion =>
    have ok := formed.calls id
    cases phase : system.calls id with
    | encrypting publicKey secretKey salt iv =>
      rw [phase] at ok
      obtain ⟨rfl, named⟩ := ok
      simp only [step, phase]
      exact formed.updated rfl formed.file (formed.vaultData.set lawful named salt iv _) rfl
    | decrypting publicKey record =>
      simp only [step, phase]
      exact formed.moved trivial
    | idle | loading | loaded | saving | writing | returned =>
      simp only [step, phase]
      exact formed
  | serialise id =>
    have ok := formed.calls id
    cases phase : system.calls id with
    | saving publicKey secretKey =>
      rw [phase] at ok
      simp only [step, phase]
      exact formed.moved ⟨ok, formed.vaultData⟩
    | idle | loading | loaded | encrypting | writing | decrypting | returned =>
      simp only [step, phase]
      exact formed
  | writeFile id =>
    have ok := formed.calls id
    cases phase : system.calls id with
    | writing publicKey secretKey data =>
      rw [phase] at ok
      simp only [step, phase]
      exact formed.updated rfl ok.2 formed.vaultData ok.1
    | idle | loading | loaded | encrypting | saving | decrypting | returned =>
      simp only [step, phase]
      exact formed

def Input.actor : Input → Nat
  | .call id _ | .readFile id | .load id _ _ | .derive id _ | .serialise id | .writeFile id => id

theorem step_others {input : Input} {other : Nat} (different : other ≠ input.actor) :
    (step service system input).calls other = system.calls other := by
  cases input with
  | call id | readFile id | load id | derive id | serialise id | writeFile id =>
    cases phase : system.calls id <;> simp only [step, phase, System.withCall] <;>
      exact Function.update_of_ne different ..

theorem step_key {id : Nat} {input : Input} (key : (system.calls id).key = some publicKey) :
    ((step service system input).calls id).key = some publicKey := by
  by_cases ours : id = input.actor
  · subst ours
    cases input with
    | call id | readFile id | load id | derive id | serialise id | writeFile id =>
      simp only [Input.actor] at key ⊢
      cases phase : system.calls id with
      | idle | loading | loaded | encrypting | decrypting =>
        rw [phase] at key
        cases key
      | saving | writing | returned =>
        rw [phase] at key
        simp only [step, phase, System.withCall, Function.update_self]
        exact key
  · rwa [step_others ours]

theorem Has.step {ids : List Nat} (has : Has system ids data) (input : Input) :
    Has (step service system input) ids data := by
  intro id member
  obtain ⟨publicKey, key, held⟩ := has id member
  exact ⟨publicKey, step_key key, held⟩

theorem Has.set {ids : List Nat} (has : Has system ids data) (named : publicKey ≠ "__proto__")
    (record : VaultRecord) : Has system ids (set publicKey record data) := by
  intro id member
  obtain ⟨name, key, held⟩ := has id member
  refine ⟨name, key, ?_⟩
  by_cases same : name = publicKey
  · simp [lookup_set named, same]
  · simpa [lookup_set named, same] using held

theorem Placed.updated {after : System} {order order' : Order} {id : Nat} (placed : Placed system order)
    (calls : after.calls = Function.update system.calls id phase)
    (has : ∀ ids data, Has system ids data → Has after ids data)
    (file : Has after order'.file after.content) (vault : Has after order'.vault after.vaultData)
    (others : ∀ other, other ≠ id → order'.read other = order.read other ∧
      order'.serialised other = order.serialised other)
    (read : ∀ request content, phase = .loaded request content →
      Has system (order'.read id) (content.getD []))
    (serialised : ∀ publicKey secretKey data, phase = .writing publicKey secretKey data →
      Has system (order'.serialised id) data)
    (completed : ∀ publicKey secretKey, phase = .returned (.storeKey publicKey secretKey) (.ok .stored) →
      id ∈ order'.completed)
    (grown : ∀ other ∈ order.completed, other ∈ order'.completed)
    (kept : ∀ other ∈ order'.completed, other ∈ order'.file) : Placed after order' := by
  refine ⟨file, vault, ?_, ?_, ?_, kept⟩
  · intro other request content loaded
    by_cases same : other = id
    · subst same
      rw [calls, Function.update_self] at loaded
      exact has _ _ (read request content loaded)
    · rw [calls, Function.update_of_ne same] at loaded
      rw [(others other same).1]
      exact has _ _ (placed.read other request content loaded)
  · intro other publicKey secretKey data writing
    by_cases same : other = id
    · subst same
      rw [calls, Function.update_self] at writing
      exact has _ _ (serialised publicKey secretKey data writing)
    · rw [calls, Function.update_of_ne same] at writing
      rw [(others other same).2]
      exact has _ _ (placed.serialised other publicKey secretKey data writing)
  · intro other publicKey secretKey returned
    by_cases same : other = id
    · subst same
      rw [calls, Function.update_self] at returned
      exact completed publicKey secretKey returned
    · rw [calls, Function.update_of_ne same] at returned
      exact grown other (placed.completed other publicKey secretKey returned)

theorem Placed.moved {order : Order} {id : Nat} (placed : Placed system order)
    (has : ∀ ids data, Has system ids data → Has (system.withCall id phase) ids data)
    (read : ∀ request content, phase ≠ .loaded request content)
    (serialised : ∀ publicKey secretKey data, phase ≠ .writing publicKey secretKey data)
    (completed : ∀ publicKey secretKey, phase ≠ .returned (.storeKey publicKey secretKey) (.ok .stored)) :
    Placed (system.withCall id phase) order := by
  refine placed.updated rfl has (has _ _ placed.file) (has _ _ placed.vault) (fun _ _ => ⟨rfl, rfl⟩) ?_ ?_ ?_
    (fun _ member => member) placed.kept
  · intro request content loaded
    exact absurd loaded (read request content)
  · intro publicKey secretKey data writing
    exact absurd writing (serialised publicKey secretKey data)
  · intro publicKey secretKey returned
    exact absurd returned (completed publicKey secretKey)

theorem resume_unstored {request : Request} (salt iv : List UInt8) :
    (∀ request' content, resume data salt iv request ≠ .loaded request' content) ∧
    (∀ publicKey secretKey data', resume data salt iv request ≠ .writing publicKey secretKey data') ∧
    ∀ publicKey secretKey,
      resume data salt iv request ≠ .returned (.storeKey publicKey secretKey) (.ok .stored) := by
  cases request with
  | storeKey | listPublicKeys => simp [resume]
  | getKey publicKey => cases found : data.lookup publicKey <;> simp [resume, found]

theorem step_placed {order : Order} (formed : Formed service secretOf system) (placed : Placed system order)
    {input : Input} (inOrder : InOrder system order input) :
    Placed (step service system input) (order.step system input) := by
  have has (ids : List Nat) (data : VaultData) (before : Has system ids data) :
      Has (step service system input) ids data := before.step input
  cases input with
  | call id request =>
    cases phase : system.calls id with
    | idle =>
      simp only [step, Order.step, phase] at has ⊢
      exact placed.moved has (by simp) (by simp) (by simp)
    | loading | loaded | encrypting | saving | writing | decrypting | returned =>
      simp only [step, Order.step, phase]
      exact placed
  | readFile id =>
    cases phase : system.calls id with
    | loading request =>
      simp only [step, Order.step, phase] at has ⊢
      refine placed.updated rfl has (has _ _ placed.file) (has _ _ placed.vault) ?_ ?_ (by simp) (by simp)
        (fun _ member => member) placed.kept
      · intro other different
        exact ⟨Function.update_of_ne different .., rfl⟩
      · intro request' content loaded
        cases loaded
        simp only [Function.update_self]
        exact placed.file
    | idle | loaded | encrypting | saving | writing | decrypting | returned =>
      simp only [step, Order.step, phase]
      exact placed
  | load id salt iv =>
    cases phase : system.calls id with
    | loaded request content =>
      simp only [step, Order.step, phase] at has ⊢
      obtain ⟨read, serialised, completed⟩ :=
        @resume_unstored (content.getD []) request salt iv
      refine placed.updated rfl has (has _ _ placed.file) (has _ _ (placed.read id request content phase))
        (fun _ _ => ⟨rfl, rfl⟩) ?_ ?_ ?_ (fun _ member => member) placed.kept
      · intro request' content' loaded
        exact absurd loaded (read request' content')
      · intro publicKey secretKey data writing
        exact absurd writing (serialised publicKey secretKey data)
      · intro publicKey secretKey returned
        exact absurd returned (completed publicKey secretKey)
    | idle | loading | encrypting | saving | writing | decrypting | returned =>
      simp only [step, Order.step, phase]
      exact placed
  | derive id activeKeyVersion =>
    cases phase : system.calls id with
    | encrypting publicKey secretKey salt iv =>
      have ok := formed.calls id
      rw [phase] at ok
      simp only [step, Order.step, phase] at has ⊢
      refine placed.updated rfl has (has _ _ placed.file) ?_ (fun _ _ => ⟨rfl, rfl⟩) (by simp) (by simp)
        (by simp) (fun _ member => member) placed.kept
      intro other member
      rcases List.mem_cons.mp member with rfl | set
      · refine ⟨publicKey, ?_, ?_⟩
        · simp [System.withCall, Phase.key]
        · simp [lookup_set ok.2]
      · exact (has _ _ placed.vault).set ok.2 _ other set
    | decrypting publicKey record =>
      simp only [step, Order.step, phase] at has ⊢
      exact placed.moved has (by simp) (by simp) (by simp)
    | idle | loading | loaded | saving | writing | returned =>
      simp only [step, Order.step, phase]
      exact placed
  | serialise id =>
    cases phase : system.calls id with
    | saving publicKey secretKey =>
      simp only [step, Order.step, phase] at has ⊢
      refine placed.updated rfl has (has _ _ placed.file) (has _ _ placed.vault) ?_ (by simp) ?_ (by simp)
        (fun _ member => member) placed.kept
      · intro other different
        exact ⟨rfl, Function.update_of_ne different ..⟩
      · intro publicKey' secretKey' data writing
        cases writing
        simp only [Function.update_self]
        exact placed.vault
    | idle | loading | loaded | encrypting | writing | decrypting | returned =>
      simp only [step, Order.step, phase]
      exact placed
  | writeFile id =>
    cases phase : system.calls id with
    | writing publicKey secretKey data =>
      simp only [InOrder, phase] at inOrder
      simp only [step, Order.step, phase] at has ⊢
      refine placed.updated rfl has (has _ _ (placed.serialised id publicKey secretKey data phase))
        (has _ _ placed.vault) (fun _ _ => ⟨rfl, rfl⟩) (by simp) (by simp) ?_ ?_ inOrder
      · intro publicKey' secretKey' _
        exact List.mem_cons_self
      · intro other member
        exact List.mem_cons_of_mem _ member
    | idle | loading | loaded | encrypting | saving | decrypting | returned =>
      simp only [step, Order.step, phase]
      exact placed

/-- A call for the key that has been loaded since the key was stored finds it. -/
def Answering (secretOf : String → String) (publicKey : String) : Phase → Prop
  | .loaded (.getKey name) content => name = publicKey → (content.getD []).lookup publicKey ≠ none
  | .returned (.getKey name) result =>
    name = publicKey → result = .ok (.secretKey (secretOf publicKey))
  | _ => True

theorem resume_answering {request : Request} (salt iv : List UInt8)
    (found : request = .getKey publicKey → data.lookup publicKey ≠ none) :
    Answering secretOf publicKey (resume data salt iv request) := by
  cases request with
  | storeKey | listPublicKeys => trivial
  | getKey name =>
    cases present : data.lookup name with
    | some record =>
      simp only [resume, present]
      trivial
    | none =>
      simp only [resume, present]
      rintro rfl
      exact absurd present (found rfl)

theorem step_answering {id : Nat} (formed : Formed service secretOf system)
    (held : system.content.lookup publicKey ≠ none)
    (answering : Answering secretOf publicKey (system.calls id)) (input : Input) :
    Answering secretOf publicKey ((step service system input).calls id) := by
  by_cases ours : id = input.actor
  · subst ours
    have ok := formed.calls input.actor
    cases input with
    | call id request =>
      cases phase : system.calls id with
      | idle =>
        simp only [Input.actor, step, phase, System.withCall, Function.update_self]
        trivial
      | loading | loaded | encrypting | saving | writing | decrypting | returned =>
        simpa only [Input.actor, step, phase] using answering
    | readFile id =>
      cases phase : system.calls id with
      | loading request =>
        simp only [Input.actor, step, phase, System.withCall, Function.update_self]
        cases request with
        | getKey name => exact fun _ => held
        | storeKey | listPublicKeys => trivial
      | idle | loaded | encrypting | saving | writing | decrypting | returned =>
        simpa only [Input.actor, step, phase] using answering
    | load id salt iv =>
      cases phase : system.calls id with
      | loaded request content =>
        simp only [Input.actor, phase] at answering
        simp only [Input.actor, step, phase, System.withCall, Function.update_self]
        apply resume_answering
        rintro rfl
        exact answering rfl
      | idle | loading | encrypting | saving | writing | decrypting | returned =>
        simpa only [Input.actor, step, phase] using answering
    | derive id activeKeyVersion =>
      cases phase : system.calls id with
      | encrypting =>
        simp only [Input.actor, step, phase, System.withCall, Function.update_self]
        trivial
      | decrypting name record =>
        simp only [Input.actor, phase] at ok
        simp only [Input.actor, step, phase, System.withCall, Function.update_self]
        rintro rfl
        exact getKeyResult_decrypted ok
      | idle | loading | loaded | saving | writing | returned =>
        simpa only [Input.actor, step, phase] using answering
    | serialise id =>
      cases phase : system.calls id with
      | saving =>
        simp only [Input.actor, step, phase, System.withCall, Function.update_self]
        trivial
      | idle | loading | loaded | encrypting | writing | decrypting | returned =>
        simpa only [Input.actor, step, phase] using answering
    | writeFile id =>
      cases phase : system.calls id with
      | writing =>
        simp only [Input.actor, step, phase, System.withCall, Function.update_self]
        trivial
      | idle | loading | loaded | encrypting | saving | decrypting | returned =>
        simpa only [Input.actor, step, phase] using answering
  · rwa [step_others ours]

theorem final_formed (lawful : service.cipher.Lawful) (sound : Sound service secretOf (file.getD []))
    (paired : ∀ input ∈ inputs, input.Paired secretOf) :
    ∀ older, older <:+ inputs → Formed service secretOf (final service file older) := by
  refine Run.along ⟨sound, .nil, fun _ => trivial⟩ ?_
  intro input older within formed
  exact step_formed lawful formed (paired input (within.subset List.mem_cons_self))

theorem final_placed
    (formed : ∀ older, older <:+ inputs → Formed service secretOf (final service file older))
    (inOrder : ∀ input older, input :: older <:+ inputs →
      InOrder (final service file older) (ordering service file older) input) :
    ∀ older, older <:+ inputs → Placed (final service file older) (ordering service file older) := by
  refine Run.along ?_ ?_
  · constructor <;> simp [final, start, ordering, Has]
  · intro input older within placed
    exact step_placed (formed older ((List.suffix_cons input older).trans within)) placed
      (inOrder input older within)

theorem Placed.present {order : Order} (placed : Placed system order)
    (completed : Completed system publicKey secretKey) : system.content.lookup publicKey ≠ none := by
  obtain ⟨id, phase⟩ := completed
  obtain ⟨name, key, held⟩ :=
    placed.file id (placed.kept id (placed.completed id publicKey secretKey phase))
  rw [phase] at key
  cases key
  exact held

theorem Formed.paired (formed : Formed service secretOf system)
    (completed : Completed system publicKey secretKey) : secretKey = secretOf publicKey := by
  obtain ⟨id, phase⟩ := completed
  have ok := formed.calls id
  rwa [phase] at ok

theorem step_completed {input : Input} (completed : Completed system publicKey secretKey) :
    Completed (step service system input) publicKey secretKey := by
  obtain ⟨id, phase⟩ := completed
  refine ⟨id, ?_⟩
  by_cases ours : id = input.actor
  · subst ours
    cases input with
    | call id | readFile id | load id | derive id | serialise id | writeFile id =>
      simp only [Input.actor] at phase ⊢
      simp only [step, phase]
  · rwa [step_others ours]

/-- Keys with one secret each are kept in every run in which the calls come to the file and to the memory in
order: each of them writes a vault that lacks no completed call's key, nor its own. -/
theorem keys_kept (service : VaultService Key) (lawful : service.cipher.Lawful)
    (secretOf : String → String) (file : Option VaultData)
    (sound : Sound service secretOf (file.getD [])) (inputs : List Input)
    (paired : ∀ input ∈ inputs, input.Paired secretOf)
    (inOrder : ∀ input older, input :: older <:+ inputs →
      InOrder (final service file older) (ordering service file older) input) :
    KeysKept service file inputs := by
  have formed := final_formed lawful sound paired
  have placed := final_placed formed inOrder
  constructor
  case present =>
    intro older within publicKey secretKey completed
    obtain ⟨record, found⟩ := Option.ne_none_iff_exists'.mp ((placed older within).present completed)
    refine ⟨record, found, ?_⟩
    rw [(formed older within).paired completed]
    exact (formed older within).file publicKey record found
  case returned =>
    intro older newer before within publicKey secretKey completed id idle result returned
    have own := (formed older (before.trans within)).paired completed
    subst own
    have later : ∀ newer, older <:+ newer → newer <:+ inputs →
        Completed (final service file newer) publicKey (secretOf publicKey) ∧
          Answering secretOf publicKey ((final service file newer).calls id) := by
      intro newer before within
      induction newer with
      | nil =>
        cases List.suffix_nil.mp before
        rw [idle]
        exact ⟨completed, trivial⟩
      | cons input earlier ih =>
        rcases List.suffix_cons_iff.mp before with same | longer
        · rw [← same, idle]
          exact ⟨completed, trivial⟩
        · have past := (List.suffix_cons input earlier).trans within
          obtain ⟨stored, answering⟩ := ih longer past
          exact ⟨step_completed stored,
            step_answering (formed earlier past) ((placed earlier past).present stored) answering input⟩
    obtain ⟨_, answering⟩ := later newer before within
    rw [returned] at answering
    exact answering rfl

def sampleService : VaultService UInt8 where
  cipher := Cipher.plain
  getEncryptionKey salt := UInt8.ofNat salt.length

-- Two calls load the missing file before either has set its key, and a third reads one of the keys while the
-- other is still to be written, and so loads the vault once more.
def interleavedCalls : List Input :=
  [ .call 0 (.storeKey "GA" "SA"), .call 1 (.storeKey "GB" "SB"), .readFile 0, .readFile 1,
    .load 0 [1] [2], .load 1 [3] [4], .derive 1 "v1", .derive 0 "v1", .serialise 0, .writeFile 0,
    .call 2 (.getKey "GA"), .readFile 2, .load 2 [] [], .serialise 1, .writeFile 1, .derive 2 "v1" ].reverse

theorem keys_kept_sample : KeysKept sampleService none interleavedCalls ∧
    (final sampleService none interleavedCalls).calls 2 =
      .returned (.getKey "GA") (.ok (.secretKey "SA")) := by
  refine ⟨keys_kept sampleService Cipher.plain_lawful (fun name => if name = "GA" then "SA" else "SB") none
    .nil interleavedCalls ?_ ?_, ?_⟩
  · simp [interleavedCalls, Input.Paired]
  · intro input older suffix
    simp only [interleavedCalls, List.reverse_cons, List.reverse_nil, List.nil_append, List.cons_append,
      List.suffix_cons_iff, List.suffix_nil, List.cons.injEq, reduceCtorEq, or_false] at suffix
    rcases suffix with ⟨rfl, rfl⟩ | ⟨rfl, rfl⟩ | ⟨rfl, rfl⟩ | ⟨rfl, rfl⟩ | ⟨rfl, rfl⟩ | ⟨rfl, rfl⟩ |
      ⟨rfl, rfl⟩ | ⟨rfl, rfl⟩ | ⟨rfl, rfl⟩ | ⟨rfl, rfl⟩ | ⟨rfl, rfl⟩ | ⟨rfl, rfl⟩ | ⟨rfl, rfl⟩ |
      ⟨rfl, rfl⟩ | ⟨rfl, rfl⟩ | ⟨rfl, rfl⟩
    all_goals try trivial
    · change ∀ other ∈ [1, 0], other ∈ [0, 1]
      decide
    · change ∀ other ∈ [0], other ∈ [0, 1]
      decide
  · rfl

-- A second call loads the empty file after the first has set its key and before it is serialised.
def overlappingStores : List Input :=
  [ .call 0 (.storeKey "GA" "SA"), .call 1 (.storeKey "GB" "SB"), .readFile 0, .readFile 1,
    .load 0 [1] [2], .derive 0 "v1", .load 1 [3] [4], .serialise 0, .writeFile 0 ].reverse

theorem overlapping_store_loses_key : ¬ KeysKept sampleService none overlappingStores := by
  intro kept
  obtain ⟨record, found, _⟩ :=
    kept.present overlappingStores List.suffix_rfl "GA" "SA" ⟨0, rfl⟩
  cases found

end Delego.Wallet.KeyVault
