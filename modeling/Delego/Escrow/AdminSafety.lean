import Delego.Escrow.Governance
import Delego.Shared.Trace

set_option autoImplicit false

namespace Delego.Escrow

open Shared Soroban

variable {host : Host} {past : List (EscrowReceipt host)} {receipt : EscrowReceipt host}
  {charter after : Charter} {env : Env} {call : Call} {address primary successor : Address}

def Proposes (receipt : EscrowReceipt host) : Prop :=
  ∃ env currentAdmin newAdmin, succeeded receipt = some ⟨env, .proposeAdmin currentAdmin newAdmin⟩

def Cancels (receipt : EscrowReceipt host) : Prop :=
  ∃ env currentAdmin, succeeded receipt = some ⟨env, .cancelAdminTransfer currentAdmin⟩

def Nominated (past : List (EscrowReceipt host)) (primary successor : Address) : Prop :=
  ∃ since proposal, LastMarked Proposes past since proposal ∧
    (∃ env, succeeded proposal = some ⟨env, .proposeAdmin primary successor⟩ ∧
      primary ∈ env.signers) ∧
    ∀ receipt ∈ since, ¬ Cancels receipt

theorem Nominated.extend (nominated : Nominated past primary successor)
    (silent : ¬ Proposes receipt) (kept : ¬ Cancels receipt) :
    Nominated (receipt :: past) primary successor := by
  obtain ⟨since, proposal, last, named, uncancelled⟩ := nominated
  refine ⟨receipt :: since, proposal, last.cons silent, named, ?_⟩
  intro other member
  cases member with
  | head => exact kept
  | tail _ member => exact uncancelled other member

structure AdminBook (past : List (EscrowReceipt host)) (charter : Charter) : Prop where
  blank : charter.admin = none → charter.coAdmins = [] ∧ charter.pendingAdmin = none
  apart : ∀ primary, charter.admin = some primary → primary ∉ charter.coAdmins
  distinct : charter.coAdmins.Nodup
  nominated : ∀ successor, charter.pendingAdmin = some successor →
    ∃ primary, charter.admin = some primary ∧ Nominated past primary successor

theorem deployed_adminBook (ledger : host.Ledger) :
    AdminBook ([] : List (EscrowReceipt host)) (deployed ledger).storage.charter where
  blank _ := ⟨rfl, rfl⟩
  apart := by simp [deployed, Storage.charter, Storage.empty]
  distinct := by simp [deployed, Storage.charter, Storage.empty]
  nominated := by simp [deployed, Storage.charter, Storage.empty]

theorem AdminBook.extend (book : AdminBook past charter) (silent : ¬ Proposes receipt)
    (kept : ¬ Cancels receipt) : AdminBook (receipt :: past) charter where
  blank := book.blank
  apart := book.apart
  distinct := book.distinct
  nominated successor pending := by
    obtain ⟨primary, present, nominated⟩ := book.nominated successor pending
    exact ⟨primary, present, nominated.extend silent kept⟩

theorem quiet_call (done : succeeded receipt = some ⟨env, call⟩)
    (other : ∀ currentAdmin newAdmin, call ≠ .proposeAdmin currentAdmin newAdmin)
    (kept : ∀ currentAdmin, call ≠ .cancelAdminTransfer currentAdmin) :
    ¬ Proposes receipt ∧ ¬ Cancels receipt := by
  constructor
  · intro proposes
    obtain ⟨_, currentAdmin, newAdmin, same⟩ := proposes
    cases done.symm.trans same
    exact other currentAdmin newAdmin rfl
  · intro cancels
    obtain ⟨_, currentAdmin, same⟩ := cancels
    cases done.symm.trans same
    exact kept currentAdmin rfl

theorem decree_adminBook (decree : Decree env call charter after) (book : AdminBook past charter)
    (done : succeeded receipt = some ⟨env, call⟩) : AdminBook (receipt :: past) after := by
  cases decree with
  | initialized fresh =>
    obtain ⟨alone, free⟩ := book.blank fresh
    exact
      { blank := fun absent => by cases absent
        apart := by simp [alone]
        distinct := book.distinct
        nominated := by simp [free] }
  | proposed signed primary =>
    exact
      { blank := fun absent => by cases primary.symm.trans absent
        apart := book.apart
        distinct := book.distinct
        nominated := by
          intro successor pending
          cases pending
          refine ⟨_, primary, [], receipt, .here ⟨_, _, _, done⟩, ⟨env, done, signed⟩, by simp⟩ }
  | accepted _ pending =>
    exact
      { blank := fun absent => by cases absent
        apart := by
          intro primary same
          cases same
          exact book.distinct.not_mem_erase
        distinct := book.distinct.erase _
        nominated := by simp }
  | cancelled _ primary =>
    exact
      { blank := fun absent => by cases primary.symm.trans absent
        apart := book.apart
        distinct := book.distinct
        nominated := by simp }
  | added _ primary other new =>
    obtain ⟨silent, kept⟩ := quiet_call done (by simp) (by simp)
    exact
      { book.extend silent kept with
        blank := fun absent => by cases primary.symm.trans absent
        apart := by
          intro stored same
          cases primary.symm.trans same
          have apart := book.apart _ primary
          simp [apart, Ne.symm other]
        distinct := List.concat_eq_append ▸ book.distinct.concat new }
  | removed _ primary member =>
    obtain ⟨silent, kept⟩ := quiet_call done (by simp) (by simp)
    exact
      { book.extend silent kept with
        blank := fun absent => by cases primary.symm.trans absent
        apart := fun stored same held => book.apart stored same (List.mem_of_mem_erase held)
        distinct := book.distinct.erase _ }
  | listed | relisted | delisted | limited | charged | arbitrated | halted =>
    obtain ⟨silent, kept⟩ := quiet_call done (by simp) (by simp)
    exact { book.extend silent kept with }
  | none plain =>
    obtain ⟨silent, kept⟩ := quiet_call done (fun _ _ => Call.ne_of_plain plain rfl)
      (fun _ => Call.ne_of_plain plain rfl)
    exact book.extend silent kept

theorem receipt_adminBook (governed : Governed receipt)
    (book : AdminBook past receipt.before.storage.charter) :
    AdminBook (receipt :: past) receipt.after.storage.charter := by
  cases governed with
  | decree done decree => exact decree_adminBook decree book done
  | idle none same =>
    rw [same]
    refine book.extend ?_ ?_
    · simp [Proposes, none]
    · simp [Cancels, none]

theorem history_adminBook (ledger : host.Ledger) (inputs : List (Input host)) :
    AdminBook (Run.history (step host) (deployed ledger) inputs)
      (Run.final (step host) (deployed ledger) inputs).storage.charter := by
  apply Run.invariant (step host) (deployed ledger) fun past chain => AdminBook past chain.storage.charter
  · exact deployed_adminBook ledger
  · intro past chain input book
    exact receipt_adminBook (observe_governed chain input) book

structure Handover (past : List (EscrowReceipt host)) (receipt : EscrowReceipt host)
    (primary successor : Address) : Prop where
  accepts : ∃ env, succeeded receipt = some ⟨env, .acceptAdmin successor⟩ ∧ successor ∈ env.signers
  nominated : Nominated past primary successor

theorem receipt_handover (governed : Governed receipt)
    (book : AdminBook past receipt.before.storage.charter)
    (before : receipt.before.storage.admin = some primary) :
    receipt.after.storage.admin = some primary ∨
      ∃ successor, receipt.after.storage.admin = some successor ∧
        Handover past receipt primary successor := by
  cases governed with
  | idle _ same => exact .inl ((congrArg Charter.admin same).trans before)
  | @decree invocation done decree =>
    obtain ⟨env, call⟩ := invocation
    dsimp only at decree
    generalize stored : receipt.before.storage.charter = charter at book decree
    generalize result : receipt.after.storage.charter = after at decree
    have present : charter.admin = some primary := stored ▸ before
    have written : receipt.after.storage.admin = after.admin := congrArg Charter.admin result
    rw [written]
    cases decree with
    | initialized fresh => cases fresh.symm.trans present
    | @accepted _ newAdmin signed pending =>
      obtain ⟨held, same, nominated⟩ := book.nominated newAdmin pending
      cases same.symm.trans present
      exact .inr ⟨newAdmin, rfl, ⟨env, done, signed⟩, nominated⟩
    | proposed | cancelled | added | removed | listed | relisted | delisted | limited | charged
    | arbitrated | halted | none => exact .inl present

/-- Makes the address an admin, as the primary or as a co-admin. -/
def Reinstates (address : Address) (receipt : EscrowReceipt host) : Prop :=
  (∃ env, succeeded receipt = some ⟨env, .acceptAdmin address⟩) ∨
    ∃ env admin, succeeded receipt = some ⟨env, .addCoAdmin admin address⟩

structure Charter.Ousted (charter : Charter) (address : Address) : Prop where
  governed : ∃ primary, charter.admin = some primary
  apart : ¬ charter.IsAdmin address

theorem decree_ousted (decree : Decree env call charter after) (ousted : charter.Ousted address)
    (other : ∀ admin, call ≠ .addCoAdmin admin address) (unnamed : call ≠ .acceptAdmin address) :
    after.Ousted address := by
  obtain ⟨⟨primary, present⟩, apart⟩ := ousted
  have outside : address ≠ primary ∧ address ∉ charter.coAdmins := by
    simpa [Charter.IsAdmin, present] using apart
  cases decree with
  | initialized fresh => cases fresh.symm.trans present
  | @accepted _ newAdmin =>
    have different : address ≠ newAdmin := fun same => unnamed (same ▸ rfl)
    refine ⟨⟨newAdmin, rfl⟩, ?_⟩
    rintro ⟨_, ⟨⟩, same | member⟩
    · exact different same
    · exact outside.2 (List.mem_of_mem_erase member)
  | @added _ admin newCoAdmin =>
    have different : address ≠ newCoAdmin := fun same => other admin (same ▸ rfl)
    refine ⟨⟨primary, present⟩, ?_⟩
    simp [Charter.IsAdmin, present, outside, different]
  | removed =>
    refine ⟨⟨primary, present⟩, ?_⟩
    rintro ⟨held, same, primary | member⟩
    · cases present.symm.trans same
      exact outside.1 primary
    · exact outside.2 (List.mem_of_mem_erase member)
  | proposed | cancelled | listed | relisted | delisted | limited | charged | arbitrated | halted
  | none => exact ⟨⟨primary, present⟩, apart⟩

theorem receipt_ousted (governed : Governed receipt)
    (ousted : receipt.before.storage.charter.Ousted address) (outside : ¬ Reinstates address receipt) :
    receipt.after.storage.charter.Ousted address := by
  cases governed with
  | idle _ same => exact same ▸ ousted
  | @decree invocation done decree =>
    refine decree_ousted decree ousted ?_ ?_
    · intro admin same
      exact outside (.inr ⟨invocation.env, admin, by rw [done, ← same]⟩)
    · intro same
      exact outside (.inl ⟨invocation.env, by rw [done, ← same]⟩)

theorem final_ousted {chain : Chain host} (ousted : chain.storage.charter.Ousted address)
    (inputs : List (Input host))
    (outside : ∀ receipt ∈ Run.history (step host) chain inputs, ¬ Reinstates address receipt) :
    (Run.final (step host) chain inputs).storage.charter.Ousted address := by
  induction inputs with
  | nil => exact ousted
  | cons input earlier ih =>
    have before := ih fun receipt member => outside receipt (List.mem_cons_of_mem _ member)
    exact receipt_ousted (observe_governed _ input) before (outside _ (List.mem_cons_self ..))

/-- Removes the address from the admins: as the primary that another one replaces, or as a co-admin. -/
def Ousts (address : Address) (receipt : EscrowReceipt host) : Prop :=
  (∃ env successor, succeeded receipt = some ⟨env, .acceptAdmin successor⟩ ∧
    receipt.before.storage.admin = some address ∧ address ≠ successor) ∨
  ∃ env admin, succeeded receipt = some ⟨env, .removeCoAdmin admin address⟩

theorem receipt_ousts (governed : Governed receipt)
    (book : AdminBook past receipt.before.storage.charter) (ousts : Ousts address receipt) :
    receipt.after.storage.charter.Ousted address := by
  cases governed with
  | idle none => simp [Ousts, none] at ousts
  | @decree invocation done decree =>
    generalize receipt.after.storage.charter = after at decree
    rcases ousts with ⟨_, successor, same, before, different⟩ | ⟨_, admin, same⟩
    · cases done.symm.trans same
      cases decree with
      | none plain => cases plain
      | accepted =>
        have apart := book.apart address before
        refine ⟨⟨successor, rfl⟩, ?_⟩
        rintro ⟨_, ⟨⟩, same | member⟩
        · exact different same
        · exact apart (List.mem_of_mem_erase member)
    · cases done.symm.trans same
      cases decree with
      | none plain => cases plain
      | removed _ primary member =>
        refine ⟨⟨admin, primary⟩, ?_⟩
        rintro ⟨held, stored, rfl | member'⟩
        · exact book.apart _ stored member
        · exact book.distinct.not_mem_erase member'

/-- Over every run the primary admin is no co-admin and no co-admin is listed twice, the primary
changes only by an uncancelled nomination that its successor accepts, and whoever is replaced or
removed stays out until added or made primary again. -/
theorem escrow_adminSafety (host : Host) (ledger : host.Ledger) (inputs : List (Input host)) :
    (∀ primary, (Run.final (step host) (deployed ledger) inputs).storage.admin = some primary →
      primary ∉ (Run.final (step host) (deployed ledger) inputs).storage.adminList.getD []) ∧
    ((Run.final (step host) (deployed ledger) inputs).storage.adminList.getD []).Nodup ∧
    (∀ newer receipt older,
      Run.history (step host) (deployed ledger) inputs = newer ++ receipt :: older →
        ∀ primary, receipt.before.storage.admin = some primary →
          receipt.after.storage.admin = some primary ∨
            ∃ successor, receipt.after.storage.admin = some successor ∧
              Handover older receipt primary successor) ∧
    ∀ newer receipt older,
      Run.history (step host) (deployed ledger) inputs = newer ++ receipt :: older →
        ∀ address, Ousts address receipt → (∀ later ∈ newer, ¬ Reinstates address later) →
          isAdmin (Run.final (step host) (deployed ledger) inputs).storage address = false := by
  have book := history_adminBook ledger inputs
  refine ⟨book.apart, book.distinct, ?_, ?_⟩
  · intro newer receipt older cut primary before
    obtain ⟨earlier, input, rfl, rfl⟩ := Run.history_cut _ _ cut
    exact receipt_handover (observe_governed _ input) (history_adminBook ledger earlier) before
  · intro newer receipt older cut address ousts outside
    obtain ⟨later, earlier, rfl, start, rfl⟩ := Run.history_eq_append _ _ cut
    cases earlier with
    | nil => cases start
    | cons input earlier =>
      cases start
      have ousted := receipt_ousts (observe_governed _ input) (history_adminBook ledger earlier) ousts
      have stays := final_ousted ousted later outside
      rw [Run.final_append, Bool.eq_false_iff, ne_eq, isAdmin_iff]
      exact stays.apart

end Delego.Escrow
