import Delego.Payments.Idempotency
import Delego.Wallet.Memo

set_option autoImplicit false

namespace Delego.Payments

open Shared Shared.Text Delego.Wallet

def FitsMemo (body : Json) : Operation → Prop
  | .deposit => ∀ orderId, readField body "orderId" = .ok (some (.string orderId)) →
      (trim orderId).utf8ByteSize ≤ 3 ∧ hasControl (trim orderId) = false
  | .release escrowId => (trim escrowId).utf8ByteSize ≤ 13
  | .refund escrowId => (trim escrowId).utf8ByteSize ≤ 14

variable {escrowContractId : Option String} {body : Json} {escrowId : String}

theorem composed_memo_valid {mark id : String} (words : ' ' ∈ mark.toList)
    (visible : ∃ c rest, mark.toList = c :: rest ∧ isSpace c = false) (plain : hasControl mark = false)
    (clean : trim id = id) (nonempty : id ≠ "") :
    (validateMemo (.string (mark ++ id))).valid = true ↔
      hasControl id = false ∧ mark.utf8ByteSize + id.utf8ByteSize ≤ memoTextMaxBytes := by
  have spaced : ' ' ∈ (mark ++ id).toList := by
    rw [String.toList_append]
    exact List.mem_append_left _ words
  have whole : trim (mark ++ id) = mark ++ id := by
    obtain ⟨c, rest, chars, visible⟩ := visible
    have closed : trimmed id.toList = id.toList := by
      have trimmedId := congrArg String.toList clean
      rwa [trim, String.toList_ofList] at trimmedId
    rw [trim, String.toList_append, chars, trimmed_append visible closed ?_, ← chars,
      ← String.toList_append, String.ofList_toList]
    intro empty
    exact nonempty (String.toList_eq_nil_iff.mp empty)
  have control : hasControl (mark ++ id) = hasControl id := by
    unfold hasControl at plain ⊢
    rw [String.toList_append, List.any_append, plain, Bool.false_or]
  rw [validateMemo_spaced spaced whole, control, String.utf8ByteSize_append]

-- The id of an accepted settlement is a number as it was written.
theorem requireEscrowId_text {value : String} (accepted : requireEscrowId escrowId = .ok value) :
    value = trim escrowId ∧ value ≠ "" ∧ hasControl value = false := by
  unfold requireEscrowId at accepted
  by_cases blank : trim escrowId = ""
  · simp [blank] at accepted
  · cases read : Number.ofText (trim escrowId) with
    | nan | infinite negative => simp [blank, read, Number.isInteger] at accepted
    | finite number =>
      simp only [blank, if_false] at accepted
      split at accepted
      · cases accepted
      · cases accepted
        refine ⟨rfl, blank, List.any_eq_false.mpr ?_⟩
        intro c member control
        rw [← trim_trim] at member
        obtain ⟨above, below⟩ := Number.ofText_visible read c member
        simp only [isControl, Bool.or_eq_true, decide_eq_true_eq] at control
        omega

theorem validateSettleRequest_escrowId {params : SettleEscrowParams}
    (accepted : validateSettleRequest body escrowId = .ok params) :
    params.escrowId = trim escrowId ∧ params.escrowId ≠ "" ∧ hasControl params.escrowId = false := by
  unfold validateSettleRequest at accepted
  cases source : requireStellarAddress body "sourceAddress" with
  | error thrown => simp [source, bind, Except.bind] at accepted
  | ok sourceAddress =>
    cases id : requireEscrowId escrowId with
    | error thrown => simp [source, id, bind, Except.bind] at accepted
    | ok value =>
      simp only [source, id, bind, Except.bind, Except.ok.injEq] at accepted
      subst accepted
      exact requireEscrowId_text id

theorem validateDepositRequest_orderId {params : DepositEscrowParams}
    (accepted : validateDepositRequest body = .ok params) :
    (∃ orderId, readField body "orderId" = .ok (some (.string orderId)) ∧ trim orderId ≠ "" ∧
      params.orderId = some (trim orderId)) ∨
    (∀ orderId, readField body "orderId" ≠ .ok (some (.string orderId))) ∧ params.orderId = none := by
  unfold validateDepositRequest at accepted
  cases source : requireStellarAddress body "sourceAddress" with
  | error thrown => simp [source, bind, Except.bind] at accepted
  | ok sourceAddress =>
    cases buyer : requireStellarAddress body "buyerAddress" with
    | error thrown => simp [source, buyer, bind, Except.bind] at accepted
    | ok buyerAddress =>
      cases seller : requireStellarAddress body "sellerAddress" with
      | error thrown => simp [source, buyer, seller, bind, Except.bind] at accepted
      | ok sellerAddress =>
        simp only [source, buyer, seller, bind, Except.bind] at accepted
        cases order : readField body "orderId" with
        | error thrown => simp [order] at accepted
        | ok value =>
          simp only [order] at accepted
          split at accepted
          · cases accepted
            exact .inr ⟨nofun, rfl⟩
          · cases accepted
            exact .inr ⟨nofun, rfl⟩
          · next orderId =>
            split at accepted
            · cases accepted
            · next stated =>
              cases accepted
              exact .inl ⟨orderId, rfl, stated, rfl⟩
          · cases accepted

theorem settle_memo_valid {params : SettleEscrowParams} {mark : String} (room : Nat)
    (accepted : validateSettleRequest body escrowId = .ok params) (words : ' ' ∈ mark.toList)
    (visible : ∃ c rest, mark.toList = c :: rest ∧ isSpace c = false) (plain : hasControl mark = false)
    (size : mark.utf8ByteSize + room = memoTextMaxBytes) :
    (validateMemo (.string (mark ++ params.escrowId))).valid = true ↔
      (trim escrowId).utf8ByteSize ≤ room := by
  obtain ⟨same, stated, clean⟩ := validateSettleRequest_escrowId accepted
  rw [composed_memo_valid words visible plain (by rw [same, trim_trim]) stated, clean, same]
  constructor
  · rintro ⟨_, short⟩
    omega
  · intro short
    exact ⟨rfl, by omega⟩

theorem depositCall_memo {params : DepositEscrowParams} {call : TransactionRequest}
    (called : depositCall escrowContractId params = .ok call) :
    call.memo = match params.orderId with
      | some orderId => "Deposit escrow for order " ++ orderId
      | none => "Deposit escrow funds" := by
  unfold depositCall at called
  cases contract : getEscrowContractId escrowContractId with
  | error message => simp [contract, bind, Except.bind] at called
  | ok contractId =>
    simp only [contract, bind, Except.bind, Except.ok.injEq] at called
    subst called
    rfl

theorem releaseCall_memo {params : SettleEscrowParams} {call : TransactionRequest}
    (called : releaseCall escrowContractId params = .ok call) :
    call.memo = "Release escrow " ++ params.escrowId := by
  unfold releaseCall at called
  cases contract : getEscrowContractId escrowContractId with
  | error message => simp [contract, bind, Except.bind] at called
  | ok contractId =>
    cases parsed : parseEscrowId params.escrowId with
    | error message => simp [contract, parsed, bind, Except.bind] at called
    | ok id =>
      simp only [contract, parsed, bind, Except.bind, Except.ok.injEq] at called
      rw [← called]

theorem refundCall_memo {params : SettleEscrowParams} {call : TransactionRequest}
    (called : refundCall escrowContractId params = .ok call) :
    call.memo = "Refund escrow " ++ params.escrowId := by
  unfold refundCall at called
  cases contract : getEscrowContractId escrowContractId with
  | error message => simp [contract, bind, Except.bind] at called
  | ok contractId =>
    cases parsed : parseEscrowId params.escrowId with
    | error message => simp [contract, parsed, bind, Except.bind] at called
    | ok id =>
      simp only [contract, parsed, bind, Except.bind, Except.ok.injEq] at called
      rw [← called]

theorem deposit_memo_valid {params : DepositEscrowParams}
    (accepted : validateDepositRequest body = .ok params) :
    (validateMemo (.string (match params.orderId with
      | some orderId => "Deposit escrow for order " ++ orderId
      | none => "Deposit escrow funds"))).valid = true ↔ FitsMemo body .deposit := by
  rcases validateDepositRequest_orderId accepted with ⟨orderId, given, stated, order⟩ | ⟨absent, order⟩
  · have valid : (validateMemo (.string ("Deposit escrow for order " ++ trim orderId))).valid = true ↔ _ :=
      composed_memo_valid (by decide) ⟨'D', _, rfl, rfl⟩ (by decide +kernel) (trim_trim orderId) stated
    have size : "Deposit escrow for order ".utf8ByteSize = 25 := rfl
    rw [order, valid, size, memoTextMaxBytes]
    constructor
    · rintro ⟨clean, short⟩ other same
      rw [given] at same
      cases same
      exact ⟨by omega, clean⟩
    · intro fits
      obtain ⟨short, clean⟩ := fits orderId given
      exact ⟨clean, by omega⟩
  · rw [order]
    have funds : (validateMemo (.string "Deposit escrow funds")).valid = true := by decide +kernel
    exact iff_of_true funds fun orderId given => absurd given (absent orderId)

/-- The memo of an accepted request is valid exactly when it has room for the id that it is made of,
and no control characters come with that. -/
theorem memo_valid_iff (escrowContractId : Option String) (body : Json) (operation : Operation)
    (planned : Plan) (call : TransactionRequest)
    (validated : plan escrowContractId body operation = .ok planned) (called : planned.call = .ok call) :
    (validateMemo (.string call.memo)).valid = true ↔ FitsMemo body operation := by
  cases operation with
  | deposit =>
    cases accepted : validateDepositRequest body with
    | error thrown => simp [plan, accepted, bind, Except.bind] at validated
    | ok params =>
      simp only [plan, accepted, bind, Except.bind, Except.ok.injEq] at validated
      subst validated
      rw [depositCall_memo called]
      exact deposit_memo_valid accepted
  | release escrowId =>
    cases accepted : validateReleaseRequest body escrowId with
    | error thrown => simp [plan, accepted, bind, Except.bind] at validated
    | ok params =>
      simp only [plan, accepted, bind, Except.bind, Except.ok.injEq] at validated
      subst validated
      rw [releaseCall_memo called]
      exact settle_memo_valid 13 accepted (by decide) ⟨'R', _, rfl, rfl⟩ (by decide +kernel) rfl
  | refund escrowId =>
    cases accepted : validateRefundRequest body escrowId with
    | error thrown => simp [plan, accepted, bind, Except.bind] at validated
    | ok params =>
      simp only [plan, accepted, bind, Except.bind, Except.ok.injEq] at validated
      subst validated
      rw [refundCall_memo called]
      exact settle_memo_valid 14 accepted (by decide) ⟨'R', _, rfl, rfl⟩ (by decide +kernel) rfl

def depositOf (orderId : String) : Json :=
  .object
    [ ("sourceAddress", .string sampleAddress), ("buyerAddress", .string sampleAddress),
      ("sellerAddress", .string sampleAddress), ("orderId", .string orderId) ]

def depositPlan (orderId : String) : Plan where
  call := depositCall (some sampleContractId) ⟨sampleAddress, sampleAddress, sampleAddress, some orderId⟩
  escrowId := none

theorem memo_valid_iff_order_42 : FitsMemo (depositOf "42") .deposit := by
  refine (memo_valid_iff (some sampleContractId) (depositOf "42") .deposit (depositPlan "42") _ ?_ rfl).mp ?_
  · rfl
  · decide +kernel

/-- The memo of a deposit for an order with a longer id is refused by the wallet service. -/
theorem long_order_memo_refused :
    ¬ ∀ planned call, plan (some sampleContractId) (depositOf "order-1001") .deposit = .ok planned →
      planned.call = .ok call → (validateMemo (.string call.memo)).valid = true := by
  intro valid
  have accepted : plan (some sampleContractId) (depositOf "order-1001") .deposit =
      .ok (depositPlan "order-1001") := rfl
  have refused := valid _ _ accepted rfl
  revert refused
  decide +kernel

end Delego.Payments
