import Delego.Escrow.Invariant

set_option autoImplicit false

namespace Delego.Escrow

open Shared Soroban

variable {host : Host}

structure VoteCast (receipt : EscrowReceipt host) (escrowId : U64) (vote : DisputeVote) : Prop where
  done : ∃ env value log, vote.arbiter ∈ env.signers ∧ accepted receipt =
    some (⟨env, .voteDispute escrowId vote.arbiter vote.releaseToSeller⟩, value, log)
  entitled : ∃ config, receipt.before.storage.quorumConfig = some config ∧
    vote.arbiter ∈ config.arbiters

def Voted (past : List (EscrowReceipt host)) (escrowId : U64) (vote : DisputeVote) : Prop :=
  ∃ receipt ∈ past, VoteCast receipt escrowId vote

def Quorum (past : List (EscrowReceipt host)) (s : Storage) (escrowId : U64) (toSeller : Bool) : Prop :=
  ∃ config voters, s.quorumConfig = some config ∧ List.Nodup voters ∧
    0 < config.threshold.toInt ∧ config.threshold.toInt ≤ voters.length ∧
    ∀ arbiter ∈ voters, arbiter ∈ config.arbiters ∧ Voted past escrowId ⟨arbiter, toSeller⟩

inductive Authorized (past : List (EscrowReceipt host)) (env : Env) (s : Storage) (escrowId : U64)
    (record : EscrowRecord) : Bool → Call → Prop
  | release {caller : Address} (signed : caller ∈ env.signers)
      (entitled : caller = record.buyer ∨ isAdmin s caller = true) :
      Authorized past env s escrowId record true (.release escrowId caller)
  | refund {caller : Address} (signed : caller ∈ env.signers)
      (entitled : caller = record.seller ∨ isAdmin s caller = true ∨
        (caller = record.buyer ∧ record.timeoutLedger.toInt ≤ env.sequence.toInt)) :
      Authorized past env s escrowId record false (.refund escrowId caller)
  | resolved {caller : Address} {toSeller : Bool} (signed : caller ∈ env.signers)
      (disputed : record.status = .disputed) (entitled : isAdmin s caller = true) :
      Authorized past env s escrowId record toSeller (.resolveDispute escrowId caller toSeller)
  | quorum {caller : Address} {toSeller : Bool} (disputed : record.status = .disputed)
      (decided : Quorum past s escrowId toSeller) :
      Authorized past env s escrowId record toSeller (.resolveDisputeQuorum escrowId caller)

def closedAs (toSeller : Bool) : EscrowStatus := if toSeller then .released else .refunded

structure Closes (receipt : EscrowReceipt host) (escrowId : U64) (record : EscrowRecord)
    (toSeller : Bool) : Prop where
  found : receipt.before.storage.escrow escrowId = some record
  live : record.status.live = true
  closed : receipt.after.storage.escrow escrowId = some { record with status := closedAs toSeller }

structure VoteBook (past : List (EscrowReceipt host)) (s : Storage) : Prop where
  threshold : ∀ config, s.quorumConfig = some config → 0 < config.threshold.toInt
  once : ∀ escrowId, ((getDisputeVotes s escrowId).map DisputeVote.arbiter).Nodup
  cast : ∀ escrowId, ∀ vote ∈ getDisputeVotes s escrowId, Voted past escrowId vote

theorem deployed_voteBook (ledger : host.Ledger) :
    VoteBook ([] : List (EscrowReceipt host)) (deployed ledger).storage where
  threshold := by simp [deployed, Storage.empty]
  once := by simp [deployed, Storage.empty, getDisputeVotes]
  cast := by simp [deployed, Storage.empty, getDisputeVotes]

theorem Voted.extend {past : List (EscrowReceipt host)} {receipt : EscrowReceipt host}
    {escrowId : U64} {vote : DisputeVote} (voted : Voted past escrowId vote) :
    Voted (receipt :: past) escrowId vote := by
  obtain ⟨earlier, member, cast⟩ := voted
  exact ⟨earlier, List.mem_cons_of_mem _ member, cast⟩

theorem voteBook_unchanged {past : List (EscrowReceipt host)} {receipt : EscrowReceipt host}
    {s s' : Storage} (book : VoteBook past s) (votes : s'.disputeVotes = s.disputeVotes)
    (threshold : ∀ config, s'.quorumConfig = some config → 0 < config.threshold.toInt) :
    VoteBook (receipt :: past) s' where
  threshold := threshold
  once escrowId := by
    rw [getDisputeVotes, votes]
    exact book.once escrowId
  cast escrowId vote member := by
    rw [getDisputeVotes, votes] at member
    exact (book.cast escrowId vote member).extend

theorem getDisputeVotes_update {s : Storage} {escrowId : U64} {votes : List DisputeVote}
    (other : U64) :
    getDisputeVotes { s with disputeVotes := Function.update s.disputeVotes escrowId (some votes) }
        other =
      if other = escrowId then votes else getDisputeVotes s other := by
  by_cases same : other = escrowId
  · simp [getDisputeVotes, same]
  · simp [getDisputeVotes, same]

theorem voteBook_voted {past : List (EscrowReceipt host)} {receipt : EscrowReceipt host}
    {s : Storage} {escrowId : U64} {vote : DisputeVote} (book : VoteBook past s)
    (first : ∀ earlier ∈ getDisputeVotes s escrowId, earlier.arbiter ≠ vote.arbiter)
    (cast : VoteCast receipt escrowId vote) :
    VoteBook (receipt :: past)
      { s with
        disputeVotes := Function.update s.disputeVotes escrowId
          (some (getDisputeVotes s escrowId ++ [vote])) } where
  threshold := book.threshold
  once other := by
    rw [getDisputeVotes_update]
    split
    · rw [List.map_append, List.nodup_append]
      refine ⟨book.once escrowId, by simp, ?_⟩
      intro voter earlier arbiter new same
      obtain ⟨held, among, rfl⟩ := List.mem_map.mp earlier
      simp only [List.map_cons, List.map_nil, List.mem_singleton] at new
      exact first held among (same.trans new)
    · exact book.once other
  cast other held among := by
    rw [getDisputeVotes_update] at among
    split at among
    · rename_i same
      subst same
      rcases List.mem_append.mp among with earlier | new
      · exact (book.cast _ held earlier).extend
      · cases List.mem_singleton.mp new
        exact ⟨receipt, List.mem_cons_self .., cast⟩
    · exact (book.cast other held among).extend

theorem receipt_voteBook {past : List (EscrowReceipt host)} {receipt : EscrowReceipt host}
    (observed : Observed host receipt) (book : VoteBook past receipt.before.storage) :
    VoteBook (receipt :: past) receipt.after.storage := by
  cases observed with
  | failed | elsewhere => exact voteBook_unchanged book rfl book.threshold
  | @accepted before _ _ _ _ _ transition =>
    cases transition with
    | initialized | deposited | disputed | released | refunded =>
      exact voteBook_unchanged book rfl book.threshold
    | configured _ _ _ votes _ quorum =>
      refine voteBook_unchanged book votes ?_
      rcases quorum with kept | ⟨_, _, threshold, _, _, _, nonzero, set⟩
      · dsimp only
        rw [kept]
        exact book.threshold
      · intro config configured
        cases set.symm.trans configured
        have := threshold.lower
        dsimp only
        omega
    | voted signed configured member _ _ first =>
      apply voteBook_voted book
      · exact first
      · exact ⟨⟨_, _, _, signed, rfl⟩, _, configured, member⟩

theorem history_voteBook (ledger : host.Ledger) (inputs : List (Input host)) :
    VoteBook (Run.history (step host) (deployed ledger) inputs)
      (Run.final (step host) (deployed ledger) inputs).storage := by
  apply Run.invariant (step host) (deployed ledger) fun past chain => VoteBook past chain.storage
  · exact deployed_voteBook ledger
  · intro past chain input book
    exact receipt_voteBook (observe_observed chain input) book

theorem quorumOutcome_votes {config : QuorumConfig} {votes : List DisputeVote} {side : Bool}
    (decided : quorumOutcome config votes = .ok side) :
    config.threshold.toInt ≤ countVotes config votes side := by
  simp only [quorumOutcome] at decided
  split at decided
  · cases decided
  · split at decided
    · cases decided
      assumption
    · split at decided
      · cases decided
        assumption
      · cases decided

theorem VoteBook.quorum_of_votes {past : List (EscrowReceipt host)} {s : Storage}
    {config : QuorumConfig} {escrowId : U64} {side : Bool} (book : VoteBook past s)
    (configured : s.quorumConfig = some config)
    (enough : config.threshold.toInt ≤ countVotes config (getDisputeVotes s escrowId) side) :
    Quorum past s escrowId side := by
  let counted := (getDisputeVotes s escrowId).filter fun vote =>
    vote.releaseToSeller = side ∧ vote.arbiter ∈ config.arbiters
  refine ⟨config, counted.map DisputeVote.arbiter, configured, ?_, book.threshold _ configured, ?_, ?_⟩
  · exact (book.once escrowId).sublist (List.filter_sublist.map _)
  · rw [List.length_map, ← List.countP_eq_length_filter]
    exact enough
  · intro arbiter voter
    obtain ⟨vote, among, rfl⟩ := List.mem_map.mp voter
    obtain ⟨cast, valid⟩ := List.mem_filter.mp among
    obtain ⟨same, member⟩ := of_decide_eq_true valid
    have voted := book.cast escrowId vote cast
    rw [← same]
    exact ⟨member, voted⟩

theorem VoteBook.quorum {past : List (EscrowReceipt host)} {s : Storage} {config : QuorumConfig}
    {escrowId : U64} {side : Bool} (book : VoteBook past s) (configured : s.quorumConfig = some config)
    (decided : quorumOutcome config (getDisputeVotes s escrowId) = .ok side) :
    Quorum past s escrowId side :=
  book.quorum_of_votes configured (quorumOutcome_votes decided)

theorem ReleaseGrounds.authorized {past : List (EscrowReceipt host)} {env : Env} {s : Storage}
    {escrowId : U64} {record : EscrowRecord} {call : Call} (book : VoteBook past s)
    (grounds : ReleaseGrounds env s escrowId record call) :
    Authorized past env s escrowId record true call := by
  cases grounds with
  | release signed _ entitled => exact .release signed entitled
  | resolved signed disputed entitled => exact .resolved signed disputed entitled
  | quorum _ disputed configured decided => exact .quorum disputed (book.quorum configured decided)

theorem RefundGrounds.authorized {past : List (EscrowReceipt host)} {env : Env} {s : Storage}
    {escrowId : U64} {record : EscrowRecord} {call : Call} (book : VoteBook past s)
    (grounds : RefundGrounds env s escrowId record call) :
    Authorized past env s escrowId record false call := by
  cases grounds with
  | refund signed _ entitled => exact .refund signed entitled
  | resolved signed disputed entitled => exact .resolved signed disputed entitled
  | quorum _ disputed configured decided => exact .quorum disputed (book.quorum configured decided)

theorem closedAs_not_live (toSeller : Bool) : (closedAs toSeller).live = false := by
  cases toSeller <;> rfl

theorem updated_record {book : U64 → Option EscrowRecord} {escrowId id : U64}
    {written record : EscrowRecord}
    (after : Function.update book id (some written) escrowId = some record) :
    book escrowId = some record ∨ (id = escrowId ∧ record = written) := by
  by_cases same : escrowId = id
  · subst same
    rw [Function.update_self] at after
    exact .inr ⟨rfl, (Option.some.inj after).symm⟩
  · rw [Function.update_of_ne same] at after
    exact .inl after

theorem receipt_closed {past : List (EscrowReceipt host)} {receipt : EscrowReceipt host}
    {escrowId : U64} {record : EscrowRecord} {toSeller : Bool} (observed : Observed host receipt)
    (book : VoteBook past receipt.before.storage)
    (after : receipt.after.storage.escrow escrowId = some record)
    (closed : record.status = closedAs toSeller) :
    receipt.before.storage.escrow escrowId = some record ∨
      ∃ held env call, Closes receipt escrowId held toSeller ∧
        record = { held with status := closedAs toSeller } ∧ receipt.input = .call ⟨env, call⟩ ∧
        Authorized past env receipt.before.storage escrowId held toSeller call := by
  cases observed with
  | failed | elsewhere => exact .inl after
  | @accepted _ _ env call _ _ transition =>
    cases transition with
    | initialized | voted => exact .inl after
    | configured _ escrows => exact .inl (escrows ▸ after)
    | deposited | disputed =>
      apply (updated_record after).imp_right
      intro written
      obtain ⟨rfl, rfl⟩ := written
      cases toSeller <;> cases closed
    | @released _ _ _ held _ _ _ _ _ found grounds =>
      apply (updated_record after).imp_right
      intro written
      obtain ⟨rfl, rfl⟩ := written
      cases toSeller with
      | true =>
        exact ⟨held, env, call, ⟨found, grounds.live, after⟩, rfl, rfl, grounds.authorized book⟩
      | false => cases closed
    | @refunded _ _ _ held _ _ found grounds =>
      apply (updated_record after).imp_right
      intro written
      obtain ⟨rfl, rfl⟩ := written
      cases toSeller with
      | true => cases closed
      | false =>
        exact ⟨held, env, call, ⟨found, grounds.live, after⟩, rfl, rfl, grounds.authorized book⟩

theorem receipt_authorized {past : List (EscrowReceipt host)} {receipt : EscrowReceipt host}
    {escrowId : U64} {record : EscrowRecord} {toSeller : Bool} (observed : Observed host receipt)
    (book : VoteBook past receipt.before.storage)
    (closing : Closes receipt escrowId record toSeller) :
    ∃ env call, receipt.input = .call ⟨env, call⟩ ∧
      Authorized past env receipt.before.storage escrowId record toSeller call := by
  rcases receipt_closed observed book closing.closed rfl with
    same | ⟨held, env, call, closes, _, input, authorized⟩
  · have status := congrArg EscrowRecord.status (Option.some.inj (closing.found.symm.trans same))
    have live := closing.live
    rw [status, closedAs_not_live] at live
    cases live
  · cases closes.found.symm.trans closing.found
    exact ⟨env, call, input, authorized⟩

/-- Nobody who signed the step was an admin or a configured arbiter when it was taken. -/
def Unprivileged (receipt : EscrowReceipt host) : Prop :=
  ∀ signer ∈ receipt.input.signers, isAdmin receipt.before.storage signer = false ∧
    ∀ config, receipt.before.storage.quorumConfig = some config → signer ∉ config.arbiters

theorem accepted_input {receipt : EscrowReceipt host} {invocation : Invocation Call} {value : Value}
    {log : List EscrowEvent} (done : accepted receipt = some (invocation, value, log)) :
    receipt.input = .call invocation := by
  unfold accepted at done
  split at done
  · cases done
    assumption
  · cases done

theorem Quorum.privileged {past : List (EscrowReceipt host)} {s : Storage} {escrowId : U64}
    {toSeller : Bool} (quorum : Quorum past s escrowId toSeller) :
    ∃ receipt ∈ past, ¬ Unprivileged receipt := by
  obtain ⟨config, voters, _, _, positive, enough, voted⟩ := quorum
  cases voters with
  | nil =>
    rw [List.length_nil] at enough
    omega
  | cons arbiter rest =>
    obtain ⟨_, receipt, member, cast⟩ := voted arbiter (List.mem_cons_self ..)
    obtain ⟨env, value, log, signed, done⟩ := cast.done
    obtain ⟨active, configured, entitled⟩ := cast.entitled
    refine ⟨receipt, member, fun unprivileged => ?_⟩
    have signer : arbiter ∈ receipt.input.signers := by
      rw [accepted_input done]
      exact signed
    exact (unprivileged arbiter signer).2 active configured entitled

theorem Authorized.unprivileged {past : List (EscrowReceipt host)} {receipt : EscrowReceipt host}
    {env : Env} {escrowId : U64} {record : EscrowRecord} {toSeller : Bool} {call : Call}
    (authorized : Authorized past env receipt.before.storage escrowId record toSeller call)
    (input : receipt.input = .call ⟨env, call⟩) (here : Unprivileged receipt)
    (before : ∀ receipt ∈ past, Unprivileged receipt) :
    if toSeller then record.buyer ∈ env.signers
    else record.seller ∈ env.signers ∨
      (record.buyer ∈ env.signers ∧ record.timeoutLedger.toInt ≤ env.sequence.toInt) := by
  have powerless (signer : Address) (signed : signer ∈ env.signers) :
      isAdmin receipt.before.storage signer = false := by
    refine (here signer ?_).1
    rw [input]
    exact signed
  cases authorized with
  | release signed entitled =>
    rcases entitled with rfl | admin
    · exact signed
    · cases admin.symm.trans (powerless _ signed)
  | refund signed entitled =>
    rcases entitled with rfl | admin | ⟨rfl, late⟩
    · exact .inl signed
    · cases admin.symm.trans (powerless _ signed)
    · exact .inr ⟨signed, late⟩
  | resolved signed _ admin => cases admin.symm.trans (powerless _ signed)
  | quorum _ decided =>
    obtain ⟨earlier, member, privileged⟩ := decided.privileged
    exact absurd (before earlier member) privileged

theorem history_cut {ledger : host.Ledger} {inputs : List (Input host)}
    {later earlier : List (EscrowReceipt host)} {receipt : EscrowReceipt host}
    (cut : Run.history (step host) (deployed ledger) inputs = later ++ receipt :: earlier) :
    Observed host receipt ∧ VoteBook earlier receipt.before.storage := by
  obtain ⟨older, input, rfl, rfl⟩ := Run.history_cut _ _ cut
  exact ⟨observe_observed _ input, history_voteBook ledger older⟩

theorem history_closed (ledger : host.Ledger) (inputs : List (Input host)) {escrowId : U64}
    {record : EscrowRecord} {toSeller : Bool}
    (found : (Run.final (step host) (deployed ledger) inputs).storage.escrow escrowId = some record)
    (closed : record.status = closedAs toSeller) :
    ∃ later receipt earlier held,
      Run.history (step host) (deployed ledger) inputs = later ++ receipt :: earlier ∧
        Closes receipt escrowId held toSeller ∧ record = { held with status := closedAs toSeller } := by
  induction inputs with
  | nil => simp [Run.final, deployed, Storage.empty] at found
  | cons input older ih =>
    have observed := observe_observed (Run.final (step host) (deployed ledger) older) input
    rcases receipt_closed observed (history_voteBook ledger older) found closed with
      before | ⟨held, _, _, closes, same, _⟩
    · obtain ⟨later, receipt, earlier, held, cut, closes, same⟩ := ih before
      exact ⟨_ :: later, receipt, earlier, held, congrArg _ cut, closes, same⟩
    · exact ⟨[], _, _, held, rfl, closes, same⟩

/-- Who can close an escrow: every closed escrow was closed by one step of the run, every such
step was authorized, and without an admin or an arbiter neither party can take the other's money. -/
theorem escrow_authorization (host : Host) (ledger : host.Ledger) (inputs : List (Input host)) :
    (∀ escrowId record toSeller,
      (Run.final (step host) (deployed ledger) inputs).storage.escrow escrowId = some record →
        record.status = closedAs toSeller →
          ∃ later receipt earlier held,
            Run.history (step host) (deployed ledger) inputs = later ++ receipt :: earlier ∧
              Closes receipt escrowId held toSeller ∧
              record = { held with status := closedAs toSeller }) ∧
    (∀ later receipt earlier,
      Run.history (step host) (deployed ledger) inputs = later ++ receipt :: earlier →
        ∀ escrowId record toSeller, Closes receipt escrowId record toSeller →
          ∃ env call, receipt.input = .call ⟨env, call⟩ ∧
            Authorized earlier env receipt.before.storage escrowId record toSeller call) ∧
    ((∀ receipt ∈ Run.history (step host) (deployed ledger) inputs, Unprivileged receipt) →
      ∀ receipt ∈ Run.history (step host) (deployed ledger) inputs,
        ∀ escrowId record toSeller, Closes receipt escrowId record toSeller →
          ∃ env call, receipt.input = .call ⟨env, call⟩ ∧
            if toSeller then
              record.buyer ∈ env.signers ∧ (record.seller ≠ record.buyer →
                ¬ ∀ signer ∈ env.signers, signer = record.seller)
            else
              env.sequence.toInt < record.timeoutLedger.toInt →
                record.seller ∈ env.signers ∧ (record.buyer ≠ record.seller →
                  ¬ ∀ signer ∈ env.signers, signer = record.buyer)) := by
  refine ⟨fun _ _ _ => history_closed ledger inputs, ?_, ?_⟩
  · intro later receipt earlier cut escrowId record toSeller closes
    obtain ⟨observed, book⟩ := history_cut cut
    exact receipt_authorized observed book closes
  · intro unprivileged receipt member escrowId record toSeller closes
    obtain ⟨later, earlier, cut⟩ := List.append_of_mem member
    obtain ⟨observed, book⟩ := history_cut cut
    obtain ⟨env, call, input, authorized⟩ := receipt_authorized observed book closes
    have before (earlierReceipt : EscrowReceipt host) (among : earlierReceipt ∈ earlier) :
        Unprivileged earlierReceipt := by
      apply unprivileged
      rw [cut]
      exact List.mem_append_right _ (List.mem_cons_of_mem _ among)
    have parties := authorized.unprivileged input (unprivileged receipt member) before
    refine ⟨env, call, input, ?_⟩
    cases toSeller with
    | true =>
      refine ⟨parties, fun distinct alone => distinct ?_⟩
      exact (alone _ parties).symm
    | false =>
      intro early
      have signed : record.seller ∈ env.signers := by
        rcases parties with seller | ⟨_, late⟩
        · exact seller
        · omega
      refine ⟨signed, fun distinct alone => distinct ?_⟩
      exact (alone _ signed).symm

end Delego.Escrow
