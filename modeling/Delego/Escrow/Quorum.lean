import Delego.Escrow.Authorization
import Delego.Escrow.Settlement

set_option autoImplicit false

namespace Delego.Escrow

open Shared Soroban Tx

variable {host : Host} {chain : Chain host} {env : Env} {escrowId : U64} {caller : Address}
  {record : EscrowRecord} {config : QuorumConfig} {side : Bool}

def resolution (host : Host) (chain : Chain host) (env : Env) (escrowId : U64) (caller : Address) :
    Except (Fault EscrowError) (Option EscrowStatus) :=
  match step host chain (.call ⟨env, .resolveDisputeQuorum escrowId caller⟩) with
  | (.ok _, after) => .ok ((after.storage.escrow escrowId).map EscrowRecord.status)
  | (.error fault, _) => .error fault

def Payable (chain : Chain host) (record : EscrowRecord) : Bool → Prop
  | true => SellerPayable chain record
  | false => BuyerPayable chain record

theorem closedAs_injective {side other : Bool} (same : closedAs side = closedAs other) :
    side = other := by
  cases side <;> cases other <;> simp_all [closedAs]

theorem settleDispute_status {chain : Chain host} {answer : Bool}
    {after : Frame (Chain host) EscrowEvent}
    (done : (settleDispute escrowId record side caller : EscrowTx host Bool).Yields
      ⟨chain, []⟩ answer after) :
    after.state.storage.escrow escrowId = some { record with status := closedAs side } := by
  obtain ⟨_, _, settled, rfl, rfl⟩ := settleDispute_yields.mp done
  rcases yields_settle.mp settled with ⟨rfl, _, _, _, stored⟩ | ⟨rfl, _, _, stored⟩
  · cases yields_setStatus.mp stored
    simp [closedAs]
  · cases yields_setStatus.mp stored
    simp [closedAs]

theorem settleDispute_succeeds (caller : Address) (formed : WellFormed chain.storage)
    (divisible : Divisible chain.storage) (found : chain.storage.escrow escrowId = some record)
    (payable : Payable chain record side) :
    ∃ answer after, (settleDispute escrowId record side caller : EscrowTx host Bool).Yields
      ⟨chain, []⟩ answer after := by
  simp only [settleDispute_yields, yields_settle]
  cases side with
  | true =>
    obtain ⟨sellerAmount, middle, paid⟩ := payToSeller_succeeds formed divisible found payable
    exact ⟨_, _, (), _, .inl ⟨rfl, sellerAmount, middle, paid, yields_setStatus.mpr rfl⟩, rfl, rfl⟩
  | false =>
    obtain ⟨middle, paid⟩ := payToBuyer_succeeds payable
    exact ⟨_, _, (), _, .inr ⟨rfl, middle, paid, yields_setStatus.mpr rfl⟩, rfl, rfl⟩

theorem settleDispute_payable {answer : Bool} {after : Frame (Chain host) EscrowEvent}
    (done : (settleDispute escrowId record side caller : EscrowTx host Bool).Yields
      ⟨chain, []⟩ answer after) : Payable chain record side := by
  obtain ⟨_, _, settled, rfl, rfl⟩ := settleDispute_yields.mp done
  rcases yields_settle.mp settled with ⟨rfl, _, _, paid, _⟩ | ⟨rfl, _, paid, _⟩
  · obtain ⟨config, fee, configured, charged, difference, ledger, payment, rfl⟩ :=
      yields_payToSeller.mp paid
    -- The fee configuration fixes the fee, and the fee what is left of the amount.
    intro other share sellerAmount present divided rest
    cases configured.symm.trans present
    cases charged.symm.trans divided
    cases MachineInt.ext (rest.trans difference.symm)
    exact ⟨ledger, payment⟩
  · obtain ⟨ledger, payment, rfl⟩ := yields_payToBuyer.mp paid
    exact ⟨ledger, payment⟩

theorem resolution_eq_ok {status : Option EscrowStatus} :
    resolution host chain env escrowId caller = .ok status ↔
      ∃ answer after, (resolveDisputeQuorum env escrowId caller : EscrowTx host Bool).Yields
        ⟨chain, []⟩ answer after ∧
          status = (after.state.storage.escrow escrowId).map EscrowRecord.status := by
  constructor
  · intro resolved
    unfold resolution at resolved
    split at resolved
    · rename_i result after done
      cases resolved
      obtain ⟨answer, yields, _⟩ := yields_map.mp (invoke_eq_ok.mp done)
      exact ⟨answer, _, yields, rfl⟩
    · cases resolved
  · intro done
    obtain ⟨answer, after, yields, rfl⟩ := done
    have performed := yields_map.mpr ⟨answer, yields, Eq.refl (Value.flag answer)⟩
    have stepped : step host chain (.call ⟨env, .resolveDisputeQuorum escrowId caller⟩) =
        (.ok (.flag answer, after.log), after.state) := invoke_eq_ok.mpr performed
    simp only [resolution, stepped]

theorem resolution_eq_error {fault : Fault EscrowError} :
    resolution host chain env escrowId caller = .error fault ↔
      (resolveDisputeQuorum env escrowId caller : EscrowTx host Bool).Fails ⟨chain, []⟩ fault := by
  rw [← fails_map (f := Value.flag), ← invoke_fails]
  unfold resolution
  split
  · rename_i done
    have returned := congrArg Prod.fst done
    simp only [step, perform] at returned
    simp [returned]
  · rename_i done
    have failed := congrArg Prod.fst done
    simp only [step, perform] at failed
    simp [failed]

theorem resolution_counted (formed : WellFormed chain.storage) (divisible : Divisible chain.storage)
    (signed : caller ∈ env.signers) (found : chain.storage.escrow escrowId = some record)
    (disputed : record.status = .disputed) (configured : chain.storage.quorumConfig = some config)
    (payable : ∀ side,
      quorumOutcome config (getDisputeVotes chain.storage escrowId) = .ok side →
        Payable chain record side) :
    resolution host chain env escrowId caller =
      match quorumOutcome config (getDisputeVotes chain.storage escrowId) with
      | .ok side => .ok (some (closedAs side))
      | .error e => .error (.error e) := by
  cases counted : quorumOutcome config (getDisputeVotes chain.storage escrowId) with
  | ok side =>
    obtain ⟨answer, after, done⟩ := settleDispute_succeeds caller formed divisible found
      (payable side counted)
    apply resolution_eq_ok.mpr
    refine ⟨answer, after, resolveDisputeQuorum_yields.mpr ?_, ?_⟩
    · exact ⟨signed, record, found, disputed, config, configured, side, counted, done⟩
    · rw [settleDispute_status done, Option.map_some]
  | error e =>
    apply resolution_eq_error.mpr
    simp [resolveDisputeQuorum, Address.requireAuth, signed, found, disputed, configured, counted]

theorem quorumOutcome_eq_ok {votes : List DisputeVote} : quorumOutcome config votes = .ok side ↔
    config.threshold.toInt ≤ countVotes config votes side ∧
      ¬ config.threshold.toInt ≤ countVotes config votes (!side) := by
  unfold quorumOutcome
  by_cases seller : config.threshold.toInt ≤ countVotes config votes true
  · by_cases buyer : config.threshold.toInt ≤ countVotes config votes false
    · cases side <;> simp [seller, buyer]
    · cases side <;> simp [seller, buyer]
  · by_cases buyer : config.threshold.toInt ≤ countVotes config votes false
    · cases side <;> simp [seller, buyer]
    · cases side <;> simp [seller, buyer]

theorem quorumOutcome_unordered {votes votes' : List DisputeVote}
    (once : (votes.map DisputeVote.arbiter).Nodup) (once' : (votes'.map DisputeVote.arbiter).Nodup)
    (same : ∀ vote, vote ∈ votes ↔ vote ∈ votes') :
    quorumOutcome config votes = quorumOutcome config votes' := by
  have permuted : votes.Perm votes' :=
    (List.perm_ext_iff_of_nodup (.of_map _ once) (.of_map _ once')).mpr same
  have counts (side : Bool) : countVotes config votes side = countVotes config votes' side :=
    permuted.countP_eq _
  simp only [quorumOutcome, counts]

theorem voteCast_recorded {receipt : EscrowReceipt host} {vote : DisputeVote}
    (observed : Observed host receipt) (cast : VoteCast receipt escrowId vote) :
    (∃ record, receipt.before.storage.escrow escrowId = some record ∧ record.status = .disputed) ∧
      getDisputeVotes receipt.after.storage escrowId =
        getDisputeVotes receipt.before.storage escrowId ++ [vote] := by
  obtain ⟨env, value, log, _, done⟩ := cast.done
  cases observed with
  | failed | elsewhere => cases done
  | accepted transition =>
    cases done
    cases transition with
    | configured _ _ _ _ _ _ noId => cases noId
    | voted _ _ _ found disputed => exact ⟨⟨_, found, disputed⟩, by simp [getDisputeVotes_update]⟩
    | released _ grounds => cases grounds
    | refunded _ grounds => cases grounds

theorem votes_kept {receipt : EscrowReceipt host} (observed : Observed host receipt)
    (escrowId : U64) : getDisputeVotes receipt.before.storage escrowId <+:
      getDisputeVotes receipt.after.storage escrowId := by
  cases observed with
  | failed | elsewhere => exact List.prefix_rfl
  | accepted transition =>
    cases transition with
    | initialized | deposited | disputed | released | refunded => exact List.prefix_rfl
    | configured _ _ _ votes => simp [getDisputeVotes, votes]
    | voted =>
      rw [getDisputeVotes_update]
      split
      · rename_i same
        subst same
        exact List.prefix_append _ _
      · exact List.prefix_rfl

theorem receipt_recorded {past : List (EscrowReceipt host)} {receipt : EscrowReceipt host}
    (observed : Observed host receipt)
    (recorded : ∀ escrowId vote, Voted past escrowId vote →
      vote ∈ getDisputeVotes receipt.before.storage escrowId) (escrowId : U64) (vote : DisputeVote)
    (voted : Voted (receipt :: past) escrowId vote) :
    vote ∈ getDisputeVotes receipt.after.storage escrowId := by
  obtain ⟨entry, member, cast⟩ := voted
  rcases List.mem_cons.mp member with rfl | earlier
  · simp [(voteCast_recorded observed cast).2]
  · exact (votes_kept observed escrowId).subset (recorded escrowId vote ⟨entry, earlier, cast⟩)

theorem history_recorded (ledger : host.Ledger) (inputs : List (Input host)) (escrowId : U64)
    (vote : DisputeVote)
    (voted : Voted (Run.history (step host) (deployed ledger) inputs) escrowId vote) :
    vote ∈ getDisputeVotes (Run.final (step host) (deployed ledger) inputs).storage escrowId := by
  induction inputs generalizing escrowId vote with
  | nil =>
    obtain ⟨receipt, member, _⟩ := voted
    cases member
  | cons input earlier ih => exact receipt_recorded (observe_observed _ input) ih escrowId vote voted

theorem quorum_iff_votes {past : List (EscrowReceipt host)} {s : Storage} (book : VoteBook past s)
    (recorded : ∀ vote, Voted past escrowId vote → vote ∈ getDisputeVotes s escrowId)
    (configured : s.quorumConfig = some config) :
    Quorum past s escrowId side ↔
      config.threshold.toInt ≤ countVotes config (getDisputeVotes s escrowId) side := by
  constructor
  · intro quorum
    obtain ⟨active, voters, present, distinct, _, enough, voted⟩ := quorum
    cases configured.symm.trans present
    -- Every such voter is the arbiter of one of the counted votes.
    have counted : voters ⊆ ((getDisputeVotes s escrowId).filter fun vote =>
        vote.releaseToSeller = side ∧ vote.arbiter ∈ config.arbiters).map DisputeVote.arbiter := by
      intro arbiter voter
      have valid := voted arbiter voter
      apply List.mem_map.mpr
      exact ⟨⟨arbiter, side⟩, by simp [recorded _ valid.2, valid.1], rfl⟩
    have bound := (distinct.subperm counted).length_le
    rw [List.length_map, ← List.countP_eq_length_filter] at bound
    unfold countVotes
    omega
  · exact book.quorum_of_votes configured

structure Resolvable (chain : Chain host) (env : Env) (escrowId : U64) (caller : Address)
    (config : QuorumConfig) : Prop where
  signed : caller ∈ env.signers
  configured : chain.storage.quorumConfig = some config
  disputed : ∃ record, chain.storage.escrow escrowId = some record ∧ record.status = .disputed ∧
    ∀ side, Payable chain record side

theorem Resolvable.counted (resolvable : Resolvable chain env escrowId caller config)
    (formed : WellFormed chain.storage) (divisible : Divisible chain.storage) :
    resolution host chain env escrowId caller =
      match quorumOutcome config (getDisputeVotes chain.storage escrowId) with
      | .ok side => .ok (some (closedAs side))
      | .error e => .error (.error e) := by
  obtain ⟨record, found, disputed, payable⟩ := resolvable.disputed
  exact resolution_counted formed divisible resolvable.signed found disputed resolvable.configured
    fun side _ => payable side

/-- Votes are cast once, on a disputed escrow, by an arbiter of the time; an escrow is resolved to
a side exactly when the current arbiters make a quorum for it and none for the other; and the order
of the votes is of no account. -/
theorem escrow_quorum (host : Host) (ledger : host.Ledger) (inputs : List (Input host)) :
    (∀ escrowId,
      ((getDisputeVotes (Run.final (step host) (deployed ledger) inputs).storage escrowId).map
        DisputeVote.arbiter).Nodup ∧
      ∀ vote ∈ getDisputeVotes (Run.final (step host) (deployed ledger) inputs).storage escrowId,
        ∃ receipt ∈ Run.history (step host) (deployed ledger) inputs,
          VoteCast receipt escrowId vote ∧
            ∃ record, receipt.before.storage.escrow escrowId = some record ∧
              record.status = .disputed) ∧
    (∀ env escrowId caller config side,
      Resolvable (Run.final (step host) (deployed ledger) inputs) env escrowId caller config →
        (resolution host (Run.final (step host) (deployed ledger) inputs) env escrowId caller =
            .ok (some (closedAs side)) ↔
          Quorum (Run.history (step host) (deployed ledger) inputs)
              (Run.final (step host) (deployed ledger) inputs).storage escrowId side ∧
            ¬ Quorum (Run.history (step host) (deployed ledger) inputs)
              (Run.final (step host) (deployed ledger) inputs).storage escrowId (!side))) ∧
    (∀ (other : host.Ledger) inputs' env env' escrowId caller caller' config,
      Resolvable (Run.final (step host) (deployed ledger) inputs) env escrowId caller config →
        Resolvable (Run.final (step host) (deployed other) inputs') env' escrowId caller' config →
          (∀ vote,
            vote ∈ getDisputeVotes (Run.final (step host) (deployed ledger) inputs).storage escrowId ↔
            vote ∈ getDisputeVotes (Run.final (step host) (deployed other) inputs').storage escrowId) →
            resolution host (Run.final (step host) (deployed ledger) inputs) env escrowId caller =
              resolution host (Run.final (step host) (deployed other) inputs') env' escrowId caller') := by
  have book := history_voteBook ledger inputs
  have formed := final_wellFormed ledger inputs
  have divisible := final_divisible ledger inputs
  refine ⟨?_, ?_, ?_⟩
  · intro escrowId
    refine ⟨book.once escrowId, ?_⟩
    intro vote among
    obtain ⟨receipt, member, cast⟩ := book.cast escrowId vote among
    have observed := Run.history_forall _ _ observe_observed inputs receipt member
    exact ⟨receipt, member, cast, (voteCast_recorded observed cast).1⟩
  · intro env escrowId caller config side resolvable
    have recorded := history_recorded ledger inputs escrowId
    rw [quorum_iff_votes book recorded resolvable.configured,
      quorum_iff_votes book recorded resolvable.configured, ← quorumOutcome_eq_ok,
      resolvable.counted formed divisible]
    split
    · rename_i decided outcome
      rw [outcome, Except.ok.injEq, Except.ok.injEq, Option.some.injEq]
      exact ⟨closedAs_injective, congrArg closedAs⟩
    · rename_i outcome
      simp [outcome]
  · intro other inputs' env env' escrowId caller caller' config here there same
    rw [here.counted formed divisible,
      there.counted (final_wellFormed other inputs') (final_divisible other inputs'),
      quorumOutcome_unordered (book.once escrowId)
        ((history_voteBook other inputs').once escrowId) same]

def sampleDisputed : List (Input sampleHost) :=
  [ sampleCall (.lit 22) (.sample 6) (.voteDispute (.lit 1) (.sample 6) true),
    sampleCall (.lit 21) (.sample 3) (.dispute (.lit 1) (.sample 3)),
    sampleCall (.lit 20) (.sample 1)
      (.setQuorumConfig (.sample 1) [.sample 6, .sample 7] (.lit 1)) ] ++ sampleInputs.drop 1

theorem sampleDisputed_resolvable :
    Resolvable (Run.final (step sampleHost) (deployed sampleLedger) sampleDisputed)
      (sampleEnv (.lit 23) (.sample 3)) (.lit 1) (.sample 3)
      ⟨[.sample 6, .sample 7], .lit 1⟩ where
  signed := by
    decide
  configured := by
    decide
  disputed := by
    refine ⟨{ sampleEscrow with status := .disputed }, by decide, rfl, ?_⟩
    intro side
    cases side with
    | true => exact sampleOpen_sellerPayable
    | false => exact sampleOpen_buyerPayable

theorem escrow_quorum_sample :
    resolution sampleHost (Run.final (step sampleHost) (deployed sampleLedger) sampleDisputed)
        (sampleEnv (.lit 23) (.sample 3)) (.lit 1) (.sample 3) = .ok (some .released) ↔
      Quorum (Run.history (step sampleHost) (deployed sampleLedger) sampleDisputed)
          (Run.final (step sampleHost) (deployed sampleLedger) sampleDisputed).storage (.lit 1) true ∧
        ¬ Quorum (Run.history (step sampleHost) (deployed sampleLedger) sampleDisputed)
          (Run.final (step sampleHost) (deployed sampleLedger) sampleDisputed).storage (.lit 1) false :=
  (escrow_quorum sampleHost sampleLedger sampleDisputed).2.1 (sampleEnv (.lit 23) (.sample 3))
    (.lit 1) (.sample 3) ⟨[.sample 6, .sample 7], .lit 1⟩ true sampleDisputed_resolvable

theorem quorumOutcome_conflict {votes : List DisputeVote}
    (here : config.threshold.toInt ≤ countVotes config votes side)
    (there : config.threshold.toInt ≤ countVotes config votes (!side)) :
    quorumOutcome config votes = .error .conflictingQuorum := by
  unfold quorumOutcome
  cases side with
  | true => exact if_pos ⟨here, there⟩
  | false => exact if_pos ⟨there, here⟩

def currentVotes (config : QuorumConfig) (votes : List DisputeVote) : List DisputeVote :=
  votes.filter fun vote => vote.arbiter ∈ config.arbiters

theorem countVotes_eq (config : QuorumConfig) (votes : List DisputeVote) (side : Bool) :
    countVotes config votes side =
      (currentVotes config votes).countP fun vote => vote.releaseToSeller = side := by
  simp [countVotes, currentVotes, List.countP_filter]

theorem countVotes_sides (config : QuorumConfig) (votes : List DisputeVote) (side : Bool) :
    countVotes config votes side + countVotes config votes (!side) =
      (currentVotes config votes).length := by
  have others : countVotes config votes (!side) =
      (currentVotes config votes).countP fun vote => ¬ vote.releaseToSeller = side := by
    rw [countVotes_eq]
    apply List.countP_congr
    intro vote _
    cases vote.releaseToSeller <;> cases side <;> simp
  rw [others, countVotes_eq]
  simpa using (List.length_eq_countP_add_countP (fun vote => vote.releaseToSeller = side)
    (l := currentVotes config votes)).symm

theorem countVotes_le (config : QuorumConfig) {votes : List DisputeVote} (once : (votes.map DisputeVote.arbiter).Nodup)
    (side : Bool) :
    countVotes config votes side + countVotes config votes (!side) ≤ config.arbiters.length := by
  have distinct : ((currentVotes config votes).map DisputeVote.arbiter).Nodup :=
    once.sublist (List.filter_sublist.map _)
  have members : (currentVotes config votes).map DisputeVote.arbiter ⊆ config.arbiters := by
    intro arbiter voter
    obtain ⟨vote, among, rfl⟩ := List.mem_map.mp voter
    exact of_decide_eq_true (List.mem_filter.mp among).2
  have bound := (distinct.subperm members).length_le
  rw [List.length_map] at bound
  rw [countVotes_sides]
  exact bound

def ballotInput (escrowId : U64) (ballot : Env × DisputeVote) : Input host :=
  .call ⟨ballot.1, .voteDispute escrowId ballot.2.arbiter ballot.2.releaseToSeller⟩

structure Polled (escrowId : U64) (before after : Chain host) : Prop where
  ledger : after.ledger = before.ledger
  escrow : after.storage.escrow = before.storage.escrow
  feeConfig : after.storage.feeConfig = before.storage.feeConfig
  quorumConfig : after.storage.quorumConfig = before.storage.quorumConfig
  votes : getDisputeVotes before.storage escrowId <+: getDisputeVotes after.storage escrowId

theorem receipt_polled {receipt : EscrowReceipt host} (ballot : Env × DisputeVote)
    (observed : Observed host receipt) (voting : receipt.input = ballotInput escrowId ballot) :
    Polled escrowId receipt.before receipt.after := by
  have votes := votes_kept observed escrowId
  cases observed with
  | failed => exact ⟨rfl, rfl, rfl, rfl, votes⟩
  | elsewhere => cases voting
  | accepted transition =>
    cases voting
    cases transition with
    | configured _ _ _ _ _ _ noId => cases noId
    | voted => exact ⟨rfl, rfl, rfl, rfl, votes⟩
    | released _ grounds => cases grounds
    | refunded _ grounds => cases grounds

theorem ballots_polled (chain : Chain host) (escrowId : U64) (ballots : List (Env × DisputeVote)) :
    Polled escrowId chain
      (Run.final (step host) chain (ballots.map (ballotInput escrowId))) := by
  induction ballots with
  | nil => exact ⟨rfl, rfl, rfl, rfl, List.prefix_rfl⟩
  | cons ballot earlier ih =>
    have last := receipt_polled ballot (observe_observed (Run.final (step host) chain
      (earlier.map (ballotInput escrowId))) (ballotInput escrowId ballot)) rfl
    exact
      { ledger := last.ledger.trans ih.ledger
        escrow := last.escrow.trans ih.escrow
        feeConfig := last.feeConfig.trans ih.feeConfig
        quorumConfig := last.quorumConfig.trans ih.quorumConfig
        votes := ih.votes.trans last.votes }

theorem Polled.payable {after : Chain host} (polled : Polled escrowId chain after)
    (payable : Payable chain record side) : Payable after record side := by
  cases side with
  | true =>
    intro config fee sellerAmount configured charged difference
    rw [polled.feeConfig] at configured
    rw [polled.ledger]
    exact payable config fee sellerAmount configured charged difference
  | false =>
    unfold Payable BuyerPayable
    rw [polled.ledger]
    exact payable

theorem Polled.resolution {after : Chain host} {later : Env} {signer : Address}
    (polled : Polled escrowId chain after) (formed : WellFormed after.storage)
    (divisible : Divisible after.storage)
    (resolved : resolution host chain env escrowId caller = .ok (some (closedAs side)))
    (signed : signer ∈ later.signers) :
    ∃ config, chain.storage.quorumConfig = some config ∧ after.storage.quorumConfig = some config ∧
      config.threshold.toInt ≤ countVotes config (getDisputeVotes after.storage escrowId) side ∧
      resolution host after later escrowId signer =
        if config.threshold.toInt ≤
            countVotes config (getDisputeVotes after.storage escrowId) (!side) then
          .error (.error .conflictingQuorum)
        else .ok (some (closedAs side)) := by
  obtain ⟨_, _, done, status⟩ := resolution_eq_ok.mp resolved
  obtain ⟨_, record, found, disputed, config, configured, decided, counted, settled⟩ :=
    resolveDisputeQuorum_yields.mp done
  rw [settleDispute_status settled] at status
  obtain rfl := closedAs_injective (Option.some.inj status)
  have set := polled.quorumConfig.trans configured
  -- The votes of before are all still there, so the side keeps its quorum.
  have standing : config.threshold.toInt ≤
      countVotes config (getDisputeVotes after.storage escrowId) side := by
    have enough : config.threshold.toInt ≤
        countVotes config (getDisputeVotes chain.storage escrowId) side :=
      quorumOutcome_votes counted
    have more : countVotes config (getDisputeVotes chain.storage escrowId) side ≤
        countVotes config (getDisputeVotes after.storage escrowId) side :=
      polled.votes.sublist.countP_le
    omega
  have counts := resolution_counted formed divisible signed
    ((congrFun polled.escrow escrowId).trans found) disputed set
  refine ⟨config, configured, set, standing, ?_⟩
  split
  · rename_i opposed
    have conflict := quorumOutcome_conflict standing opposed
    rw [counts, conflict]
    intro other same
    cases conflict.symm.trans same
  · rename_i minority
    have outcome := quorumOutcome_eq_ok.mpr ⟨standing, minority⟩
    rw [counts, outcome]
    intro other same
    cases outcome.symm.trans same
    exact polled.payable (settleDispute_payable settled)

/-- A quorum once reached is not voted away: whatever is voted later, the escrow is still resolved
to the same side, unless the other side makes a quorum of its own and the call answers with the
conflict; which a strict majority rules out. -/
theorem quorum_stable (host : Host) (ledger : host.Ledger) (inputs : List (Input host)) (env : Env)
    (escrowId : U64) (caller : Address) (side : Bool)
    (resolved : resolution host (Run.final (step host) (deployed ledger) inputs) env escrowId caller =
      .ok (some (closedAs side)))
    (ballots : List (Env × DisputeVote)) (later : Env) (signer : Address)
    (signed : signer ∈ later.signers) :
    (¬ Quorum (Run.history (step host) (deployed ledger) (ballots.map (ballotInput escrowId) ++ inputs))
        (Run.final (step host) (deployed ledger)
          (ballots.map (ballotInput escrowId) ++ inputs)).storage escrowId (!side) →
      resolution host (Run.final (step host) (deployed ledger)
        (ballots.map (ballotInput escrowId) ++ inputs)) later escrowId signer =
          .ok (some (closedAs side))) ∧
    (Quorum (Run.history (step host) (deployed ledger) (ballots.map (ballotInput escrowId) ++ inputs))
        (Run.final (step host) (deployed ledger)
          (ballots.map (ballotInput escrowId) ++ inputs)).storage escrowId (!side) →
      resolution host (Run.final (step host) (deployed ledger)
        (ballots.map (ballotInput escrowId) ++ inputs)) later escrowId signer =
          .error (.error .conflictingQuorum)) ∧
    (∀ config,
      (Run.final (step host) (deployed ledger) inputs).storage.quorumConfig = some config →
        config.arbiters.length < 2 * config.threshold.toInt →
          resolution host (Run.final (step host) (deployed ledger)
            (ballots.map (ballotInput escrowId) ++ inputs)) later escrowId signer =
              .ok (some (closedAs side))) := by
  have polled := ballots_polled (Run.final (step host) (deployed ledger) inputs) escrowId ballots
  rw [← Run.final_append] at polled
  have book := history_voteBook ledger (ballots.map (ballotInput escrowId) ++ inputs)
  have recorded := history_recorded ledger (ballots.map (ballotInput escrowId) ++ inputs) escrowId
  obtain ⟨config, configured, set, standing, outcome⟩ := polled.resolution (final_wellFormed ledger _)
    (final_divisible ledger _) resolved signed
  rw [quorum_iff_votes book recorded set, outcome]
  refine ⟨fun alone => if_neg alone, fun opposed => if_pos opposed, ?_⟩
  intro present stored majority
  cases configured.symm.trans stored
  have shared := countVotes_le config (book.once escrowId) side
  apply if_neg
  omega

-- The second arbiter votes the other way, and nobody can resolve the escrow by quorum any more.
theorem quorum_blocked :
    resolution sampleHost (Run.final (step sampleHost) (deployed sampleLedger) sampleDisputed)
        (sampleEnv (.lit 23) (.sample 3)) (.lit 1) (.sample 3) = .ok (some .released) ∧
      resolution sampleHost (Run.final (step sampleHost) (deployed sampleLedger)
          ([(sampleEnv (.lit 23) (.sample 7), ⟨.sample 7, false⟩)].map (ballotInput (.lit 1)) ++
            sampleDisputed))
        (sampleEnv (.lit 23) (.sample 3)) (.lit 1) (.sample 3) =
          .error (.error .conflictingQuorum) :=
  ⟨rfl, rfl⟩

theorem quorum_stable_sample :
    resolution sampleHost (Run.final (step sampleHost) (deployed sampleLedger)
        ([(sampleEnv (.lit 23) (.sample 7), ⟨.sample 7, false⟩)].map (ballotInput (.lit 1)) ++
          sampleDisputed))
      (sampleEnv (.lit 24) (.sample 4)) (.lit 1) (.sample 4) = .error (.error .conflictingQuorum) :=
  (quorum_stable sampleHost sampleLedger sampleDisputed (sampleEnv (.lit 23) (.sample 3)) (.lit 1)
    (.sample 3) true rfl [(sampleEnv (.lit 23) (.sample 7), ⟨.sample 7, false⟩)]
    (sampleEnv (.lit 24) (.sample 4)) (.sample 4) (by decide)).2.1
      ((quorum_iff_votes (history_voteBook _ _) (history_recorded _ _ _) rfl).mpr (by decide))

end Delego.Escrow
