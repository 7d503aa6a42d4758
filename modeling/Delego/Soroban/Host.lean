import Delego.Shared.MachineInt
import Delego.Shared.Tx
import Mathlib.Logic.Function.Basic

set_option autoImplicit false

namespace Delego.Soroban

open Shared

abbrev BytesN (n : Nat) := BitVec (8 * n)

abbrev Symbol := String

inductive Address where
  | account (publicKey : BytesN 32)
  | contract (hash : BytesN 32)
  deriving DecidableEq

structure Env where
  sequence : U32
  timestamp : U64
  signers : List Address

structure Invocation (Call : Type) where
  env : Env
  call : Call

-- `require_auth` traps unless the address has authorized this very call.
def Address.requireAuth {S Ev ε : Type} (address : Address) (env : Env) : Tx S Ev ε Unit :=
  Tx.trapIf (address ∉ env.signers)

@[simp] theorem yields_requireAuth {S Ev ε : Type} {address : Address} {env : Env}
    {before after : Frame S Ev} {u : Unit} :
    (address.requireAuth env : Tx S Ev ε Unit).Yields before u after ↔
      address ∈ env.signers ∧ after = before := by
  simp [Address.requireAuth]

/-- The contract's own address, and the token contracts its `token::Client` calls reach. -/
structure Host where
  currentContract : Address
  Ledger : Type
  balance : Ledger → (token holder : Address) → Nat
  transfer : Ledger → (token source target : Address) → I128 → Option Ledger

/-- A transfer that does not trap moves exactly its amount, of its own token. -/
def Host.ExactTransfers (host : Host) : Prop :=
  ∀ ledger token source target amount ledger',
    host.transfer ledger token source target amount = some ledger' →
      ∀ other holder, (host.balance ledger' other holder : Int) =
        host.balance ledger other holder +
          if other = token then
            (if holder = target then amount.toInt else 0) -
              (if holder = source then amount.toInt else 0)
          else 0

def Address.sample (number : Nat) : Address := .account (BitVec.ofNat 256 number)

-- Tokens that only keep balances, refuse negative amounts and never overdraw.
def plainHost (currentContract : Address) : Host where
  currentContract
  Ledger := Address → Address → Nat
  balance ledger := ledger
  transfer ledger token source target amount :=
    if amount.toInt < 0 ∨ (ledger token source : Int) < amount.toInt then none
    else
      let debited := Function.update (ledger token) source (ledger token source - amount.toInt.toNat)
      let credited := Function.update debited target (debited target + amount.toInt.toNat)
      some (Function.update ledger token credited)

theorem plainHost_exact (currentContract : Address) : (plainHost currentContract).ExactTransfers := by
  intro ledger token source target amount ledger' moved other holder
  simp only [plainHost] at ledger moved ⊢
  split at moved
  · cases moved
  · rename_i allowed
    cases moved
    by_cases ours : other = token
    · subst ours
      by_cases credit : holder = target <;> by_cases debit : holder = source <;>
        by_cases loop : source = target <;> simp_all [Function.update]
      all_goals omega
    · simp [Function.update, ours]

end Delego.Soroban
