import AbstractFramework.IbcClient.Transfers

/-! # Stranded coins

The chain refunds a failed packet to the client, which has sent it.  The client passes
the coin on when it is told the outcome, and it is told the outcome of the packets of
`SendFundsWithActions` only: the coin of a failed packet of `SendFunds` stays with it.
`nothingStranded_iff` says that nothing else does.
-/

namespace AbstractFramework.IbcClient

open Fallible Storage Requests Accounts
open Account hiding World

section Model

variable [Crates] [Xion] {chain : Chain} {env : ClientEnv} {s s' : Net}
  {id : ICS20PacketIdentifier} {packet : Packet}

/-- The coin of every failed packet has been sent back to its sender, and of all that the
    client has received it holds what it has not sent on. -/
def NothingStranded (s : Net) : Prop :=
  (∀ id packet outcome, Settled s.packets id packet outcome → outcome.success = false →
    (id, ClientMsg.BankSend packet.sender [packet.coin]) ∈ s.settlements) ∧
  ∀ denom, s.held denom + total s.packets (fun entry => inDenom denom entry.1.coin) =
    s.received denom

/-- The input does not fail a packet of `SendFunds`, or the chain takes this back: the memo of
    the packet names the client, which has nothing to answer. -/
def FailsNoSendFunds (chain : Chain) (s : Net) : NetInput → Prop
  | .call _ _ _ _ => True
  | .settle id outcome => outcome.success = false → ∀ packet, Open s.packets id packet →
      packet.actions = none →
        chain.callbackOf packet.memo = some chain.client ∧ chain.undoes outcome = true

def FailedWithActions (s : Net) : Prop :=
  ∀ id packet outcome, Settled s.packets id packet outcome → outcome.success = false →
    packet.actions.isSome

theorem Consistent.stranded_iff_failed (consistent : Consistent chain s) :
    NothingStranded s ↔ FailedWithActions s := by
  constructor
  · rintro ⟨returned, _⟩ id packet outcome settled failed
    obtain ⟨packet', outcome', settled', due⟩ :=
      consistent.settled.of_mem (returned id packet outcome settled failed)
    obtain ⟨rfl, _⟩ := Prod.mk.inj (Option.some.inj (settled.symm.trans settled'))
    exact (settlement_reaches due).1
  · intro withActions
    constructor
    · intro id packet outcome settled failed
      obtain ⟨actions, has⟩ := Option.isSome_iff_exists.mp (withActions id packet outcome settled failed)
      apply mem_effectsOf.mp
      rw [consistent.settled.settled settled]
      simp [settlement, has, failed]
    · intro denom
      rw [← consistent.balanced denom]
      congr 1
      apply total_congr
      rintro ⟨id, packet, outcome⟩ listed
      cases outcome with
      | none => rfl
      | some outcome =>
        have settled : Settled s.packets id packet outcome := AList.mem_lookup_iff.mpr listed
        have kept : ¬ (outcome.success = false ∧ packet.actions.isNone) := by
          rintro ⟨failed, plain⟩
          have := withActions id packet outcome settled failed
          rw [Option.isNone_iff_eq_none.mp plain] at this
          cases this
        exact (if_neg kept).symm

theorem transfer_settled {replyOn : Option Nat} {id' : ICS20PacketIdentifier} {packet' : Packet}
    {outcome : Outcome} (h : transfer chain env id packet replyOn s = .ok s') :
    Settled s'.packets id' packet' outcome ↔ Settled s.packets id' packet' outcome := by
  simp only [transfer, bind_eq_ok, ensure_eq_ok, spend_eq_ok] at h
  obtain ⟨_, new, _, ⟨_, rfl⟩, h⟩ := h
  cases replyOn with
  | none =>
    obtain rfl := Except.ok.inj h
    exact settled_issue new
  | some replyId =>
    simp only [bind_eq_ok, pure_eq_ok] at h
    obtain ⟨_, _, rfl⟩ := h
    exact settled_issue new

theorem deliver_settled {sender : Addr} {actions : Option (List Binary)} {subs : List ClientSubMsg}
    {sequences : List UInt64} (h : deliver chain env sender actions subs sequences s = .ok s')
    {outcome : Outcome} :
    Settled s'.packets id packet outcome ↔ Settled s.packets id packet outcome := by
  induction subs generalizing s sequences with
  | nil => rw [Except.ok.inj h]
  | cons sub subs ih =>
    rcases deliver_cons h with ⟨_, _, _, m, _, sent, later⟩ | later
    · rw [ih later, transfer_settled sent]
      rfl
    · rw [ih later]
      rfl

theorem Consistent.failedWithActions {input : NetInput} (consistent : Consistent chain s)
    (fails : FailsNoSendFunds chain s input) (before : FailedWithActions s)
    (h : input.exec chain s = .ok (s', ())) : FailedWithActions s' := by
  cases input with
  | call env info msg sequences =>
    simp only [NetInput.exec, bind_eq_ok, pure_eq_ok, Prod.mk.injEq, and_true] at h
    obtain ⟨_, _, _, delivered, rfl⟩ := h
    intro id packet outcome settled
    exact before id packet outcome ((deliver_settled delivered).mp settled)
  | settle id outcome =>
    obtain ⟨packet, isOpen, ⟨plain, stands, rfl⟩ | ⟨actions, key, has, _, rfl⟩⟩ :=
      consistent.settle_cases h
    · have isSettled : (s.conclude id packet outcome).packets =
          Requests.settle s.packets id packet outcome := by
        unfold Net.conclude
        split <;> rfl
      intro id' packet' outcome' settled failed
      rw [isSettled] at settled
      rcases settled_settle.mp settled with ⟨_, rfl, rfl⟩ | ⟨_, old⟩
      · obtain ⟨asked, undone⟩ := fails failed packet' isOpen plain
        rw [stands asked] at undone
        cases undone
      · exact before id' packet' outcome' old failed
    · intro id' packet' outcome' settled failed
      rcases settled_settle.mp settled with ⟨_, rfl, rfl⟩ | ⟨_, old⟩
      · simp [has]
      · exact before id' packet' outcome' old failed

/-- In every state that a run reaches nothing is stranded, if and only if the chain fails no
    packet of `SendFunds` in the run, whatever it does where the client has no answer. -/
theorem nothingStranded_iff (chain : Chain) (owner : MessageInfo) (inputs : List NetInput) :
    (∀ n, NothingStranded (Machine.run (NetInput.exec chain) (newNet owner) (inputs.take n))) ↔
      Machine.Along (NetInput.exec chain) (FailsNoSendFunds chain) (newNet owner) inputs := by
  constructor
  · intro always
    by_contra leaves
    obtain ⟨before, input, after, rfl, fails⟩ := Machine.exists_of_not_along leaves
    cases input with
    | call => exact fails trivial
    | settle id outcome =>
      simp only [FailsNoSendFunds, Classical.not_imp, not_forall] at fails
      obtain ⟨failed, packet, isOpen, plain, lasts⟩ := fails
      have stands : chain.Stands packet.memo outcome :=
        fun asked => Bool.eq_false_iff.mpr fun undone => lasts ⟨asked, undone⟩
      have consistent : Consistent chain (Machine.run (NetInput.exec chain) (newNet owner) before) :=
        consistent_run owner before
      have here := always (before.length + 1)
      have upTo : (before ++ NetInput.settle id outcome :: after).take (before.length + 1) =
          before ++ [.settle id outcome] := by
        simp [List.take_append]
      rw [upTo, (consistent_run owner _).stranded_iff_failed, Machine.run_append] at here
      rw [Machine.run_cons, Machine.run_nil,
        Machine.step_of_ok (consistent.settle_plain outcome isOpen plain stands)] at here
      have settled : Settled ((Machine.run (NetInput.exec chain) (newNet owner) before).conclude id
          packet outcome).packets id packet outcome := by
        unfold Net.conclude
        split <;> exact settled_settle.mpr (.inl ⟨rfl, rfl, rfl⟩)
      have := here id packet outcome settled failed
      rw [plain] at this
      cases this
  · intro along n
    have upTo : Machine.Along (NetInput.exec chain) (FailsNoSendFunds chain) (newNet owner)
        (inputs.take n) := by
      rw [← List.take_append_drop n inputs, Machine.along_append] at along
      exact along.1
    have both : Consistent chain (Machine.run (NetInput.exec chain) (newNet owner) (inputs.take n)) ∧
        FailedWithActions (Machine.run (NetInput.exec chain) (newNet owner) (inputs.take n)) := by
      refine Machine.run_invariant_along
        (P := fun s => Consistent chain s ∧ FailedWithActions s) ?_ ?_ upTo
      · rintro s input s' _ fails ⟨consistent, before⟩ ok
        refine ⟨?_, consistent.failedWithActions fails before ok⟩
        cases input with
        | call env info msg sequences => exact consistent.call ok
        | settle id outcome => exact consistent.settles ok
      · refine ⟨consistent_newNet owner, ?_⟩
        intro id packet outcome settled
        simp [newNet, Settled] at settled
    exact both.1.stranded_iff_failed.mpr both.2

end Model

section Sample

attribute [local instance] accountCrates noAuthenticators

/-- The packet of `SendFunds` has timed out, and the client has kept its coin. -/
theorem not_nothingStranded_sendFunds : sampleNet.held "uosmo" = 5 ∧ ¬ NothingStranded sampleNet := by
  refine ⟨rfl, ?_⟩
  rintro ⟨returned, _⟩
  have coinBack := returned ⟨"channel-0", 8⟩
    ⟨sampleAccount, ⟨"uosmo", 5⟩, none, none⟩ .Timeout rfl rfl
  have effects : sampleNet.settlements =
      [(⟨"channel-0", 7⟩, .Account sampleAccount [1]), (⟨"channel-0", 7⟩, .Account sampleAccount [2])] :=
    rfl
  rw [effects] at coinBack
  simp at coinBack

end Sample

end AbstractFramework.IbcClient
