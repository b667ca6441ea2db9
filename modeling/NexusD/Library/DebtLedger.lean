import Mathlib.Data.List.Perm.Subperm
import Mathlib.Data.Set.Insert
import Mathlib.Logic.Function.Basic

/-! Messages that are owed to targets and paid to each of them once.
A holder has one message and the set of targets it still owes it to. As long as a payment is
made out of a debt and a message has one holder, nothing is paid twice, however the holders
take turns and whatever payments get lost.
-/

namespace NexusD.Library

variable {Holder Message Target : Type*}

structure DebtLedger (Holder Message Target : Type*) where
  debts : Holder → Option (Message × Set Target)
  paid : List (Target × Message)

namespace DebtLedger

/-- Nothing is paid twice, and nothing is owed that has been paid. -/
structure Sound (issued : Set Message) (ledger : DebtLedger Holder Message Target)
    : Prop where
  once : ledger.paid.Nodup
  paidIssued : ∀ target message, (target, message) ∈ ledger.paid → message ∈ issued
  owedIssued
    : ∀ holder message debt, ledger.debts holder = some (message, debt) → message ∈ issued
  unpaid
    : ∀ holder message debt target,
        ledger.debts holder = some (message, debt)
        → target ∈ debt
        → (target, message) ∉ ledger.paid
  alone
    : ∀ left right message debt debtToo,
        ledger.debts left = some (message, debt)
        → ledger.debts right = some (message, debtToo)
        → left = right

/-- Every holder keeps its message and owes no more than before, or has given it up. -/
def Lowers (before after : DebtLedger Holder Message Target) : Prop :=
  ∀ holder message debt,
    after.debts holder = some (message, debt)
    → ∃ old, before.debts holder = some (message, old) ∧ debt ⊆ old

theorem lowers_of_eq {before after : DebtLedger Holder Message Target}
    (same : after.debts = before.debts)
    : Lowers before after := by
  intro holder message debt owes
  exact ⟨debt, by rwa [← same], fun _ member => member⟩

/-- One holder owes less, or gives its message up. -/
theorem lowers_update [DecidableEq Holder] {before after : DebtLedger Holder Message Target}
    {holder : Holder} {owing : Option (Message × Set Target)}
    (debts : after.debts = Function.update before.debts holder owing)
    (less
      : ∀ message debt,
          owing = some (message, debt)
          → ∃ old, before.debts holder = some (message, old) ∧ debt ⊆ old)
    : Lowers before after := by
  intro other message debt owes
  rw [debts, Function.update_apply] at owes
  split at owes
  · rename_i same
    rw [same]
    exact less message debt owes
  · exact ⟨debt, owes, fun _ member => member⟩

theorem sound_empty : Sound ∅ (⟨fun _ => none, []⟩ : DebtLedger Holder Message Target) where
  once := List.nodup_nil
  paidIssued target message member := by cases member
  owedIssued holder message debt owes := by cases owes
  unpaid holder message debt target owes := by cases owes
  alone left right message debt debtToo owes := by cases owes

variable {issued more : Set Message} {before after : DebtLedger Holder Message Target}

/-- Debts may be given up, payments may get lost. -/
theorem Sound.lowered (sound : before.Sound issued) (lowers : Lowers before after)
    (kept : after.paid.Subperm before.paid) (wider : issued ⊆ more)
    : after.Sound more where
  once := by
    obtain ⟨same, perm, sublist⟩ := kept
    exact perm.nodup_iff.mp (sound.once.sublist sublist)
  paidIssued target message member :=
    wider (sound.paidIssued target message (kept.subset member))
  owedIssued holder message debt owes := by
    obtain ⟨old, owed, _⟩ := lowers holder message debt owes
    exact wider (sound.owedIssued holder message old owed)
  unpaid holder message debt target owes member paid := by
    obtain ⟨old, owed, smaller⟩ := lowers holder message debt owes
    exact sound.unpaid holder message old target owed (smaller member) (kept.subset paid)
  alone left right message debt debtToo owes owesToo := by
    obtain ⟨old, owed, _⟩ := lowers left message debt owes
    obtain ⟨oldToo, owedToo, _⟩ := lowers right message debtToo owesToo
    exact sound.alone left right message old oldToo owed owedToo

/-- A payment out of a debt, which its holder then no longer owes. -/
theorem Sound.pay (sound : before.Sound issued) (lowers : Lowers before after)
    {holder : Holder} {message : Message} {debt : Set Target} {target : Target}
    (owed : before.debts holder = some (message, debt)) (member : target ∈ debt)
    (settled
      : ∀ rest, after.debts holder = some (message, rest) → target ∉ rest)
    (paid : after.paid.Perm ((target, message) :: before.paid))
    : after.Sound issued where
  once := by
    rw [paid.nodup_iff, List.nodup_cons]
    exact ⟨sound.unpaid holder message debt target owed member, sound.once⟩
  paidIssued other told there := by
    rcases List.mem_cons.mp (paid.subset there) with is | earlier
    · cases is
      exact sound.owedIssued holder message debt owed
    · exact sound.paidIssued other told earlier
  owedIssued other told rest owes := by
    obtain ⟨old, was, _⟩ := lowers other told rest owes
    exact sound.owedIssued other told old was
  unpaid other told rest destination owes inRest there := by
    obtain ⟨old, was, smaller⟩ := lowers other told rest owes
    rcases List.mem_cons.mp (paid.subset there) with is | earlier
    · -- the payment just made: its message has one holder
      cases is
      cases sound.alone holder other message debt old owed was
      exact settled rest owes inRest
    · exact sound.unpaid other told old destination was (smaller inRest) earlier
  alone left right told debt debtToo owes owesToo := by
    obtain ⟨old, was, _⟩ := lowers left told debt owes
    obtain ⟨oldToo, wasToo, _⟩ := lowers right told debtToo owesToo
    exact sound.alone left right told old oldToo was wasToo

/-- A new message, with a holder that had none. -/
theorem Sound.issue [DecidableEq Holder] (sound : before.Sound issued) {message : Message}
    (fresh : message ∉ issued) (holder : Holder) (debt : Set Target)
    (debts : after.debts = Function.update before.debts holder (some (message, debt)))
    (paid : after.paid = before.paid)
    : after.Sound (insert message issued) where
  once := by
    rw [paid]
    exact sound.once
  paidIssued target told there := by
    rw [paid] at there
    exact .inr (sound.paidIssued target told there)
  owedIssued other told rest owes := by
    rw [debts, Function.update_apply] at owes
    split at owes
    · cases owes
      exact .inl rfl
    · exact .inr (sound.owedIssued other told rest owes)
  unpaid other told rest target owes inRest there := by
    rw [paid] at there
    rw [debts, Function.update_apply] at owes
    split at owes
    · cases owes
      exact fresh (sound.paidIssued target message there)
    · exact sound.unpaid other told rest target owes inRest there
  alone left right told debt debtToo owes owesToo := by
    rw [debts, Function.update_apply] at owes owesToo
    split at owes <;> split at owesToo
    · rename_i here there
      exact here.trans there.symm
    · cases owes
      exact absurd (sound.owedIssued right message debtToo owesToo) fresh
    · cases owesToo
      exact absurd (sound.owedIssued left message debt owes) fresh
    · exact sound.alone left right told debt debtToo owes owesToo

end DebtLedger

end NexusD.Library
