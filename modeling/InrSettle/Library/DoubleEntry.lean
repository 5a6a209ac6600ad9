import Mathlib

/-!
# Double-entry books

A book is a list of postings, each a debit or a credit of one account. A transfer
posts the same amount twice: it debits the account the value goes to and credits
the account it comes from.
-/

namespace DoubleEntry

universe u

structure Posting (Account : Type u) where
  account : Account
  isDebit : Bool
  amount : Int

variable {Account : Type u}

def Posting.signed (p : Posting Account) : Int :=
  if p.isDebit then p.amount else -p.amount

structure Transfer (Account : Type u) where
  source : Account
  target : Account
  amount : Int

def Transfer.postings (t : Transfer Account) : List (Posting Account) :=
  [⟨t.target, true, t.amount⟩, ⟨t.source, false, t.amount⟩]

variable [DecidableEq Account]

/-- What the postings leave on one account. -/
def balance (a : Account) (book : List (Posting Account)) : Int :=
  (book.map fun p => if p.account = a then p.signed else 0).sum

@[simp] theorem balance_nil (a : Account) : balance a [] = 0 := rfl

@[simp] theorem balance_append (a : Account) (book more : List (Posting Account)) :
    balance a (book ++ more) = balance a book + balance a more := by
  simp [balance]

/-- A transfer moves its amount from its source to its target and touches no other account. -/
theorem balance_transfer (a : Account) (t : Transfer Account) :
    balance a t.postings =
      (if t.target = a then t.amount else 0) - (if t.source = a then t.amount else 0) := by
  simp only [balance, Transfer.postings, List.map_cons, List.map_nil, List.sum_cons,
    List.sum_nil, Posting.signed, if_true, Bool.false_eq_true, if_false]
  by_cases target : t.target = a <;> by_cases source : t.source = a <;>
    simp [target, source, sub_eq_add_neg]

end DoubleEntry
