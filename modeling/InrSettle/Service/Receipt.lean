import InrSettle.Service.Finality

/-!
# The receipt service

The settlement receipt is a row of its own, written once, cut in the transaction that settles
and before the transition that announces it.
-/

namespace InrSettle

open Transaction CaseTables

/-- A row of `financial_artifacts` of the kind `settlement_receipt`. -/
structure ReceiptRow where
  id : String
  settlementId : String
  contentHash : String
  deriving DecidableEq

/-- What a transaction about one settlement and its receipt can reach. -/
structure ReceiptStore where
  store : Store
  receipt : Option ReceiptRow
  deriving DecidableEq

abbrev ReceiptTx := Tx ReceiptStore DbError

def onStore {α : Type} (m : StoreTx α) : ReceiptTx α :=
  focus ReceiptStore.store (fun s store => { s with store := store }) m

inductive ArtifactRefusal where
  | settlementNotFound | settlementNotAuthorized | authorizedTermsUnreadable | noCreditedPayout
  | noCreditTimestamp
  deriving DecidableEq

def ArtifactRefusal.wire : ArtifactRefusal → String
  | settlementNotFound => "settlement_not_found"
  | settlementNotAuthorized => "settlement_not_authorized"
  | authorizedTermsUnreadable => "authorized_terms_unreadable"
  | noCreditedPayout => "no_credited_payout"
  | noCreditTimestamp => "no_credit_timestamp"

/-- What of the source a receipt cannot be built without. -/
def ReceiptSource.refusal (source : ReceiptSource) : Option ArtifactRefusal :=
  if source.settlement.authorizedTermsHash = none then some .settlementNotAuthorized
  else if source.settlement.authorizedTerms = none then some .authorizedTermsUnreadable
  else if source.attempt.bind (·.utr) = none then some .noCreditedPayout
  else if source.settlement.authorizedAt = none then some .settlementNotAuthorized
  else if source.attempt.bind (·.creditedAt) = none then some .noCreditTimestamp
  else none

/-- `financial_artifacts_one_receipt`. -/
def insertReceipt (row : ReceiptRow) : ReceiptTx PUnit := do
  let s ← get
  require (s.receipt = none) (.uniqueViolation "financial_artifacts_one_receipt")
  modify fun s => { s with receipt := some row }

section

variable (contentHash : ReceiptSource → String)

/-- Idempotent on the settlement: a receipt that exists is the answer. -/
def issueReceipt (settlementId receiptId : String) (actor : PrincipalRef) :
    ReceiptTx (Except ArtifactRefusal IssuedReceipt) := do
  let s ← get
  match s.receipt with
  | some existing => return .ok ⟨existing.id, existing.contentHash⟩
  | none =>
    match readReceiptSource s.store.case with
    | none => return .error .settlementNotFound
    | some source =>
      match source.refusal with
      | some refusal => return .error refusal
      | none =>
        insertReceipt ⟨receiptId, settlementId, contentHash source⟩
        onStore (onCase (audit {
          actor := actor
          action := "receipt.issued"
          subjectType := .settlement
          subjectId := settlementId }))
        return .ok ⟨receiptId, contentHash source⟩

namespace Receipts

/-- `evaluateAndSettle` with the issuer it is given: a receipt that cannot be issued throws. -/
def evaluateAndSettle (digest : AuthorizedInstruction → String) (input : EvaluateInput) :
    ReceiptTx FinalityResult := do
  let s ← get
  match gatherEvidence s.store with
  | none => return .error .settlementNotFound
  | some row =>
    let verdict := evaluateFinality (toEvidence digest row)
    onStore (onCase (insertEvaluation (input.row verdict)))
    if row.settlement.status = .settled then
      return .ok { verdict := verdict, evaluationId := input.evaluationId, settled := false,
                   alreadySettled := true }
    else if !verdict.final then
      onStore (onCase (audit (input.refusedAudit verdict)))
      return .ok { verdict := verdict, evaluationId := input.evaluationId, settled := false }
    else
      match ← issueReceipt contentHash input.settlementId input.receipt.receiptId input.actor with
      | .error refusal => abort (.thrown refusal.wire)
      | .ok issued =>
        let moved ← onStore (onCase (applyTransition { input with receipt := issued }.transition))
        match moved with
        | .error failure => return .error (.transition failure)
        | .ok _ =>
          return .ok { verdict := verdict, evaluationId := input.evaluationId, settled := true }

end Receipts

end

end InrSettle
