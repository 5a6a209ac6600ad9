import InrSettle.Service.Finality
import InrSettle.Service.Funding

/-!
# The operator's exception service

An operator resolves the open exception of a settlement: resume, fail or cancel. The
latter two give back first what the settlement holds of its facility.
-/

namespace InrSettle

open Transaction

/-- `openExceptionFor`: the settlement's open exception, of which the index admits one. -/
def openExceptionFor (c : Case) : Option SettlementExceptionRow :=
  c.exceptions.find? fun e => e.resolvedAt.isNone

inductive OperatorRefusal where
  | settlementNotFound | noOpenException | pastPointOfNoReturn | valueMayHaveBeenDelivered
  | compensationFailed (refusal : FundingRefusal)
  | transitionRefused (failure : TransitionFailure)
  deriving DecidableEq

structure OperatorDone where
  resolution : Resolution
  exceptionId : String
  source : SettlementStatus
  target : Option SettlementStatus
  compensation : Compensation
  deriving DecidableEq

structure OperatorResolveInput where
  settlementId : String
  resolution : Resolution
  repaymentId : String
  transferId : String
  now : Instant
  deriving DecidableEq

def OperatorResolveInput.compensate (input : OperatorResolveInput) (actor : PrincipalRef) :
    CompensateInput where
  settlementId := input.settlementId
  actor := actor
  repaymentId := input.repaymentId
  transferId := input.transferId
  now := input.now

/-- T22, T23 or T24, with guards answered from the locked row. -/
def OperatorResolveInput.transition (input : OperatorResolveInput) (ctx : OperatorContext)
    (settlement : SettlementRow) (code : ExceptionCode) (compensation : Compensation) :
    ApplyTransitionInput where
  trigger := input.resolution.trigger
  actor := ctx.principal
  guards := [(.resolutionAttributed, decide (0 < ctx.principal.id.length) && isStated ctx.reason)]
    ++ (if input.resolution = .fail then
      [(.noValueDelivered, settlement.pointOfNoReturnAt.isNone)] else [])
    ++ (if input.resolution = .cancel then
      [(.beforePointOfNoReturn, settlement.pointOfNoReturnAt.isNone)] else [])
  expectedVersion := some settlement.version
  companions := if input.resolution = .resume then []
    else compensation.companion.toList.map fun type =>
      { type := type, subjectType := .settlement, subjectId := input.settlementId }
  statusEventPayload := [("exception_code", code.wire), ("resolution", input.resolution.wire),
    ("resolved_by", ctx.principal.id)]
  reason := some ctx.reason

/-- The audit rows a resolution leaves: the service's own and the operator record. -/
def OperatorResolveInput.audits (input : OperatorResolveInput) (ctx : OperatorContext) :
    List AuditRow :=
  let resolution := input.resolution.wire
  [{ actor := ctx.principal, action := s!"ops.exception_{resolution}", subjectType := .settlement,
     subjectId := input.settlementId, reason := some ctx.reason },
   { actor := ctx.principal, action := ctx.action, subjectType := .settlement,
     subjectId := input.settlementId, reason := some ctx.reason }]

/-- What the resolution gives back first. Resuming gives nothing back. -/
def OperatorResolveInput.giveBack (input : OperatorResolveInput) (ctx : OperatorContext) :
    StoreTx (Except FundingRefusal Compensation) :=
  if input.resolution = .resume then return .ok .none
  else compensateCancellation (input.compensate ctx.principal)

/-- Resolve the open exception. A transition refused after the compensation leaves the
compensation committed. -/
def resolveExceptionAsOperator (ctx : OperatorContext) (input : OperatorResolveInput) :
    StoreTx (Except OperatorRefusal OperatorDone) := do
  requireCapability ctx .exceptionResolve
  let s ← get
  match s.case.settlement with
  | none => return .error .settlementNotFound
  | some settlement =>
    match openExceptionFor s.case with
    | none => return .error .noOpenException
    | some open' =>
      if input.resolution = .fail ∧ settlement.pointOfNoReturnAt.isSome then
        return .error .valueMayHaveBeenDelivered
      else if input.resolution = .cancel ∧ settlement.pointOfNoReturnAt.isSome then
        return .error .pastPointOfNoReturn
      else
        match ← input.giveBack ctx with
        | .error refusal => return .error (.compensationFailed refusal)
        | .ok compensation =>
          let outcome ← onCase (applyTransition
            (input.transition ctx settlement open'.code compensation))
          match outcome with
          | .error failure => return .error (.transitionRefused failure)
          | .ok done =>
            onCase (CaseTables.resolveExceptions (fun e => decide (e.id = open'.id)) input.now
              ctx.principal.id ctx.reason)
            onCase (modify fun c => { c with audits := c.audits ++ input.audits ctx })
            return .ok {
              resolution := input.resolution, exceptionId := open'.id, source := done.source
              target := done.target, compensation := compensation }

end InrSettle
