import InrSettle.Library.JsConvert
import Mathlib

/-!
# Requirements of preflight

What a requirement carries, the structural check of its copy, and the order in which
requirements are given.
-/

namespace InrSettle.Preflight

open Js

inductive RequirementSeverity where
  | blocking | advisory
  deriving DecidableEq

def RequirementSeverity.wire : RequirementSeverity → String
  | blocking => "blocking" | advisory => "advisory"

/-- The named action a requirement resolves through. -/
inductive RequirementAction where
  | verifyBeneficiary (beneficiaryId destinationVersionId : Text)
  | editBeneficiary (beneficiaryId field : Text)
  | addPayoutDestination (beneficiaryId : Text)
  | uploadDocument (documentType : Text)
  | selectPurpose
  | contactSupport (topic : Text)
  | setUpLiquidityFacility
  deriving DecidableEq

structure Requirement where
  code : Text
  severity : RequirementSeverity
  title : Text
  detail : Text
  action : RequirementAction
  deriving DecidableEq

/-! ### The structural check -/

/-- `BANNED_COPY`. -/
def bannedCopy : List String :=
  ["validation failed", "invalid input", "bad request", "an error occurred",
    "something went wrong", "unknown error"]

inductive RequirementProblem where
  | codeMissing | codeMalformed | titleMissing | titleNotASentence | detailMissing
  | detailTooShort | genericCopy (phrase : String)
  deriving DecidableEq

structure RequirementDefect where
  code : Text
  problem : RequirementProblem
  deriving DecidableEq

/-- `/[a-z]/`. -/
def isSmallLetter (u : CodeUnit) : Bool := decide (97 ≤ u.val ∧ u.val ≤ 122)

def isCodeUnit (u : CodeUnit) : Bool :=
  isSmallLetter u || decide (48 ≤ u.val ∧ u.val ≤ 57) || u == unit '_'

/-- `/^[a-z][a-z0-9_]{2,63}$/`. -/
def matchesCodePattern : Text → Bool
  | [] => false
  | u :: rest => isSmallLetter u && decide (2 ≤ rest.length ∧ rest.length ≤ 63) && rest.all isCodeUnit

section Inspect

variable (toLowerCase : Text → Text)

/-- `inspectRequirement`, for a draft that has all its fields and an action that is known. -/
def inspectRequirement (code title detail : Text) : List RequirementDefect :=
  (if trim code = [] then [⟨ofString "(unnamed)", .codeMissing⟩]
    else if ¬ matchesCodePattern code then [⟨code, .codeMalformed⟩] else []) ++
  (if trim title = [] then [⟨code, .titleMissing⟩]
    else if (trim title).length < 12 ∨ ¬ (trim title).any isSmallLetter then
      [⟨code, .titleNotASentence⟩] else []) ++
  (if trim detail = [] then [⟨code, .detailMissing⟩]
    else if (trim detail).length < 24 then [⟨code, .detailTooShort⟩] else []) ++
  (bannedCopy.filter fun phrase =>
    ofString phrase <:+: toLowerCase (trim title ++ unit ' ' :: trim detail)).map
      fun phrase => ⟨code, .genericCopy phrase⟩

end Inspect

/-! ### Order -/

/-- Blocking before advisory, then by code. -/
def Requirement.before (a b : Requirement) : Prop :=
  if a.severity ≠ b.severity then a.severity = .blocking else a.code ≤ b.code

instance : DecidableRel Requirement.before := fun a b => by
  unfold Requirement.before
  infer_instance

def sortRequirements (requirements : List Requirement) : List Requirement :=
  requirements.insertionSort Requirement.before

theorem before_total (a b : Requirement) : a.before b ∨ b.before a := by
  unfold Requirement.before
  by_cases same : a.severity = b.severity
  · simpa [same] using le_total a.code b.code
  · have other : b.severity ≠ a.severity := Ne.symm same
    simp only [ne_eq, same, other, not_false_eq_true, if_true]
    cases left : a.severity <;> cases right : b.severity <;> simp_all

theorem before_trans {a b c : Requirement} (first : a.before b) (second : b.before c) :
    a.before c := by
  unfold Requirement.before at *
  cases left : a.severity <;> cases middle : b.severity <;> cases right : c.severity <;>
    simp_all
  all_goals exact first.trans second

theorem code_of_before {a b : Requirement} (first : a.before b) (second : b.before a) :
    a.code = b.code := by
  unfold Requirement.before at *
  cases left : a.severity <;> cases right : b.severity <;> simp_all
  all_goals exact le_antisymm first second

instance : Std.Total Requirement.before := ⟨before_total⟩

instance : IsTrans Requirement Requirement.before := ⟨fun _ _ _ => before_trans⟩

theorem mem_sortRequirements {requirement : Requirement} {requirements : List Requirement} :
    requirement ∈ sortRequirements requirements ↔ requirement ∈ requirements :=
  (List.perm_insertionSort _ _).mem_iff

/-- Requirements of different codes are sorted alike, whichever order they come in. -/
theorem sortRequirements_perm {requirements requirements' : List Requirement}
    (distinct : (requirements.map (·.code)).Nodup) (perm : requirements.Perm requirements') :
    sortRequirements requirements = sortRequirements requirements' := by
  have perms : (sortRequirements requirements).Perm (sortRequirements requirements') :=
    (List.perm_insertionSort _ _).trans (perm.trans (List.perm_insertionSort _ _).symm)
  refine perms.eq_of_pairwise (fun a b mem mem' less more => ?_)
    (List.pairwise_insertionSort _ _) (List.pairwise_insertionSort _ _)
  have mem := mem_sortRequirements.mp mem
  have mem' := perm.mem_iff.mpr (mem_sortRequirements.mp mem')
  exact List.inj_on_of_nodup_map distinct mem mem' (code_of_before less more)

end InrSettle.Preflight
