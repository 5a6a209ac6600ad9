import InrSettle.Library.Preference

/-!
# Payout rails

What a provider declares it can do, and the rail it is asked to pay by. The number of seconds in
which a rail ends is the provider's, and only passed on.
-/

namespace InrSettle

/-- `PAYOUT_RAILS`. -/
inductive PayoutRail where
  | neft | rtgs | imps | upi
  deriving DecidableEq

/-- The kind of destination a rail pays. -/
inductive PaidKind where
  | bankAccount | vpa
  deriving DecidableEq

def PaidKind.wire : PaidKind → String
  | bankAccount => "bank_account" | vpa => "vpa"

structure RailCapability (Seconds : Type) where
  rail : PayoutRail
  /-- Inclusive. -/
  minMinor : Option Int
  /-- Inclusive. -/
  maxMinor : Option Int
  destinationKinds : List PaidKind
  isOpen : Bool
  terminalStatusSlaSeconds : Seconds
  deriving DecidableEq

inductive RailRefusal where
  | noRailForDestination | noRailForAmount | allRailsClosed
  deriving DecidableEq

def RailRefusal.wire : RailRefusal → String
  | noRailForDestination => "no_rail_for_destination"
  | noRailForAmount => "no_rail_for_amount"
  | allRailsClosed => "all_rails_closed"

inductive RailSelection where
  | chosen (rail : PayoutRail) (why : String)
  | refused (reason : RailRefusal) (considered : List PayoutRail)
  deriving DecidableEq

/-- `RAIL_PREFERENCE`. -/
def railPreference : List PayoutRail := [.upi, .imps, .rtgs, .neft]

section

variable {Seconds : Type}

def RailCapability.pays (kind : PaidKind) (r : RailCapability Seconds) : Bool :=
  decide (kind ∈ r.destinationKinds)

def RailCapability.admits (amountMinor : Int) (r : RailCapability Seconds) : Bool :=
  r.minMinor.all (fun least => decide (least ≤ amountMinor)) &&
    r.maxMinor.all fun most => decide (amountMinor ≤ most)

def selectRail (rails : List (RailCapability Seconds)) (kind : PaidKind) (amountMinor : Int) :
    RailSelection :=
  let forDestination := rails.filter (·.pays kind)
  if forDestination.length = 0 then .refused .noRailForDestination (rails.map (·.rail))
  else
    let forAmount := forDestination.filter (·.admits amountMinor)
    if forAmount.length = 0 then .refused .noRailForAmount (forDestination.map (·.rail))
    else
      let usable := forAmount.filter (·.isOpen)
      match Preference.firstPreferred railPreference (·.rail) usable with
      -- nothing is usable
      | none => .refused .allRailsClosed (forAmount.map (·.rail))
      | some chosen => .chosen chosen.rail
          s!"fastest open rail the provider declares for a {kind.wire} of this size"

/-- What `chooseRail` answers. -/
inductive RailChoice (Seconds : Type) where
  | chosen (rail : PayoutRail) (slaSeconds : Seconds)
  | refused (reason : RailRefusal) (considered : List PayoutRail)
  deriving DecidableEq

/-- `chooseRail`, of what the provider declares; nothing where it throws. -/
def chooseRail (rails : List (RailCapability Seconds)) (kind : PaidKind) (amountMinor : Int) :
    Option (RailChoice Seconds) :=
  match selectRail rails kind amountMinor with
  | .refused reason considered => some (.refused reason considered)
  | .chosen rail _ =>
    (rails.find? fun r => decide (r.rail = rail)).map fun declared =>
      .chosen rail declared.terminalStatusSlaSeconds

end

end InrSettle
