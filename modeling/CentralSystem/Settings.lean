namespace CentralSystem

/-- What happens to a start on a connector that has an open transaction. -/
inductive BusyPolicy where
  | accept
  | reject
deriving DecidableEq, Inhabited, Repr

structure PowerTiers where
  high : Int32
  middle : Int32
  floor : Int32
deriving DecidableEq, Inhabited, Repr

def PowerTiers.isDescending (tiers : PowerTiers) : Bool :=
  tiers.middle < tiers.high && tiers.floor < tiers.middle && 0 < tiers.floor

structure Settings where
  heartbeatInterval : UInt32
  autoRegisterChargePoints : Bool
  autoRegisterTags : Bool
  busyPolicy : BusyPolicy
  /-- None where the power of a site is not shared out. -/
  tiers : Option PowerTiers
  /-- Whether open transactions are watched. -/
  watching : Bool
deriving DecidableEq, Inhabited, Repr

end CentralSystem
