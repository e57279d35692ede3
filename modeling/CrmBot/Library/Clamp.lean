import Mathlib.Order.Lattice
import Mathlib.Data.Nat.Init

/-! Limits that are clamped anew every time something was taken from them. -/

namespace Clamp

/-- What is taken from a clamped limit is not given back by the next clamp, except for
what the clamp makes of nothing. -/
structure Drains (clamp : Nat → Nat) : Prop where
  least : ∀ limit, clamp 0 ≤ clamp limit
  again : ∀ limit taken own, clamp (max (clamp limit - taken) (clamp 0) - own) =
    max (clamp limit - (taken + own)) (clamp 0)

theorem drains_id : Drains fun limit => limit := by
  constructor
  · exact Nat.zero_le
  · intro limit taken own
    omega

theorem drains_max (floor : Nat) : Drains fun limit => max limit floor := by
  constructor
  · intro limit
    omega
  · intro limit taken own
    omega

theorem drains_min (ceiling : Nat) : Drains fun limit => min limit ceiling := by
  constructor
  · intro limit
    omega
  · intro limit taken own
    omega

section Raised

variable {clamp : Nat → Nat} (h : Drains clamp)
include h

/-- A second limit that is raised to the clamped one with every clamp. -/
theorem Drains.raised (second limit taken own : Nat) :
    max (max (max second (clamp limit) - taken) (max 0 (clamp 0)) - own)
        (clamp (max (clamp limit - taken) (clamp 0) - own)) =
      max (max second (clamp limit) - (taken + own)) (max 0 (clamp 0)) := by
  rw [h.again limit taken own]
  omega

theorem Drains.raised_least (second limit : Nat) :
    max 0 (clamp 0) ≤ max second (clamp limit) := by
  have hleast := h.least limit
  omega

end Raised

end Clamp
