import Attestation.Bisection
import Attestation.Claim

/-!
# Claim histories

A history keeps the newest claims of one chain, oldest first. Only a claim above all others is
taken, so heights increase along the history, and the oldest claim makes room for it.
-/

namespace Attestation

/-- The newest claims of a chain, oldest first. -/
structure ClaimHistory where
  /-- How many claims are kept. -/
  capacity : Nat
  /-- The claims. -/
  claims : List Claim
deriving DecidableEq

namespace ClaimHistory

/-- The history without claims that keeps `size` of them, but at least one. -/
def empty (size : Nat) : ClaimHistory := ⟨max 1 size, []⟩

/-- Adds a claim. One that is not above the newest claim is ignored. -/
def push (h : ClaimHistory) (c : Claim) : ClaimHistory :=
  if h.claims.getLast?.any (c.snapshot.height ≤ ·.snapshot.height) then h
  else
    let kept := if h.claims.length = h.capacity then h.claims.drop 1 else h.claims
    { h with claims := kept ++ [c] }

/-- The claim at a height. -/
def at? (h : ClaimHistory) (height : UInt64) : Option Claim :=
  bisect? (fun c => compare c.snapshot.height height) h.claims

/-- The claims from a height on. -/
def since (h : ClaimHistory) (height : UInt64) : List Claim :=
  h.claims.filter (height ≤ ·.snapshot.height)

end ClaimHistory

end Attestation
