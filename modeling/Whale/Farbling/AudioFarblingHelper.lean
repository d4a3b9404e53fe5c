/-
`whale_audio_farbling_helper.cc` and the generator it shares with the session cache.

Samples are rational numbers: the arithmetic is exact where the source rounds.
Only the operation that the session cache calls is here.
-/

set_option autoImplicit false

namespace Whale.Farbling

/-- One step of the shift register.  The feedback is joined to the shifted word with
OR. -/
def lfsrNext (v : UInt64) : UInt64 :=
  (v >>> 1) ||| (((v <<< 62) ^^^ (v <<< 61)) &&& ((~~~((~~~(0 : UInt64)) <<< 63)) <<< 62))

/-- `static_cast<double>(UINT64_MAX)`, which rounds up. -/
def maxUInt64AsDouble : Rat := 18446744073709551616

def noiseSample (v : UInt64) : Rat :=
  (v.toNat / maxUInt64AsDouble) / 10

def noise : UInt64 → Nat → List Rat
  | _, 0 => []
  | v, count + 1 => noiseSample (lfsrNext v) :: noise (lfsrNext v) count

structure WhaleAudioFarblingHelper where
  fudgeFactor : Rat
  seed : UInt64
  max : Bool
  deriving DecidableEq

namespace WhaleAudioFarblingHelper

/-- The channel after the call. -/
def farbleAudioChannel (self : WhaleAudioFarblingHelper) (dst : List Rat) : List Rat :=
  if self.max then noise self.seed dst.length
  else dst.map fun sample => sample * self.fudgeFactor

theorem noise_length (v : UInt64) (count : Nat) : (noise v count).length = count := by
  induction count generalizing v with
  | zero => rfl
  | succ count ih => rw [noise, List.length_cons, ih]

end WhaleAudioFarblingHelper

end Whale.Farbling
