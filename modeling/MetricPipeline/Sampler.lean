/-!
Sampling: a stream of draws that decides which triggers emit.

A draw is a number below one hundred. The stream is a function of the position in it, so a run is
reproducible once the stream is given.
-/

namespace MetricPipeline

/-- A stream of draws and a position in it. -/
structure Sampler where
  /-- The draws. -/
  draws : Nat → Fin 100
  /-- How many draws have been taken. -/
  taken : Nat

namespace Sampler

/-- A thorough mixing of sixty-four bits: two rounds of multiplying and folding. -/
def mix (word : UInt64) : UInt64 :=
  let once := (word ^^^ (word >>> 30)) * 0xbf58476d1ce4e5b9
  let twice := (once ^^^ (once >>> 27)) * 0x94d049bb133111eb
  twice ^^^ (twice >>> 31)

/-- The draw at a position of the stream of a seed. -/
def drawOf (seed : UInt64) (position : Nat) : Fin 100 :=
  Fin.ofNat 100 (mix (seed + (UInt64.ofNat position + 1) * 0x9e3779b97f4a7c15) >>> 32).toNat

/-- The stream of a seed. -/
def ofSeed (seed : UInt64) : Sampler := { draws := drawOf seed, taken := 0 }

/-- Decides whether a trigger is left out. A percentage of zero means no sampling and takes no draw;
otherwise a draw of at least the percentage leaves the trigger out. -/
def leavesOut (sampler : Sampler) (percent : Nat) : Sampler × Bool :=
  if percent = 0 then (sampler, false)
  else ({ sampler with taken := sampler.taken + 1 }, percent ≤ (sampler.draws sampler.taken).val)

end Sampler

end MetricPipeline
