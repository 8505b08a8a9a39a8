import StoryEngine.Number.Binary

/-! # Hit rates -/

namespace StoryEngine

set_option autoImplicit false

structure CacheStats where
  hits : Nat
  misses : Nat
  evictions : Nat
deriving DecidableEq

namespace CacheStats

/-- The share of hits among all lookups, in double precision; zero before the first lookup. -/
def hitRate (stats : CacheStats) : Binary :=
  let lookups := stats.hits + stats.misses
  if lookups = 0 then .zero
  else Binary.div .double (.ofNat .double stats.hits) (.ofNat .double lookups)

end CacheStats

end StoryEngine
