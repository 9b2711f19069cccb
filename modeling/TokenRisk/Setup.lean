import TokenRisk.Config
import TokenRisk.Verifier

/-!
# Setting up

The analyzer, the surveyor, the cache and the verifier that settings ask for, over given sources and
at a given time.
-/

namespace TokenRisk.Config

/-- The `Analyzer` that settings ask for, over sources. -/
def analyzer (c : Config) (profile : Profile) (detectors : Detectors) (sources : Sources)
    (nowMs : Int) : Analyzer where
  sources := sources
  callLimit := c.callTimeout
  sampleSize := c.holderSampleSize
  scheme := c.scheme
  profile := profile
  detectors := detectors
  now := timestamp nowMs

/-- The `Surveyor` that settings ask for, around an analysis of one chain. -/
def surveyor (c : Config) (analyze : Analyze) (nowMs : Int) : Surveyor where
  analyze := analyze
  chainLimit := c.chainTimeout.map .real
  slots := c.maxConcurrentChains
  now := timestamp nowMs

/-- The `Verifier` that settings ask for, around an analysis of one chain. -/
def verifier (c : Config) (analyze : Analyze) (nowMs : Int) : Verifier where
  analyze := analyze
  surveyor := c.surveyor analyze nowMs
  defaultChainId := c.defaultChainId
  nowMs := nowMs

/-- The empty `Cache`, if there is to be one. It is refused for a negative `cacheMaxEntries`. -/
def cache (c : Config) : Except Failure (Option (Cache String Verification)) :=
  if c.enableCaching then (Cache.empty (.real c.cacheTtl) c.cacheMaxEntries).map some
  else .ok none

/-- A `Verifier` over sources, with nothing in its `Session` but the empty cache. -/
def start (c : Config) (detectors : Detectors) (sources : Sources) (nowMs : Int) :
    Except Failure (Verifier × Session) := do
  let cache ← c.cache
  let profile ← c.profile
  return (c.verifier (c.analyzer profile detectors sources nowMs).analyze nowMs, { cache })

end TokenRisk.Config
