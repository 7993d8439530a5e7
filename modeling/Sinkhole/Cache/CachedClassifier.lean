import Sinkhole.Cache.QueryLog
import Sinkhole.Decimal.Fixed
import Sinkhole.Rules.HostRules

/-! # Cached classification

Decisions are remembered until they are invalidated; a cache may also forget any of them at any
time, and a full one takes nothing new. Lookups are counted as hits and misses, every thousandth
one is reported, and hosts are logged while recording is on.
-/
namespace Sinkhole

def maxLoggedHosts : Nat := 10000

def defaultCacheCapacity : Nat := 4096

def reportInterval : Nat := 1000

structure CacheStats where
  hits : Nat
  misses : Nat
deriving DecidableEq, Repr

namespace CacheStats

def lookups (stats : CacheStats) : Nat := stats.hits + stats.misses

/-- The share of lookups that missed, in percent, as the nearest binary fraction. -/
def missRate (stats : CacheStats) : Nat × Nat :=
  if stats.lookups = 0 then (0, 1)
  else Decimal.binaryFraction (stats.misses * 100) stats.lookups

def missRateText (stats : CacheStats) : String :=
  Decimal.fixed 1 stats.missRate ++ "%"

end CacheStats

structure CachedClassifier where
  entries : Std.HashMap String Classification
  capacity : Nat
  stats : CacheStats
  recording : Bool
  log : QueryLog

structure CacheLookup (κ : Type) where
  classification : Classification
  /-- The classifier behind the cache, as the lookup left it. -/
  classifier : κ
  report : Option CacheStats
  cache : CachedClassifier

/-- Whether the classifier behind the cache was asked, when it keeps the hosts that it is asked
about. -/
def CacheLookup.asked (found : CacheLookup (List String)) : Bool := !found.classifier.isEmpty

namespace CachedClassifier

def new (capacity : Nat) : CachedClassifier :=
  ⟨∅, capacity, ⟨0, 0⟩, false, .empty maxLoggedHosts⟩

def invalidate (cache : CachedClassifier) : CachedClassifier :=
  { cache with entries := ∅ }

def evict (cache : CachedClassifier) (host : String) : CachedClassifier :=
  { cache with entries := cache.entries.erase host }

def setRecording (cache : CachedClassifier) (recording : Bool) : CachedClassifier :=
  { cache with recording := recording }

def clearLog (cache : CachedClassifier) : CachedClassifier :=
  { cache with log := cache.log.clear }

def record (cache : CachedClassifier) (host : String) : CachedClassifier :=
  if cache.recording then { cache with log := cache.log.insert host } else cache

def remember (cache : CachedClassifier) (host : String) (classification : Classification) :
    CachedClassifier :=
  if cache.entries.size < cache.capacity then
    { cache with entries := cache.entries.insert host classification }
  else cache

def reportOf (stats : CacheStats) : Option CacheStats :=
  if stats.lookups % reportInterval = 0 then some stats else none

/-- Decides about a host, asking `inner` only if the decision is not remembered. -/
def lookup {κ : Type} (cache : CachedClassifier) (inner : Classifier κ) (host : String)
    (state : κ) : CacheLookup κ :=
  let cache := cache.record host
  match cache.entries[host]? with
  | some classification =>
    let stats := { cache.stats with hits := cache.stats.hits + 1 }
    ⟨classification, state, reportOf stats, { cache with stats := stats }⟩
  | none =>
    let stats := { cache.stats with misses := cache.stats.misses + 1 }
    let (classification, state) := inner host state
    ⟨classification, state, reportOf stats,
      ({ cache with stats := stats }).remember host classification⟩

/-- A lookup in front of a classifier that keeps nothing but the hosts that it is asked about. -/
def classify (cache : CachedClassifier) (inner : String → Classification) (host : String) :
    CacheLookup (List String) :=
  cache.lookup (fun host asked => (inner host, asked ++ [host])) host []

end CachedClassifier

end Sinkhole
