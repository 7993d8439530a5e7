import Sinkhole.Rules.Host
import Std.Data.HashSet

/-! # Compiled pattern lists

The exact names of a list go into a set and the wildcard suffixes into a list, so that a look-up
hashes the name once. `covers_ofPatterns` says that compiling loses nothing.
-/
namespace Sinkhole

structure HostPatterns where
  names : Std.HashSet String
  suffixes : List String

namespace HostPatterns

def ofPatterns (patterns : List HostPattern) : HostPatterns :=
  ⟨Std.HashSet.ofList (patterns.filterMap HostPattern.name?),
    patterns.filterMap HostPattern.suffix?⟩

def ofList (texts : List String) : HostPatterns :=
  ofPatterns (texts.map HostPattern.ofText)

def covers (patterns : HostPatterns) (host : String) : Bool :=
  patterns.names.contains host || patterns.suffixes.any (endsWith host)

def size (patterns : HostPatterns) : Nat :=
  patterns.names.size + patterns.suffixes.length

def isEmpty (patterns : HostPatterns) : Bool :=
  patterns.names.isEmpty && patterns.suffixes.isEmpty

theorem covers_ofPatterns (patterns : List HostPattern) (host : String) :
    (ofPatterns patterns).covers host = patterns.any (·.covers host) := by
  simp only [ofPatterns, covers, Std.HashSet.contains_ofList]
  induction patterns with
  | nil => simp
  | cons pattern rest ih =>
    rw [List.any_cons, ← ih]
    cases pattern with
    | exact name =>
      simp only [List.filterMap_cons, HostPattern.name?, HostPattern.suffix?,
        HostPattern.covers, List.contains_cons, Bool.or_assoc]
      rw [BEq.comm]
    | wildcard suffix =>
      simp only [List.filterMap_cons, HostPattern.name?, HostPattern.suffix?,
        HostPattern.covers, List.any_cons, Bool.or_left_comm]

theorem covers_ofList (texts : List String) (host : String) :
    (ofList texts).covers host = texts.any fun text => (HostPattern.ofText text).covers host := by
  simp only [ofList, covers_ofPatterns, List.any_map, Function.comp_def]

end HostPatterns

end Sinkhole
