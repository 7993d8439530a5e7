import Sinkhole.Rules.HostPatterns
import Std.Data.HashMap

/-! # Host rules

A redirect wins over an allowed pattern, which wins over a blocked one; a host that nothing covers
is allowed. Among redirects an exact name wins over wildcards, the last entry for one name wins,
and the first wildcard in the list wins.
-/
namespace Sinkhole

inductive Classification where
  | blocked
  | allowed
  | redirected (target : String)
deriving DecidableEq, Repr

/-- Decides about a host. The classifier has a state of its own. -/
abbrev Classifier (κ : Type) := String → κ → Classification × κ

structure RuleLists where
  blocked : List String := []
  allowed : List String := []
  redirected : List (String × String) := []
deriving DecidableEq, Repr

structure HostRules where
  blocked : HostPatterns
  allowed : HostPatterns
  redirectNames : Std.HashMap String String
  redirectSuffixes : List (String × String)

namespace HostRules

/-- The exact redirects; a later entry for a name replaces an earlier one. -/
def nameTargets (redirects : List (HostPattern × String)) : Std.HashMap String String :=
  redirects.foldl
    (fun targets redirect =>
      match redirect.1 with
      | .exact name => targets.insert name redirect.2
      | .wildcard _ => targets)
    ∅

def suffixTargets (redirects : List (HostPattern × String)) : List (String × String) :=
  redirects.filterMap fun redirect => redirect.1.suffix?.map fun suffix => (suffix, redirect.2)

def ofLists (lists : RuleLists) : HostRules :=
  let redirects := lists.redirected.map fun entry =>
    (HostPattern.ofText entry.1, Text.trim entry.2)
  ⟨.ofList lists.blocked, .ofList lists.allowed, nameTargets redirects, suffixTargets redirects⟩

def redirectTarget? (rules : HostRules) (host : String) : Option String :=
  match rules.redirectNames[host]? with
  | some target => some target
  | none => (rules.redirectSuffixes.find? fun entry => endsWith host entry.1).map (·.2)

def classify (rules : HostRules) (host : String) : Classification :=
  let host := normalizeHost host
  match rules.redirectTarget? host with
  | some target => .redirected target
  | none =>
    if rules.allowed.covers host then .allowed
    else if rules.blocked.covers host then .blocked
    else .allowed

def size (rules : HostRules) : Nat :=
  rules.blocked.size + rules.allowed.size + rules.redirectNames.size +
    rules.redirectSuffixes.length

def isEmpty (rules : HostRules) : Bool :=
  rules.blocked.isEmpty && rules.allowed.isEmpty && rules.redirectNames.isEmpty &&
    rules.redirectSuffixes.isEmpty

end HostRules

end Sinkhole
