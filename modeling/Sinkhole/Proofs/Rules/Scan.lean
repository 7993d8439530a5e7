import Mathlib
import Sinkhole.Rules.LinearScan

/-! # Compiled rules decide as a scan of the lists

The maps and lists that rules are compiled into answer for every host what the lists themselves
say, read from the front or, for exact redirects, from the back.
-/
namespace Sinkhole

theorem eq_comm_beq (name host : String) :
    (HostPattern.exact name == .exact host) = (name == host) := by
  rw [Bool.eq_iff_iff, beq_iff_eq, beq_iff_eq, HostPattern.exact.injEq]

theorem wildcard_beq_exact (suffix host : String) :
    (HostPattern.wildcard suffix == .exact host) = false :=
  beq_eq_false_iff_ne.2 (by intro h; cases h)

namespace HostRules

def isFor (host : String) (redirect : HostPattern × String) : Bool :=
  redirect.1 == .exact host

def isWildcardFor (host : String) (redirect : HostPattern × String) : Bool :=
  match redirect.1 with
  | .wildcard suffix => endsWith host suffix
  | .exact _ => false

theorem getElem?_foldl_targets (redirects : List (HostPattern × String))
    (targets : Std.HashMap String String) (host : String) :
    (redirects.foldl
      (fun targets redirect =>
        match redirect.1 with
        | .exact name => targets.insert name redirect.2
        | .wildcard _ => targets)
      targets)[host]? =
      ((redirects.reverse.find? (isFor host)).map (·.2)).or targets[host]? := by
  -- For any map to start from, since the rest of the list finds what its head left there.
  induction redirects generalizing targets with
  | nil => rfl
  | cons redirect rest ih =>
    rcases redirect with ⟨pattern, target⟩
    rw [List.foldl_cons, ih, List.reverse_cons, List.find?_append]
    cases hfound : rest.reverse.find? (isFor host) with
    | some found => rfl
    | none =>
      cases pattern with
      | exact name =>
        simp only [isFor, List.find?_cons, List.find?_nil, eq_comm_beq, Std.HashMap.getElem?_insert]
        by_cases hname : (name == host) = true
        · simp only [hname, if_true]; rfl
        · simp only [hname]; rfl
      | wildcard suffix =>
        simp only [isFor, List.find?_cons, List.find?_nil, wildcard_beq_exact]
        rfl

theorem getElem?_nameTargets (redirects : List (HostPattern × String)) (host : String) :
    (nameTargets redirects)[host]? = (redirects.reverse.find? (isFor host)).map (·.2) := by
  have hfold := getElem?_foldl_targets redirects ∅ host
  rw [Std.HashMap.getElem?_empty, Option.or_none] at hfold
  exact hfold

theorem find?_suffixTargets (redirects : List (HostPattern × String)) (host : String) :
    ((suffixTargets redirects).find? fun entry => endsWith host entry.1).map (·.2) =
      (redirects.find? (isWildcardFor host)).map (·.2) := by
  induction redirects with
  | nil => rfl
  | cons redirect rest ih =>
    rcases redirect with ⟨pattern, target⟩
    cases pattern with
    | exact name =>
      have hskip : suffixTargets ((.exact name, target) :: rest) = suffixTargets rest := rfl
      rw [hskip, ih, List.find?_cons]
      rfl
    | wildcard suffix =>
      have hkeep : suffixTargets ((.wildcard suffix, target) :: rest) =
          (suffix, target) :: suffixTargets rest := rfl
      rw [hkeep, List.find?_cons, List.find?_cons]
      have hcovers : isWildcardFor host (.wildcard suffix, target) = endsWith host suffix := rfl
      rw [hcovers]
      cases endsWith host suffix with
      | true => rfl
      | false => exact ih

def compiled (entry : String × String) : HostPattern × String :=
  (HostPattern.ofText entry.1, Text.trim entry.2)

theorem redirectTarget?_ofLists (lists : RuleLists) (host : String) :
    (ofLists lists).redirectTarget? host =
      (lists.exactTarget? host).or (lists.wildcardTarget? host) := by
  have htarget : (fun redirect : HostPattern × String => redirect.2) ∘ compiled =
      RuleLists.target := by
    funext entry
    rfl
  have hnames : (ofLists lists).redirectNames = nameTargets (lists.redirected.map compiled) := rfl
  have hsuffixes : (ofLists lists).redirectSuffixes =
      suffixTargets (lists.redirected.map compiled) := rfl
  have hfor : isFor host ∘ compiled = fun entry => HostPattern.ofText entry.1 == .exact host := by
    funext entry
    simp only [Function.comp_apply, isFor, compiled]
  have hexact : (ofLists lists).redirectNames[host]? = lists.exactTarget? host := by
    rw [hnames, getElem?_nameTargets, ← List.map_reverse, List.find?_map, Option.map_map, htarget,
      hfor, RuleLists.exactTarget?]
  have hwildcard : ((ofLists lists).redirectSuffixes.find? fun entry =>
      endsWith host entry.1).map (·.2) = lists.wildcardTarget? host := by
    rw [hsuffixes, find?_suffixTargets, List.find?_map, Option.map_map, htarget,
      RuleLists.wildcardTarget?]
    apply congrArg fun covers => (lists.redirected.find? covers).map RuleLists.target
    funext entry
    cases hpattern : HostPattern.ofText entry.1 <;>
      simp only [Function.comp_apply, compiled, isWildcardFor, hpattern]
  rw [redirectTarget?, hexact, hwildcard]
  cases lists.exactTarget? host <;> rfl

theorem classify_eq_decide (lists : RuleLists) (host : String) :
    (ofLists lists).classify host = lists.decide host := by
  have hallowed : (ofLists lists).allowed.covers (normalizeHost host) =
      RuleLists.anyCovers lists.allowed (normalizeHost host) := HostPatterns.covers_ofList _ _
  have hblocked : (ofLists lists).blocked.covers (normalizeHost host) =
      RuleLists.anyCovers lists.blocked (normalizeHost host) := HostPatterns.covers_ofList _ _
  cases htarget : (lists.exactTarget? (normalizeHost host)).or
      (lists.wildcardTarget? (normalizeHost host)) with
  | some target => simp only [classify, RuleLists.decide, redirectTarget?_ofLists, htarget]
  | none =>
    simp only [classify, RuleLists.decide, redirectTarget?_ofLists, htarget, hallowed, hblocked]

end HostRules

namespace RuleLists

variable {lists : RuleLists} {host : String}

theorem exactTarget?_eq_none
    (h : ∀ entry ∈ lists.redirected, (HostPattern.ofText entry.1).covers host = false) :
    lists.exactTarget? host = none := by
  rw [exactTarget?, Option.map_eq_none_iff, List.find?_eq_none]
  intro entry hentry hexact
  have huncovered := h entry (List.mem_reverse.1 hentry)
  rw [eq_of_beq hexact, HostPattern.covers, beq_self_eq_true] at huncovered
  cases huncovered

theorem wildcardTarget?_eq_none
    (h : ∀ entry ∈ lists.redirected, (HostPattern.ofText entry.1).covers host = false) :
    lists.wildcardTarget? host = none := by
  rw [wildcardTarget?, Option.map_eq_none_iff, List.find?_eq_none]
  intro entry hentry hcovers
  have huncovered := h entry hentry
  split at hcovers
  · rename_i suffix hwildcard
    rw [hwildcard, HostPattern.covers, hcovers] at huncovered
    cases huncovered
  · cases hcovers

theorem anyCovers_eq_false {patterns : List String}
    (h : ∀ text ∈ patterns, (HostPattern.ofText text).covers host = false) :
    anyCovers patterns host = false := by
  rw [anyCovers, List.any_eq_false]
  intro text htext
  rw [h text htext]
  exact Bool.false_ne_true

theorem decide_eq_blocked {text : String} (hblocked : text ∈ lists.blocked)
    (hcovers : (HostPattern.ofText text).covers (normalizeHost host) = true)
    (hallowed : ∀ text ∈ lists.allowed,
      (HostPattern.ofText text).covers (normalizeHost host) = false)
    (hredirected : ∀ entry ∈ lists.redirected,
      (HostPattern.ofText entry.1).covers (normalizeHost host) = false) :
    lists.decide host = .blocked := by
  have hany : anyCovers lists.blocked (normalizeHost host) = true :=
    List.any_eq_true.2 ⟨text, hblocked, hcovers⟩
  simp only [decide, exactTarget?_eq_none hredirected, wildcardTarget?_eq_none hredirected,
    anyCovers_eq_false hallowed, hany]
  rfl

end RuleLists

end Sinkhole
