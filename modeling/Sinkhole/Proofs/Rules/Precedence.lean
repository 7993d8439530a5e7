import Sinkhole.Proofs.Places
import Sinkhole.Proofs.Rules.Spelling

/-! # Which rule decides

What lists of rules say about a name, in terms of the patterns as they are written: the last
redirect of this very name decides, then the first wildcard redirect over it, then the allowed
patterns, then the blocked ones. Every name has exactly one answer, and compiled rules give it.
-/
namespace Sinkhole

/-- The pattern spells this very name. A name with a star in front is no name of a pattern. -/
def IsName (text name : String) : Prop :=
  normalizeHost text = name ∧ name.toList.head? ≠ some '*'

/-- What the pattern has behind a star is an end of the name. -/
def IsWildcardOver (text name : String) : Prop :=
  ∃ suffix, (normalizeHost text).toList = '*' :: suffix ∧ suffix <:+ name.toList

def IsFor (text name : String) : Prop := IsName text name ∨ IsWildcardOver text name

variable {text name : String}

theorem ofText_eq_exact_iff : HostPattern.ofText text = .exact name ↔ IsName text name := by
  rw [HostPattern.ofText, IsName]
  split
  · rename_i suffix hstar
    constructor
    · intro h
      cases h
    · rintro ⟨rfl, hname⟩
      rw [hstar] at hname
      exact absurd rfl hname
  · rename_i hnone
    rw [HostPattern.exact.injEq]
    constructor
    · rintro rfl
      refine ⟨rfl, ?_⟩
      intro hhead
      obtain ⟨suffix, hstar⟩ := List.head?_eq_some_iff.1 hhead
      exact hnone suffix hstar
    · exact And.left

theorem ofText_eq_wildcard_iff {suffix : String} :
    HostPattern.ofText text = .wildcard suffix ↔
      (normalizeHost text).toList = '*' :: suffix.toList := by
  rw [HostPattern.ofText]
  split
  · rename_i rest hstar
    rw [HostPattern.wildcard.injEq, hstar, List.cons.injEq, ← String.toList_inj,
      String.toList_ofList]
    simp
  · rename_i hnone
    constructor
    · intro h
      cases h
    · intro hstar
      exact absurd hstar (hnone suffix.toList)

theorem isWildcardOver_iff :
    IsWildcardOver text name ↔
      ∃ suffix, HostPattern.ofText text = .wildcard suffix ∧ endsWith name suffix = true := by
  constructor
  · rintro ⟨suffix, hstar, hends⟩
    refine ⟨String.ofList suffix, ofText_eq_wildcard_iff.2 ?_, endsWith_iff.2 ?_⟩
    · rw [hstar, String.toList_ofList]
    · rwa [String.toList_ofList]
  · rintro ⟨suffix, hpattern, hends⟩
    exact ⟨suffix.toList, ofText_eq_wildcard_iff.1 hpattern, endsWith_iff.1 hends⟩

theorem covers_ofText_iff : (HostPattern.ofText text).covers name = true ↔ IsFor text name := by
  rw [IsFor, ← ofText_eq_exact_iff, isWildcardOver_iff]
  cases HostPattern.ofText text with
  | exact other => simp [HostPattern.covers]
  | wildcard suffix => simp [HostPattern.covers]

namespace RuleLists

variable {lists : RuleLists} {target : String}

theorem exactTarget?_eq_some_iff :
    lists.exactTarget? name = some target ↔
      ∃ entry, IsLast (fun entry => IsName entry.1 name) lists.redirected entry ∧
        Text.trim entry.2 = target := by
  rw [exactTarget?, Option.map_eq_some_iff]
  apply exists_congr
  intro entry
  rw [find?_eq_some_iff_isFirst fun entry => beq_iff_eq.trans ofText_eq_exact_iff,
    isFirst_reverse_iff, RuleLists.target]

theorem exactTarget?_eq_none_iff :
    lists.exactTarget? name = none ↔ ∀ entry ∈ lists.redirected, ¬ IsName entry.1 name := by
  rw [exactTarget?, Option.map_eq_none_iff,
    find?_eq_none_iff_forall fun entry => beq_iff_eq.trans ofText_eq_exact_iff]
  simp only [List.mem_reverse]

theorem exists_wildcardTarget?_eq (lists : RuleLists) (name : String) :
    ∃ test : String × String → Bool,
      lists.wildcardTarget? name = (lists.redirected.find? test).map RuleLists.target ∧
        ∀ entry, test entry = true ↔ IsWildcardOver entry.1 name := by
  refine ⟨_, rfl, ?_⟩
  intro entry
  rw [isWildcardOver_iff]
  cases HostPattern.ofText entry.1 with
  | exact other => simp
  | wildcard suffix => simp

theorem wildcardTarget?_eq_some_iff :
    lists.wildcardTarget? name = some target ↔
      ∃ entry, IsFirst (fun entry => IsWildcardOver entry.1 name) lists.redirected entry ∧
        Text.trim entry.2 = target := by
  obtain ⟨test, hfind, htest⟩ := exists_wildcardTarget?_eq lists name
  rw [hfind, Option.map_eq_some_iff]
  apply exists_congr
  intro entry
  rw [find?_eq_some_iff_isFirst htest, RuleLists.target]

theorem wildcardTarget?_eq_none_iff :
    lists.wildcardTarget? name = none ↔
      ∀ entry ∈ lists.redirected, ¬ IsWildcardOver entry.1 name := by
  obtain ⟨test, hfind, htest⟩ := exists_wildcardTarget?_eq lists name
  rw [hfind, Option.map_eq_none_iff, find?_eq_none_iff_forall htest]

theorem anyCovers_iff {texts : List String} :
    anyCovers texts name = true ↔ ∃ text ∈ texts, IsFor text name := by
  simp only [anyCovers, List.any_eq_true, covers_ofText_iff]

/-- No redirect says anything about the name. -/
def LeavesAlone (lists : RuleLists) (name : String) : Prop :=
  ∀ entry ∈ lists.redirected, ¬ IsFor entry.1 name

/-- What the lists say about a name. -/
inductive Decides (lists : RuleLists) (name : String) : Classification → Prop where
  | redirectedByName {entry : String × String}
      (hlast : IsLast (fun entry => IsName entry.1 name) lists.redirected entry) :
      Decides lists name (.redirected (Text.trim entry.2))
  | redirectedByWildcard {entry : String × String}
      (hnames : ∀ entry ∈ lists.redirected, ¬ IsName entry.1 name)
      (hfirst : IsFirst (fun entry => IsWildcardOver entry.1 name) lists.redirected entry) :
      Decides lists name (.redirected (Text.trim entry.2))
  | allowed (hredirects : lists.LeavesAlone name)
      (hallowed : ∃ text ∈ lists.allowed, IsFor text name) : Decides lists name .allowed
  | blocked (hredirects : lists.LeavesAlone name)
      (hallowed : ∀ text ∈ lists.allowed, ¬ IsFor text name)
      (hblocked : ∃ text ∈ lists.blocked, IsFor text name) : Decides lists name .blocked
  | unlisted (hredirects : lists.LeavesAlone name)
      (hallowed : ∀ text ∈ lists.allowed, ¬ IsFor text name)
      (hblocked : ∀ text ∈ lists.blocked, ¬ IsFor text name) : Decides lists name .allowed

theorem redirect_eq_none_iff :
    (lists.exactTarget? name).or (lists.wildcardTarget? name) = none ↔ lists.LeavesAlone name := by
  rw [Option.or_eq_none_iff, exactTarget?_eq_none_iff, wildcardTarget?_eq_none_iff, LeavesAlone]
  simp only [IsFor, not_or, ← forall_and]

theorem anyCovers_eq_false_iff {texts : List String} :
    anyCovers texts name = false ↔ ∀ text ∈ texts, ¬ IsFor text name := by
  rw [Bool.eq_false_iff, ne_eq, anyCovers_iff, not_exists]
  simp only [not_and]

variable {host : String} {result : Classification}

theorem Decides.decide_eq (h : lists.Decides (normalizeHost host) result) :
    lists.decide host = result := by
  cases h with
  | redirectedByName hlast =>
    have hexact := exactTarget?_eq_some_iff.2 ⟨_, hlast, rfl⟩
    simp only [decide, hexact, Option.some_or]
  | redirectedByWildcard hnames hfirst =>
    have hexact := exactTarget?_eq_none_iff.2 hnames
    have hwildcard := wildcardTarget?_eq_some_iff.2 ⟨_, hfirst, rfl⟩
    simp only [decide, hexact, hwildcard, Option.none_or]
  | allowed hredirects hallowed =>
    simp only [decide, redirect_eq_none_iff.2 hredirects, anyCovers_iff.2 hallowed, if_true]
  | blocked hredirects hallowed hblocked =>
    simp only [decide, redirect_eq_none_iff.2 hredirects, anyCovers_eq_false_iff.2 hallowed,
      anyCovers_iff.2 hblocked, if_true, Bool.false_eq_true, if_false]
  | unlisted hredirects hallowed hblocked =>
    simp only [decide, redirect_eq_none_iff.2 hredirects, anyCovers_eq_false_iff.2 hallowed,
      anyCovers_eq_false_iff.2 hblocked, Bool.false_eq_true, if_false]

theorem exists_decides (lists : RuleLists) (name : String) :
    ∃ result, lists.Decides name result := by
  cases hexact : lists.exactTarget? name with
  | some target =>
    obtain ⟨entry, hlast, -⟩ := exactTarget?_eq_some_iff.1 hexact
    exact ⟨_, .redirectedByName hlast⟩
  | none =>
    cases hwildcard : lists.wildcardTarget? name with
    | some target =>
      obtain ⟨entry, hfirst, -⟩ := wildcardTarget?_eq_some_iff.1 hwildcard
      exact ⟨_, .redirectedByWildcard (exactTarget?_eq_none_iff.1 hexact) hfirst⟩
    | none =>
      have hredirects : lists.LeavesAlone name := by
        rw [← redirect_eq_none_iff, hexact, hwildcard]
        rfl
      cases hallowed : anyCovers lists.allowed name with
      | true => exact ⟨_, .allowed hredirects (anyCovers_iff.1 hallowed)⟩
      | false =>
        have hnone := anyCovers_eq_false_iff.1 hallowed
        cases hblocked : anyCovers lists.blocked name with
        | true => exact ⟨_, .blocked hredirects hnone (anyCovers_iff.1 hblocked)⟩
        | false => exact ⟨_, .unlisted hredirects hnone (anyCovers_eq_false_iff.1 hblocked)⟩

theorem decide_eq_iff : lists.decide host = result ↔ lists.Decides (normalizeHost host) result := by
  constructor
  · rintro rfl
    obtain ⟨result, hdecides⟩ := lists.exists_decides (normalizeHost host)
    rwa [hdecides.decide_eq]
  · exact Decides.decide_eq

/-- Compiled rules classify a host as the scan of their lists does, and that is what the lists say
about its name. Other spellings of the host or of patterns, and another order or number of blocked
and allowed patterns, make no difference. -/
theorem classify_followsLists (lists : RuleLists) (host : String) :
    (HostRules.ofLists lists).classify host = lists.decide host ∧
      (∀ result, (HostRules.ofLists lists).classify host = result ↔
        lists.Decides (normalizeHost host) result) ∧
      ∀ others other, lists.Alike others → Respelled host other →
        (HostRules.ofLists others).classify other = (HostRules.ofLists lists).classify host := by
  refine ⟨HostRules.classify_eq_decide lists host, ?_, ?_⟩
  · intro result
    rw [HostRules.classify_eq_decide, decide_eq_iff]
  · intro others other hlists hhost
    exact HostRules.classify_eq_of_alike hlists hhost

/-- Two exact redirects for one name in different spellings, and a wildcard over it before them. -/
def collidingNames : RuleLists where
  blocked := ["Tracker.org.", "*.ads.net"]
  allowed := ["ok.ads.net"]
  redirected := [("*.lan", "::1"), ("Home.lan", "10.0.0.1"), ("home.LAN.", " 10.0.0.2 ")]

def respelledNames : RuleLists where
  blocked := ["*.ADS.net..", "tracker.org", "TRACKER.org"]
  allowed := ["OK.ads.net.", "ok.ads.net"]
  redirected := [("*.LAN.", "::1"), ("home.lan", "10.0.0.1"), ("HOME.lan", " 10.0.0.2 ")]

theorem collidingNames_alike : collidingNames.Alike respelledNames where
  blocked := by decide
  allowed := by decide
  redirected := .cons ⟨by decide, rfl⟩ (.cons ⟨by decide, rfl⟩ (.cons ⟨by decide, rfl⟩ .nil))

theorem classify_followsLists_collidingNames :
    collidingNames.Alike respelledNames ∧ Respelled "home.lan" "HOME.lan.." ∧
      (HostRules.ofLists collidingNames).classify "home.lan" = .redirected "10.0.0.2" ∧
      (HostRules.ofLists respelledNames).classify "HOME.lan.." =
        (HostRules.ofLists collidingNames).classify "home.lan" := by
  obtain ⟨hscan, -, halike⟩ := classify_followsLists collidingNames "home.lan"
  have hhost : Respelled "home.lan" "HOME.lan.." := by decide
  exact ⟨collidingNames_alike, hhost, hscan.trans (by decide),
    halike respelledNames "HOME.lan.." collidingNames_alike hhost⟩

end RuleLists

end Sinkhole
