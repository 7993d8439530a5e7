import Sinkhole.Config.Validation
import Sinkhole.Proofs.Rules.Normal

/-! # What accepted patterns compile to

Validation reads a pattern as it is written, compiling drops its trailing points first. Most
accepted patterns become a name, or the point and the name that a wildcard stands in front of. The
patterns that pass and become something else are listed by `IsStray`; compiled rules are specific,
and leave some host and the base name of every wildcard alone, exactly when none of these is there.
-/
namespace Sinkhole

/-- A point with something behind it, as only the names below a name end with it. -/
def IsZone (suffix : String) : Prop :=
  suffix.toList.head? = some '.' ∧ 1 < suffix.toList.length

instance (suffix : String) : Decidable (IsZone suffix) :=
  inferInstanceAs (Decidable (_ ∧ _))

def baseName (suffix : String) : String :=
  match suffix.toList with
  | '.' :: rest => String.ofList rest
  | _ => suffix

/-- The patterns that validation accepts and that neither name a host nor stand in front of one. -/
inductive IsStray (text : String) : Prop
  /-- Nothing but points, as the root is written. -/
  | root (count : Nat) (points : text.toList = List.replicate (count + 1) '.')
  /-- A star with no point behind it. -/
  | openStar (rest : List Char) (star : text.toList = '*' :: rest) (noPoint : rest.head? ≠ some '.')
  /-- A star with nothing but points behind it, more than the one that is refused. -/
  | emptyZone (count : Nat) (star : text.toList = '*' :: List.replicate (count + 2) '.')

theorem IsZone.toList_eq {suffix : String} (h : IsZone suffix) :
    suffix.toList = '.' :: (baseName suffix).toList := by
  obtain ⟨rest, hsuffix⟩ := List.head?_eq_some_iff.1 h.1
  simp only [baseName, hsuffix, String.toList_ofList]

theorem IsZone.endsWith_baseName {suffix : String} (h : IsZone suffix) :
    endsWith (baseName suffix) suffix = false := by
  rw [Bool.eq_false_iff, ne_eq, endsWith_iff, h.toList_eq]
  intro hends
  have hlength := hends.length_le
  rw [List.length_cons] at hlength
  omega

theorem IsZone.baseName_ne_empty {suffix : String} (h : IsZone suffix) : baseName suffix ≠ "" := by
  intro hempty
  have hlength := h.2
  rw [h.toList_eq, hempty] at hlength
  simp at hlength

namespace HostPattern

/-- A name that is not empty, or a wildcard in front of one. -/
inductive IsSpecific : HostPattern → Prop
  | exact {name : String} (h : name ≠ "") : IsSpecific (exact name)
  | wildcard {suffix : String} (h : IsZone suffix) : IsSpecific (wildcard suffix)

@[simp] theorem isSpecific_exact_iff {name : String} :
    (exact name).IsSpecific ↔ name ≠ "" :=
  ⟨fun | .exact h => h, .exact⟩

@[simp] theorem isSpecific_wildcard_iff {suffix : String} :
    (wildcard suffix).IsSpecific ↔ IsZone suffix :=
  ⟨fun | .wildcard h => h, .wildcard⟩

instance : DecidablePred IsSpecific
  | exact _ => decidable_of_iff _ isSpecific_exact_iff.symm
  | wildcard _ => decidable_of_iff _ isSpecific_wildcard_iff.symm

/-- A host besides the root that a pattern does not cover. -/
def Spares (pattern : HostPattern) : Prop :=
  ∃ host, host ≠ "" ∧ pattern.covers host = false

theorem IsSpecific.spares {pattern : HostPattern} (h : pattern.IsSpecific) : pattern.Spares := by
  cases h with
  | @exact name =>
    by_cases hname : name = "a"
    · refine ⟨"b", by decide, ?_⟩
      rw [hname]
      rfl
    · exact ⟨"a", by decide, beq_eq_false_iff_ne.2 hname⟩
  | wildcard h => exact ⟨_, h.baseName_ne_empty, h.endsWith_baseName⟩

end HostPattern

namespace Text

theorem trimEnd_eq_nil_iff {drop : Char → Bool} {text : List Char} :
    trimEnd drop text = [] ↔ ∀ c ∈ text, drop c = true :=
  List.rdropWhile_eq_nil_iff

end Text

theorem trimEnd_toLower_eq_nil_iff {text : List Char} :
    Text.trimEnd isPoint (text.map Char.toLower) = [] ↔
      text = List.replicate text.length '.' := by
  simp [Text.trimEnd_eq_nil_iff, List.eq_replicate_iff, isPoint,
    Text.toLower_eq_iff (show '.'.toNat < 65 by decide)]

theorem isZone_trimEnd_iff {text : List Char} :
    IsZone (String.ofList (Text.trimEnd isPoint (text.map Char.toLower))) ↔
      text.head? = some '.' ∧ text ≠ List.replicate text.length '.' := by
  rw [ne_eq, ← trimEnd_toLower_eq_nil_iff, IsZone, String.toList_ofList]
  cases text with
  | nil => simp [Text.trimEnd]
  | cons first rest =>
    let back := Text.trimEnd isPoint (rest.map Char.toLower)
    by_cases hpoint : first = '.'
    · subst hpoint
      have htrim : Text.trimEnd isPoint (('.' :: rest).map Char.toLower) =
          if back.isEmpty then [] else '.' :: back :=
        Text.trimEnd_append ['.'] (rest.map Char.toLower)
      rw [htrim]
      by_cases hback : back = []
      · simp [hback]
      · simp [hback, List.length_pos_iff]
    · have hlower : first.toLower ≠ '.' := mt (Text.toLower_eq_iff (by decide)).1 hpoint
      have htrim : Text.trimEnd isPoint ((first :: rest).map Char.toLower) =
          first.toLower :: back :=
        Text.trimEnd_cons_of_keep _ (beq_eq_false_iff_ne.2 hlower)
      rw [htrim]
      simp [hlower, hpoint]

namespace HostPattern

theorem ofText_star {text : String} {rest : List Char} (h : text.toList = '*' :: rest) :
    ofText text =
      .wildcard (String.ofList (Text.trimEnd isPoint (rest.map Char.toLower))) := by
  have hname : (normalizeHost text).toList =
      '*' :: Text.trimEnd isPoint (rest.map Char.toLower) := by
    rw [toList_normalizeHost, h, List.map_cons]
    exact Text.trimEnd_cons_of_keep _ (by decide)
  simp only [ofText, hname]

theorem ofText_of_no_star {text : String} (h : text.toList.head? ≠ some '*') :
    ofText text = .exact (normalizeHost text) := by
  rw [ofText]
  split
  · rename_i suffix hname
    -- The normal form is a front part of the text in lowercase, so its star is that of the text.
    have hfront : '*' :: suffix <+: text.toList.map Char.toLower := by
      rw [← hname, toList_normalizeHost]
      exact List.rdropWhile_prefix isPoint _
    exfalso
    cases htext : text.toList with
    | nil => simp [htext] at hfront
    | cons first rest =>
      rw [htext, List.map_cons, List.cons_prefix_cons] at hfront
      have hfirst := (Text.toLower_eq_iff (show '*'.toNat < 65 by decide)).1 hfront.1.symm
      exact h (by rw [htext, hfirst]; rfl)
  · rfl

theorem isSpecific_of_star {text : String} {rest : List Char} (h : patternFault? text = none)
    (htext : text.toList = '*' :: rest) : (ofText text).IsSpecific ↔ ¬ IsStray text := by
  rw [ofText_star htext, isSpecific_wildcard_iff, isZone_trimEnd_iff]
  constructor
  · rintro ⟨hpoint, hmore⟩ (⟨count, hroot⟩ | ⟨other, hother, hopen⟩ | ⟨count, hempty⟩)
    · rw [htext, List.replicate_succ] at hroot
      cases hroot
    · rw [htext] at hother
      cases hother
      exact hopen hpoint
    · rw [htext] at hempty
      cases hempty
      exact hmore (by simp)
  · intro hstray
    have hpoint : rest.head? = some '.' := by
      by_contra hopen
      exact hstray (.openStar rest htext hopen)
    refine ⟨hpoint, ?_⟩
    intro hpoints
    obtain ⟨more, rfl⟩ := List.head?_eq_some_iff.1 hpoint
    cases more with
    | nil => simp [patternFault?, htext] at h
    | cons second more => exact hstray (.emptyZone more.length (by rw [htext, hpoints]; rfl))

theorem isSpecific_of_no_star {text : String} (h : patternFault? text = none)
    (hstar : text.toList.head? ≠ some '*') : (ofText text).IsSpecific ↔ ¬ IsStray text := by
  rw [ofText_of_no_star hstar, isSpecific_exact_iff, ne_eq, ← String.toList_eq_nil_iff,
    toList_normalizeHost, trimEnd_toLower_eq_nil_iff, not_iff_not]
  constructor
  · intro hpoints
    cases htext : text.toList with
    | nil => simp [patternFault?, htext] at h
    | cons first rest => exact .root rest.length (by rw [hpoints, htext]; rfl)
  · rintro (⟨count, hroot⟩ | ⟨rest, htext, -⟩ | ⟨count, htext⟩)
    · rw [hroot, List.length_replicate]
    · exact absurd (by rw [htext]; rfl) hstar
    · exact absurd (by rw [htext]; rfl) hstar

/-- What is accepted and compiles to nothing specific is a stray pattern. -/
theorem isSpecific_ofText_iff {text : String} (h : patternFault? text = none) :
    (ofText text).IsSpecific ↔ ¬ IsStray text := by
  by_cases hstar : text.toList.head? = some '*'
  · obtain ⟨rest, htext⟩ := List.head?_eq_some_iff.1 hstar
    exact isSpecific_of_star h htext
  · exact isSpecific_of_no_star h hstar

end HostPattern

namespace HostPattern

theorem mem_filterMap_name?_iff {patterns : List HostPattern} {name : String} :
    name ∈ patterns.filterMap name? ↔ .exact name ∈ patterns := by
  rw [List.mem_filterMap]
  constructor
  · rintro ⟨other | suffix, hmem, hname⟩ <;> cases hname
    exact hmem
  · intro hmem
    exact ⟨.exact name, hmem, rfl⟩

theorem mem_filterMap_suffix?_iff {patterns : List HostPattern} {suffix : String} :
    suffix ∈ patterns.filterMap suffix? ↔ .wildcard suffix ∈ patterns := by
  rw [List.mem_filterMap]
  constructor
  · rintro ⟨name | other, hmem, hsuffix⟩ <;> cases hsuffix
    exact hmem
  · intro hmem
    exact ⟨.wildcard suffix, hmem, rfl⟩

theorem forall_isSpecific_iff {patterns : List HostPattern} :
    (∀ pattern ∈ patterns, pattern.IsSpecific) ↔
      "" ∉ patterns.filterMap name? ∧ ∀ suffix ∈ patterns.filterMap suffix?, IsZone suffix := by
  simp only [mem_filterMap_name?_iff, mem_filterMap_suffix?_iff]
  constructor
  · intro hall
    exact ⟨fun hmem => isSpecific_exact_iff.1 (hall _ hmem) rfl,
      fun suffix hmem => isSpecific_wildcard_iff.1 (hall _ hmem)⟩
  · rintro ⟨hnames, hsuffixes⟩ (name | suffix) hmem
    · rw [isSpecific_exact_iff]
      rintro rfl
      exact hnames hmem
    · exact .wildcard (hsuffixes suffix hmem)

end HostPattern

namespace HostPatterns

/-- No name of the list is empty, and every suffix is that of a wildcard in front of a name. -/
structure IsSpecific (patterns : HostPatterns) : Prop where
  names : "" ∉ patterns.names
  suffixes : ∀ suffix ∈ patterns.suffixes, IsZone suffix

theorem isSpecific_ofList_iff (texts : List String) :
    (ofList texts).IsSpecific ↔ ∀ text ∈ texts, (HostPattern.ofText text).IsSpecific := by
  let patterns := texts.map HostPattern.ofText
  have hnames : "" ∈ (ofList texts).names ↔ "" ∈ patterns.filterMap HostPattern.name? := by
    rw [← Std.HashSet.contains_iff_mem, ← List.contains_iff_mem]
    exact iff_of_eq (congrArg (· = true) Std.HashSet.contains_ofList)
  rw [← List.forall_mem_map (f := HostPattern.ofText) (P := HostPattern.IsSpecific),
    HostPattern.forall_isSpecific_iff, ← hnames]
  exact ⟨fun h => ⟨h.names, h.suffixes⟩, fun h => ⟨h.1, h.2⟩⟩

end HostPatterns

namespace HostRules

/-- Every pattern of the three lists has become a name that is not empty or the suffix of a
wildcard in front of one. -/
structure IsSpecific (rules : HostRules) : Prop where
  blocked : rules.blocked.IsSpecific
  allowed : rules.allowed.IsSpecific
  redirectNames : "" ∉ rules.redirectNames
  redirectSuffixes : ∀ entry ∈ rules.redirectSuffixes, IsZone entry.1

theorem mem_nameTargets_iff {redirects : List (HostPattern × String)} {name : String} :
    name ∈ nameTargets redirects ↔
      name ∈ (redirects.map (·.1)).filterMap HostPattern.name? := by
  rw [HostPattern.mem_filterMap_name?_iff, Std.HashMap.mem_iff_isSome_getElem?,
    getElem?_nameTargets, Option.isSome_map, List.find?_isSome, List.mem_map]
  simp only [List.mem_reverse, isFor, beq_iff_eq]

theorem map_fst_suffixTargets (redirects : List (HostPattern × String)) :
    (suffixTargets redirects).map (·.1) =
      (redirects.map (·.1)).filterMap HostPattern.suffix? := by
  rw [suffixTargets, List.map_filterMap, List.filterMap_map]
  congr 1
  funext redirect
  rw [Option.map_map]
  exact Option.map_id'

theorem isSpecific_ofLists_iff (lists : RuleLists) :
    (ofLists lists).IsSpecific ↔
      ∀ text ∈ lists.blocked ++ lists.allowed ++ lists.redirected.map (·.1),
        (HostPattern.ofText text).IsSpecific := by
  let redirects := lists.redirected.map fun entry =>
    (HostPattern.ofText entry.1, Text.trim entry.2)
  have hredirects : (∀ text ∈ lists.redirected.map (·.1), (HostPattern.ofText text).IsSpecific) ↔
      "" ∉ nameTargets redirects ∧ ∀ entry ∈ suffixTargets redirects, IsZone entry.1 := by
    have hpatterns : redirects.map (·.1) =
        (lists.redirected.map (·.1)).map HostPattern.ofText := by
      simp only [redirects, List.map_map, Function.comp_def]
    have hsuffixes : (∀ entry ∈ suffixTargets redirects, IsZone entry.1) ↔
        ∀ suffix ∈ (redirects.map (·.1)).filterMap HostPattern.suffix?, IsZone suffix := by
      rw [← map_fst_suffixTargets, List.forall_mem_map]
    rw [mem_nameTargets_iff, hsuffixes, ← HostPattern.forall_isSpecific_iff, hpatterns]
    simp only [List.forall_mem_map]
  simp only [List.mem_append, or_imp, forall_and]
  rw [← HostPatterns.isSpecific_ofList_iff, ← HostPatterns.isSpecific_ofList_iff, hredirects]
  exact ⟨fun h => ⟨⟨h.blocked, h.allowed⟩, h.redirectNames, h.redirectSuffixes⟩,
    fun h => ⟨h.1.1, h.1.2, h.2.1, h.2.2⟩⟩

end HostRules

namespace Settings

/-- The rules stay with the hosts that they are written for: they compile to what is specific, no
pattern covers every host, and no wildcard covers the name that it stands in front of. -/
structure StaysSpecific (settings : Settings) : Prop where
  compiled : (HostRules.ofLists settings.rules).IsSpecific
  spares : ∀ text ∈ settings.patterns, (HostPattern.ofText text).Spares
  sparesBase : ∀ text ∈ settings.patterns, ∀ suffix, HostPattern.ofText text = .wildcard suffix →
    endsWith (baseName suffix) suffix = false

theorem staysSpecific_iff_isSpecific (settings : Settings) :
    settings.StaysSpecific ↔
      ∀ text ∈ settings.patterns, (HostPattern.ofText text).IsSpecific := by
  constructor
  · intro h
    exact (HostRules.isSpecific_ofLists_iff settings.rules).1 h.compiled
  · intro hall
    refine ⟨(HostRules.isSpecific_ofLists_iff settings.rules).2 hall, ?_, ?_⟩
    · intro text hmem
      exact (hall text hmem).spares
    · intro text hmem suffix hwildcard
      have hspecific := hall text hmem
      rw [hwildcard, HostPattern.isSpecific_wildcard_iff] at hspecific
      exact hspecific.endsWith_baseName

theorem patternFault?_of_validate {settings : Settings} (h : settings.validate = .ok ())
    {text : String} (hmem : text ∈ settings.patterns) : patternFault? text = none := by
  have hfault : settings.fault? = none := by
    rw [validate] at h
    split at h
    · cases h
    · assumption
  simp only [fault?, Option.or_eq_none_iff, List.findSome?_eq_none_iff] at hfault
  exact hfault.2.2.1 text hmem

/-- Accepted settings compile to rules that stay with their hosts exactly if there is no stray
pattern among them. -/
theorem staysSpecific_iff (settings : Settings) (h : settings.validate = .ok ()) :
    settings.StaysSpecific ↔ ∀ text ∈ settings.patterns, ¬ IsStray text := by
  rw [staysSpecific_iff_isSpecific]
  constructor
  · intro hall text hmem
    exact (HostPattern.isSpecific_ofText_iff (patternFault?_of_validate h hmem)).1 (hall text hmem)
  · intro hnone text hmem
    exact (HostPattern.isSpecific_ofText_iff (patternFault?_of_validate h hmem)).2
      (hnone text hmem)

/-- Wildcards and names in all three lists, some with capitals or with trailing points. -/
def zonedSettings : Settings where
  rules := {
    blocked := ["*.Ads.example.COM..", "tracker.example."]
    allowed := ["good.ads.example.com", "*..example"]
    redirected := [("*.cdn.example", "::1")] }

theorem staysSpecific_iff_zonedSettings :
    zonedSettings.validate = .ok () ∧ (∀ text ∈ zonedSettings.patterns, ¬ IsStray text) ∧
      zonedSettings.StaysSpecific := by
  have hvalid : zonedSettings.validate = .ok () := by decide
  have hspecific : ∀ text ∈ zonedSettings.patterns, (HostPattern.ofText text).IsSpecific := by
    decide
  have hnone : ∀ text ∈ zonedSettings.patterns, ¬ IsStray text := by
    intro text hmem
    exact (HostPattern.isSpecific_ofText_iff (patternFault?_of_validate hvalid hmem)).1
      (hspecific text hmem)
  exact ⟨hvalid, hnone, (staysSpecific_iff zonedSettings hvalid).2 hnone⟩

/-- A star with two points behind it, of which validation refuses only one. -/
def starPoints : Settings where
  rules := { blocked := ["*.."] }

/-- Settings that are accepted and block every host. -/
theorem not_staysSpecific_starPoints :
    starPoints.validate = .ok () ∧ ¬ starPoints.StaysSpecific ∧
      ∀ host, (HostRules.ofLists starPoints.rules).classify host = .blocked := by
  have hpattern : HostPattern.ofText "*.." = .wildcard "" := by decide
  refine ⟨by decide, ?_, ?_⟩
  · rw [staysSpecific_iff_isSpecific]
    decide
  · intro host
    have hcovers : (HostPattern.ofText "*..").covers (normalizeHost host) = true := by
      rw [hpattern, HostPattern.covers, endsWith_iff]
      exact List.nil_suffix
    rw [HostRules.classify_eq_decide]
    apply RuleLists.decide_eq_blocked List.mem_cons_self hcovers
    · intro text hmem
      cases hmem
    · intro entry hmem
      cases hmem

end Settings

end Sinkhole
