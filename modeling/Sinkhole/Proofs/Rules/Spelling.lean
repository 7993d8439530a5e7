import Sinkhole.Proofs.Rules.Normal

/-! # Spellings of host names

Two texts spell one name when they differ only in the case of ASCII letters and in the points behind
them. These are exactly the texts of one normal form, and rules see nothing but normal forms: lists
whose patterns are spelled in another way, and stand in another order or several times where the
order does not count, decide alike.
-/
namespace Sinkhole

/-- The same character, or the same ASCII letter in the other case. -/
def SameLetter (c d : Char) : Prop :=
  c = d ∨ (c.isUpper = true ∧ d.toNat = c.toNat + 32) ∨ (d.isUpper = true ∧ c.toNat = d.toNat + 32)

theorem isUpper_iff {c : Char} : c.isUpper = true ↔ 65 ≤ c.toNat ∧ c.toNat ≤ 90 := by
  rw [Char.isUpper, decide_eq_true_iff]
  exact Iff.rfl

theorem sameLetter_iff {c d : Char} : SameLetter c d ↔ c.toLower = d.toLower := by
  rw [SameLetter, isUpper_iff, isUpper_iff, ← Char.toNat_inj, ← Char.toNat_inj, Text.toNat_toLower,
    Text.toNat_toLower]
  split <;> split <;> omega

/-- Texts that differ only in the case of ASCII letters and in the number of points behind. -/
def Respelled (text other : String) : Prop :=
  ∃ (stem stem' : List Char) (points points' : Nat),
    text.toList = stem ++ List.replicate points '.' ∧
      other.toList = stem' ++ List.replicate points' '.' ∧ List.Forall₂ SameLetter stem stem'

theorem forall₂_sameLetter_iff {stem stem' : List Char} :
    List.Forall₂ SameLetter stem stem' ↔ stem.map Char.toLower = stem'.map Char.toLower := by
  have hsame : SameLetter = fun c d => c.toLower = d.toLower :=
    funext fun c => funext fun d => propext sameLetter_iff
  rw [hsame, ← List.forall₂_eq_eq_eq, List.forall₂_map_left_iff, List.forall₂_map_right_iff]

theorem Text.exists_eq_trimEnd_append (text : List Char) :
    ∃ points, text = Text.trimEnd isPoint text ++ List.replicate points '.' := by
  refine ⟨(List.rtakeWhile isPoint text).length, ?_⟩
  have hpoints : List.rtakeWhile isPoint text =
      List.replicate (List.rtakeWhile isPoint text).length '.' := by
    apply List.eq_replicate_of_mem
    intro c hc
    have hpoint : isPoint c = true := List.mem_rtakeWhile_imp hc
    exact eq_of_beq hpoint
  rw [← hpoints]
  exact List.rdropWhile_append_rtakeWhile.symm

theorem normalizeHost_eq_iff {text other : String} :
    normalizeHost text = normalizeHost other ↔ Respelled text other := by
  rw [← String.toList_inj, toList_normalizeHost, toList_normalizeHost,
    ← Text.map_trimEnd Char.toLower isPoint_toLower,
    ← Text.map_trimEnd Char.toLower isPoint_toLower]
  constructor
  · intro hnormal
    obtain ⟨points, htext⟩ := Text.exists_eq_trimEnd_append text.toList
    obtain ⟨points', hother⟩ := Text.exists_eq_trimEnd_append other.toList
    exact ⟨_, _, points, points', htext, hother, forall₂_sameLetter_iff.2 hnormal⟩
  · rintro ⟨stem, stem', points, points', htext, hother, hletters⟩
    rw [htext, hother, Text.trimEnd_append_replicate _ _ (by rfl),
      Text.trimEnd_append_replicate _ _ (by rfl), Text.map_trimEnd Char.toLower isPoint_toLower,
      Text.map_trimEnd Char.toLower isPoint_toLower, forall₂_sameLetter_iff.1 hletters]

instance (text other : String) : Decidable (Respelled text other) :=
  decidable_of_iff _ normalizeHost_eq_iff

theorem Respelled.refl (text : String) : Respelled text text := normalizeHost_eq_iff.1 rfl

theorem Respelled.ofText_eq {text other : String} (h : Respelled text other) :
    HostPattern.ofText text = HostPattern.ofText other := by
  rw [HostPattern.ofText, HostPattern.ofText, normalizeHost_eq_iff.2 h]

/-- Every pattern of one list stands somewhere in the other, in some spelling. -/
def SamePatterns (texts others : List String) : Prop :=
  (∀ text ∈ texts, ∃ other ∈ others, Respelled text other) ∧
    ∀ other ∈ others, ∃ text ∈ texts, Respelled text other

instance (texts others : List String) : Decidable (SamePatterns texts others) :=
  inferInstanceAs (Decidable (_ ∧ _))

theorem samePatterns_of_mem_iff {texts others : List String}
    (h : ∀ text, text ∈ texts ↔ text ∈ others) : SamePatterns texts others :=
  ⟨fun text htext => ⟨text, (h text).1 htext, .refl text⟩,
    fun text htext => ⟨text, (h text).2 htext, .refl text⟩⟩

theorem SamePatterns.anyCovers_eq {texts others : List String} (h : SamePatterns texts others)
    (name : String) : RuleLists.anyCovers texts name = RuleLists.anyCovers others name := by
  rw [Bool.eq_iff_iff, RuleLists.anyCovers, RuleLists.anyCovers, List.any_eq_true,
    List.any_eq_true]
  constructor
  · rintro ⟨text, htext, hcovers⟩
    obtain ⟨other, hother, hspelled⟩ := h.1 text htext
    exact ⟨other, hother, by rwa [← hspelled.ofText_eq]⟩
  · rintro ⟨other, hother, hcovers⟩
    obtain ⟨text, htext, hspelled⟩ := h.2 other hother
    exact ⟨text, htext, by rwa [hspelled.ofText_eq]⟩

/-- Lists with the same patterns in any spelling. Blocked and allowed patterns may stand in any
order and number, redirects keep their places and their targets. -/
structure RuleLists.Alike (lists others : RuleLists) : Prop where
  blocked : SamePatterns lists.blocked others.blocked
  allowed : SamePatterns lists.allowed others.allowed
  redirected : List.Forall₂ (fun entry other => Respelled entry.1 other.1 ∧ entry.2 = other.2)
    lists.redirected others.redirected

namespace HostRules

theorem map_compiled_eq {entries others : List (String × String)}
    (h : List.Forall₂ (fun entry other => Respelled entry.1 other.1 ∧ entry.2 = other.2)
      entries others) : entries.map compiled = others.map compiled := by
  induction h with
  | nil => rfl
  | cons hentry _ ih =>
    rw [List.map_cons, List.map_cons, ih, compiled, compiled, hentry.1.ofText_eq, hentry.2]

/-- Neither lists nor hosts can be told apart by their spelling. -/
theorem classify_eq_of_alike {lists others : RuleLists} (hlists : lists.Alike others)
    {host other : String} (hhost : Respelled host other) :
    (ofLists others).classify other = (ofLists lists).classify host := by
  have hname : normalizeHost other = normalizeHost host := (normalizeHost_eq_iff.2 hhost).symm
  have hredirects : others.redirected.map compiled = lists.redirected.map compiled :=
    (map_compiled_eq hlists.redirected).symm
  have htarget : (ofLists others).redirectTarget? = (ofLists lists).redirectTarget? := by
    funext name
    change redirectTarget? ⟨_, _, nameTargets (others.redirected.map compiled),
      suffixTargets (others.redirected.map compiled)⟩ name = _
    rw [hredirects]
    rfl
  have hallowed (name : String) : (ofLists others).allowed.covers name =
      (ofLists lists).allowed.covers name := by
    simp only [ofLists, HostPatterns.covers_ofList]
    exact (hlists.allowed.anyCovers_eq name).symm
  have hblocked (name : String) : (ofLists others).blocked.covers name =
      (ofLists lists).blocked.covers name := by
    simp only [ofLists, HostPatterns.covers_ofList]
    exact (hlists.blocked.anyCovers_eq name).symm
  simp only [classify, hname, htarget, hallowed, hblocked]

theorem classify_eq_of_mem_iff {lists others : RuleLists}
    (hblocked : ∀ text, text ∈ lists.blocked ↔ text ∈ others.blocked)
    (hallowed : ∀ text, text ∈ lists.allowed ↔ text ∈ others.allowed)
    (hredirected : lists.redirected = others.redirected) (host : String) :
    (ofLists others).classify host = (ofLists lists).classify host := by
  have halike : lists.Alike others := {
    blocked := samePatterns_of_mem_iff hblocked
    allowed := samePatterns_of_mem_iff hallowed
    redirected := by
      rw [hredirected]
      exact List.forall₂_same.2 fun entry _ => ⟨.refl entry.1, rfl⟩ }
  exact classify_eq_of_alike halike (.refl host)

end HostRules

end Sinkhole
