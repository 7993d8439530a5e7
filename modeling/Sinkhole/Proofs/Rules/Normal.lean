import Sinkhole.Proofs.Rules.Scan

/-! # Normal forms of host names

Trailing points do not count and neither does the case of letters, whichever is taken away first,
so the normal form of a normal form is itself.
-/
namespace Sinkhole

namespace Text

variable {drop : Char → Bool}

/-- Trimming a text is trimming its back part, unless nothing of that part is left. -/
theorem trimEnd_append (front back : List Char) :
    trimEnd drop (front ++ back) =
      if (trimEnd drop back).isEmpty then trimEnd drop front else front ++ trimEnd drop back := by
  simp only [trimEnd, List.reverse_append, List.dropWhile_append, List.isEmpty_reverse]
  split
  · rfl
  · rw [List.reverse_append, List.reverse_reverse]

theorem trimEnd_append_replicate (text : List Char) (count : Nat) {c : Char} (h : drop c = true) :
    trimEnd drop (text ++ List.replicate count c) = trimEnd drop text := by
  induction count with
  | zero => rw [List.replicate_zero, List.append_nil]
  | succ count ih =>
    rw [List.replicate_succ', ← List.append_assoc, trimEnd_append_of_drop _ h, ih]

theorem trimEnd_suffix_append (front back : List Char) :
    trimEnd drop back <:+ trimEnd drop (front ++ back) := by
  rw [trimEnd_append]
  split
  · rename_i hempty
    rw [List.isEmpty_iff.1 hempty]
    exact List.nil_suffix
  · exact List.suffix_append front _

theorem trimEnd_cons_of_keep {c : Char} (text : List Char) (h : drop c = false) :
    trimEnd drop (c :: text) = c :: trimEnd drop text := by
  have hkeep : trimEnd drop [c] = [c] := trimEnd_append_of_keep [] h
  rw [← List.singleton_append, trimEnd_append, hkeep]
  split
  · rename_i hempty
    rw [List.isEmpty_iff.1 hempty]
  · rfl

theorem map_trimEnd (f : Char → Char) (h : ∀ c, drop (f c) = drop c) (text : List Char) :
    (trimEnd drop text).map f = trimEnd drop (text.map f) := by
  have hcomp : drop ∘ f = drop := funext h
  rw [trimEnd, trimEnd, ← List.map_reverse, List.dropWhile_map, hcomp, List.map_reverse]

theorem trimEnd_trimEnd (text : List Char) :
    trimEnd drop (trimEnd drop text) = trimEnd drop text :=
  List.rdropWhile_idempotent drop text

theorem toNat_toLower (c : Char) :
    c.toLower.toNat = if 65 ≤ c.toNat ∧ c.toNat ≤ 90 then c.toNat + 32 else c.toNat := by
  have hguard : c.val ≥ 'A'.val ∧ c.val ≤ 'Z'.val ↔ 65 ≤ c.toNat ∧ c.toNat ≤ 90 := Iff.rfl
  rw [Char.toLower]
  split
  · rename_i hupper
    have hsmall : c.val.toNat ≤ 90 := hupper.2
    have hadd : (c.val + 32).toNat = c.val.toNat + 32 := by
      rw [UInt32.toNat_add]
      exact Nat.mod_eq_of_lt (Nat.lt_of_le_of_lt (Nat.add_le_add_right hsmall 32) (by decide))
    rw [if_pos (hguard.1 hupper)]
    exact hadd
  · rename_i hother
    rw [if_neg (mt hguard.2 hother)]

theorem toLower_eq_iff {c d : Char} (hd : d.toNat < 65) : c.toLower = d ↔ c = d := by
  rw [← Char.toNat_inj, ← Char.toNat_inj, toNat_toLower]
  split <;> omega

theorem toLower_toLower (c : Char) : c.toLower.toLower = c.toLower := by
  rw [← Char.toNat_inj, toNat_toLower c.toLower, toNat_toLower c, if_neg]
  split <;> omega

end Text

def isPoint (c : Char) : Bool := c == '.'

theorem isPoint_toLower (c : Char) : isPoint c.toLower = isPoint c := by
  rw [isPoint, isPoint, Bool.eq_iff_iff, beq_iff_eq, beq_iff_eq]
  exact Text.toLower_eq_iff (by decide)

theorem toList_normalizeHost (host : String) :
    (normalizeHost host).toList = Text.trimEnd isPoint (host.toList.map Char.toLower) := by
  rw [normalizeHost, String.toList_ofList]
  exact Text.map_trimEnd Char.toLower isPoint_toLower _

theorem normalizeHost_normalizeHost (host : String) :
    normalizeHost (normalizeHost host) = normalizeHost host := by
  have hlower : Char.toLower ∘ Char.toLower = Char.toLower := funext Text.toLower_toLower
  rw [← String.toList_inj, toList_normalizeHost, toList_normalizeHost,
    Text.map_trimEnd Char.toLower isPoint_toLower, List.map_map, hlower, Text.trimEnd_trimEnd]

theorem HostPattern.covers_ofText_normalizeHost (text : String) :
    (HostPattern.ofText text).covers (normalizeHost text) = true := by
  rw [HostPattern.ofText]
  split
  · rename_i suffix hstar
    rw [HostPattern.covers, endsWith_iff, String.toList_ofList, hstar]
    exact List.suffix_cons '*' suffix
  · rw [HostPattern.covers, beq_self_eq_true]

end Sinkhole
