import Sinkhole.Dns.NameWire
import Sinkhole.Proofs.Rules.Normal

/-! # Plain patterns label by label

A plain pattern is the labels of a host name, written with points between them and any number of
points behind, perhaps below a star. Rules compare texts and not labels, and a name on the wire may
have any octets. Still a name whose labels the pattern covers, letter case apart, has a text that
the pattern covers.
-/
namespace Sinkhole

namespace Dns

/-- An octet of a plain host label: a letter, a digit, `_`, or a hyphen that does not open it. -/
def isHostOctet (first : Bool) (octet : UInt8) : Bool :=
  let c := Char.ofNat octet.toNat
  c.isAlphanum || c == '_' || (c == '-' && !first)

def isHostLabel : Label → Bool
  | [] => true
  | first :: rest => isHostOctet true first && rest.all (isHostOctet false)

def labelChars (label : Label) : List Char :=
  label.map fun octet => Char.ofNat octet.toNat

def lowerOctet (octet : UInt8) : UInt8 :=
  if 65 ≤ octet && octet ≤ 90 then octet + 32 else octet

theorem labels_lowercase (name : Name) :
    name.lowercase.labels = name.labels.map (List.map lowerOctet) := rfl

private theorem forall_octet {P : UInt8 → Prop} (h : ∀ n < 256, P (UInt8.ofNat n)) :
    ∀ octet, P octet := by
  intro octet
  have hoctet := h octet.toNat octet.toNat_lt
  rwa [UInt8.ofNat_toNat] at hoctet

theorem isHostOctet_lowerOctet (first : Bool) (octet : UInt8) :
    isHostOctet first (lowerOctet octet) = isHostOctet first octet := by
  cases first with
  | false =>
    exact forall_octet
      (P := fun octet => isHostOctet false (lowerOctet octet) = isHostOctet false octet)
      (by decide +kernel) octet
  | true =>
    exact forall_octet
      (P := fun octet => isHostOctet true (lowerOctet octet) = isHostOctet true octet)
      (by decide +kernel) octet

theorem toLower_octet (octet : UInt8) :
    (Char.ofNat octet.toNat).toLower = Char.ofNat (lowerOctet octet).toNat :=
  forall_octet
    (P := fun octet => (Char.ofNat octet.toNat).toLower = Char.ofNat (lowerOctet octet).toNat)
    (by decide +kernel) octet

theorem isHostLabel_lower (label : Label) :
    isHostLabel (label.map lowerOctet) = isHostLabel label := by
  cases label with
  | nil => rfl
  | cons first rest =>
    have hrest : isHostOctet false ∘ lowerOctet = isHostOctet false :=
      funext (isHostOctet_lowerOctet false)
    rw [List.map_cons, isHostLabel, isHostLabel, isHostOctet_lowerOctet, List.all_map, hrest]

theorem map_toLower_labelChars (label : Label) :
    (labelChars label).map Char.toLower = labelChars (label.map lowerOctet) := by
  simp only [labelChars, List.map_map, Function.comp_def, toLower_octet]

theorem octetText_of_isHostOctet {first : Bool} {octet : UInt8}
    (h : isHostOctet first octet = true) :
    Name.octetText first octet = [Char.ofNat octet.toNat] := by
  have hplain : Name.isPlain first octet = true := by
    rw [isHostOctet] at h
    rw [Name.isPlain]
    exact Bool.or_eq_true_iff.2 (Or.inl h)
  rw [Name.octetText, if_pos hplain]

theorem labelText_of_isHostLabel {label : Label} (h : isHostLabel label = true) :
    Name.labelText label = labelChars label := by
  cases label with
  | nil => rfl
  | cons first rest =>
    rw [isHostLabel, Bool.and_eq_true] at h
    obtain ⟨hfirst, hrest⟩ := h
    rw [Name.labelText, octetText_of_isHostOctet hfirst, labelChars, List.map_cons,
      List.singleton_append]
    congr 1
    induction rest with
    | nil => rfl
    | cons octet rest ih =>
      rw [List.all_cons, Bool.and_eq_true] at hrest
      rw [List.flatMap_cons, octetText_of_isHostOctet hrest.1, ih hrest.2, List.map_cons,
        List.singleton_append]

theorem lower_labelText {label host : Label} (h : label.map lowerOctet = host.map lowerOctet)
    (hhost : isHostLabel host = true) :
    (Name.labelText label).map Char.toLower = labelChars (host.map lowerOctet) := by
  have hlabel : isHostLabel label = true := by
    rw [← isHostLabel_lower, h, isHostLabel_lower, hhost]
  rw [labelText_of_isHostLabel hlabel, map_toLower_labelChars, h]

def lowerText (labels : List Label) : List Char :=
  labels.flatMap fun label => (Name.labelText label).map Char.toLower ++ ['.']

theorem toList_host (name : Name) :
    name.host.toList = Text.trimEnd isPoint (lowerText name.labels) := by
  rw [Name.host, toList_normalizeHost, Name.text]
  split
  · rename_i hroot
    rw [hroot]
    rfl
  · rw [String.toList_ofList, List.map_flatMap, lowerText]
    simp only [List.map_append]
    rfl

/-- Behind any text, points between texts and points after each of them trim to the same. -/
theorem trimEnd_intercalate (front : List Char) (texts : List (List Char)) :
    Text.trimEnd isPoint (front ++ List.intercalate ['.'] texts) =
      Text.trimEnd isPoint (front ++ texts.flatMap fun text => text ++ ['.']) := by
  induction texts generalizing front with
  | nil => rfl
  | cons text rest ih =>
    cases rest with
    | nil =>
      rw [List.intercalate_singleton, List.flatMap_singleton, ← List.append_assoc,
        Text.trimEnd_append_of_drop _ (by rfl)]
    | cons next rest =>
      have hrest := ih (front ++ text ++ ['.'])
      rw [List.intercalate_cons_cons, List.flatMap_cons]
      simpa only [List.append_assoc] using hrest

theorem lowerText_of_ne_nil {labels : List Label} (h : labels ≠ []) :
    ∃ text, lowerText labels = text ++ ['.'] := by
  obtain ⟨front, last, rfl⟩ := (List.eq_nil_or_concat' labels).resolve_left h
  refine ⟨lowerText front ++ (Name.labelText last).map Char.toLower, ?_⟩
  rw [lowerText, List.flatMap_append, List.flatMap_singleton, ← List.append_assoc]
  rfl

theorem lowerText_of_lower_eq {labels hosts : List Label}
    (h : labels.map (List.map lowerOctet) = hosts.map (List.map lowerOctet))
    (hhosts : ∀ host ∈ hosts, isHostLabel host = true) :
    lowerText labels = hosts.flatMap fun host => labelChars (host.map lowerOctet) ++ ['.'] := by
  induction hosts generalizing labels with
  | nil =>
    rw [List.map_eq_nil_iff.1 h]
    rfl
  | cons host hosts ih =>
    obtain ⟨label, rest, rfl, hlabel, hrest⟩ := List.map_eq_cons_iff.1 h
    have htext := lower_labelText hlabel (hhosts host List.mem_cons_self)
    have ihrest := ih hrest fun host hmem => hhosts host (List.mem_cons_of_mem _ hmem)
    rw [lowerText] at ihrest
    rw [lowerText, List.flatMap_cons, List.flatMap_cons, ihrest, htext]

end Dns

open Dns

/-- A host name of host labels with any number of points behind, below a star when it is a
wildcard. -/
structure PlainPattern where
  wildcard : Bool
  labels : List Label
  points : Nat
  plain : ∀ label ∈ labels, isHostLabel label = true

namespace PlainPattern

def text (pattern : PlainPattern) : String :=
  String.ofList
    ((if pattern.wildcard then ['*', '.'] else []) ++
      List.intercalate ['.'] (pattern.labels.map labelChars) ++ List.replicate pattern.points '.')

/-- Whether the name has the labels of the pattern, or at least one more in front of them when it is
a wildcard. The case of ASCII letters does not count. -/
def Covers (pattern : PlainPattern) (name : Name) : Prop :=
  let labels := pattern.labels.map (List.map lowerOctet)
  if pattern.wildcard then
    labels <:+ name.lowercase.labels ∧ labels.length < name.lowercase.labels.length
  else name.lowercase.labels = labels

def lowerLabels (pattern : PlainPattern) : List Char :=
  pattern.labels.flatMap fun label => labelChars (label.map lowerOctet) ++ ['.']

variable {pattern : PlainPattern}

theorem toList_normalizeHost_text (pattern : PlainPattern) :
    (normalizeHost pattern.text).toList =
      Text.trimEnd isPoint ((if pattern.wildcard then ['*', '.'] else []) ++
        pattern.lowerLabels) := by
  have hstar : (if pattern.wildcard then ['*', '.'] else []).map Char.toLower =
      if pattern.wildcard then ['*', '.'] else [] := by
    split <;> rfl
  have hlabels : ((pattern.labels.map labelChars).flatMap fun text => text ++ ['.']).map
      Char.toLower = pattern.lowerLabels := by
    rw [lowerLabels, List.flatMap_map, List.map_flatMap]
    simp only [List.map_append, map_toLower_labelChars]
    rfl
  have htrim : Text.trimEnd isPoint pattern.text.toList = Text.trimEnd isPoint
      ((if pattern.wildcard then ['*', '.'] else []) ++
        (pattern.labels.map labelChars).flatMap fun text => text ++ ['.']) := by
    rw [text, String.toList_ofList, Text.trimEnd_append_replicate _ _ (by rfl),
      trimEnd_intercalate]
  rw [toList_normalizeHost, ← Text.map_trimEnd Char.toLower isPoint_toLower, htrim,
    Text.map_trimEnd Char.toLower isPoint_toLower, List.map_append, hstar, hlabels]

theorem ofText_wildcard (h : pattern.wildcard = true) :
    HostPattern.ofText pattern.text =
      .wildcard (String.ofList (Text.trimEnd isPoint ('.' :: pattern.lowerLabels))) := by
  have hname : (normalizeHost pattern.text).toList =
      '*' :: Text.trimEnd isPoint ('.' :: pattern.lowerLabels) := by
    rw [toList_normalizeHost_text, if_pos h]
    exact Text.trimEnd_cons_of_keep _ (by rfl)
  simp only [HostPattern.ofText, hname]

theorem covers_host {name : Name} (h : pattern.Covers name) :
    (HostPattern.ofText pattern.text).covers name.host = true := by
  rw [Covers] at h
  split at h
  · rename_i hwild
    obtain ⟨hsuffix, hmore⟩ := h
    obtain ⟨lowerFront, hsplit⟩ := hsuffix
    rw [labels_lowercase] at hsplit hmore
    obtain ⟨front, back, hlabels, hfront, hback⟩ := List.map_eq_append_iff.1 hsplit.symm
    have hne : front ≠ [] := by
      rintro rfl
      rw [← hsplit, ← hfront] at hmore
      exact Nat.lt_irrefl _ hmore
    -- The further label in front is what puts a point before the labels of the pattern.
    obtain ⟨text, htext⟩ := lowerText_of_ne_nil hne
    have hname : lowerText name.labels = text ++ ('.' :: pattern.lowerLabels) := by
      rw [hlabels, lowerText, List.flatMap_append, ← lowerText, htext, ← lowerText,
        lowerText_of_lower_eq hback pattern.plain]
      rw [List.append_assoc]
      rfl
    rw [ofText_wildcard hwild, HostPattern.covers, endsWith_iff, String.toList_ofList, toList_host,
      hname]
    exact Text.trimEnd_suffix_append text _
  · rename_i hexact
    have hlabels := lowerText_of_lower_eq h pattern.plain
    have hhost : normalizeHost pattern.text = name.host := by
      rw [← String.toList_inj, toList_normalizeHost_text, if_neg hexact, toList_host, hlabels]
      rfl
    rw [← hhost]
    exact HostPattern.covers_ofText_normalizeHost pattern.text

end PlainPattern

end Sinkhole
