import Sinkhole.Proofs.Dns.Reading

/-! # What is written where

At the end of a draft with enough room a writer adds octets and remembers suffixes of names; what
these are depends on the position and on the suffixes known before, and not on other octets. For a
name the octets and the suffixes are given by two functions on its labels. Main statement: where
these octets stand in a message whose known suffixes can be read, the name can be read too, and so
can the suffixes that were remembered with it.
-/
namespace Sinkhole.Dns

namespace Draft

def extend (draft : Draft) (piece : Bytes) (added : SuffixTable) : Draft :=
  { draft.append piece with suffixes := draft.suffixes ++ added }

variable {draft : Draft}

@[simp] theorem position_extend (piece : Bytes) (added : SuffixTable) :
    (draft.extend piece added).position = draft.position + piece.length := rfl

@[simp] theorem suffixes_extend (piece : Bytes) (added : SuffixTable) :
    (draft.extend piece added).suffixes = draft.suffixes ++ added := rfl

@[simp] theorem toList_octets_extend (piece : Bytes) (added : SuffixTable) :
    (draft.extend piece added).octets.toList = draft.octets.toList ++ piece := by
  simp [extend, append]

theorem AtEnd.extend (h : draft.AtEnd) (piece : Bytes) (added : SuffixTable) :
    (draft.extend piece added).AtEnd := h.append piece

theorem ext_toList {draft other : Draft} (hoctets : draft.octets.toList = other.octets.toList)
    (hposition : draft.position = other.position) (hsuffixes : draft.suffixes = other.suffixes) :
    draft = other := by
  rcases draft with ⟨octets, position, suffixes⟩
  rcases other with ⟨octets', position', suffixes'⟩
  obtain rfl := Array.ext' hoctets
  obtain rfl : position = position' := hposition
  obtain rfl : suffixes = suffixes' := hsuffixes
  rfl

@[simp] theorem extend_nil : draft.extend [] [] = draft :=
  ext_toList (by simp) (by simp) (by simp)

@[simp] theorem extend_extend (piece other : Bytes) (added later : SuffixTable) :
    (draft.extend piece added).extend other later =
      draft.extend (piece ++ other) (added ++ later) :=
  ext_toList (by simp) (by simp [Nat.add_assoc]) (by simp)

theorem append_eq_extend (piece : Bytes) : draft.append piece = draft.extend piece [] :=
  ext_toList rfl rfl (List.append_nil _).symm

theorem AtEnd.length (h : draft.AtEnd) : draft.octets.toList.length = draft.position := by
  rw [Array.length_toList]
  exact h.symm

/-- At its end, with all suffixes behind it and some room before names are no longer remembered. -/
structure Ready (draft : Draft) (size : Nat) : Prop where
  atEnd : draft.AtEnd
  below : ∀ entry ∈ draft.suffixes, entry.2 < draft.position
  room : draft.position + size ≤ suffixLimit

theorem Ready.mono {size smaller : Nat} (h : draft.Ready size) (hle : smaller ≤ size) :
    draft.Ready smaller := by
  have hroom := h.room
  exact ⟨h.atEnd, h.below, by omega⟩

theorem Ready.extend {size rest : Nat} (h : draft.Ready size) {piece : Bytes} {added : SuffixTable}
    (hsize : piece.length + rest ≤ size)
    (hbelow : ∀ entry ∈ added, entry.2 < draft.position + piece.length) :
    (draft.extend piece added).Ready rest := by
  have hroom := h.room
  refine ⟨h.atEnd.extend piece added, ?_, by rw [position_extend]; omega⟩
  intro entry hentry
  rw [suffixes_extend] at hentry
  rw [position_extend]
  rcases List.mem_append.1 hentry with hentry | hentry
  · have hold := h.below entry hentry
    omega
  · exact hbelow entry hentry

end Draft

namespace Encoder

variable {α β : Type} {draft : Draft}

theorem bind_of_ok {write : Encoder α} {next : α → Encoder β} {a : α} {after : Draft}
    (h : write draft = .ok a after) : (write >>= next) draft = next a after := by
  show EStateM.bind write next draft = _
  rw [EStateM.bind, h]

theorem piece_of_ready {octets : Bytes} (h : draft.Ready octets.length) :
    piece octets draft = .ok () (draft.extend octets []) := by
  have hroom := h.room
  have hend : draft.position = draft.octets.size := h.atEnd
  have hlimit : suffixLimit ≤ maxMessageLength := by decide
  rw [piece_of_atEnd h.atEnd (by omega), Draft.append_eq_extend]

end Encoder

def labelsOctets (labels : List Label) : Bytes := labels.flatMap labelOctets

/-- What is written for labels of which some last ones may have been written before. -/
def nameOctets (table : SuffixTable) : List Label → Bytes
  | [] => [0]
  | label :: rest =>
    match table.lookup (label :: rest) with
    | some target => Encoder.pointer target
    | none => labelOctets label ++ nameOctets table rest

def newSuffixes (table : SuffixTable) (position : Nat) : List Label → SuffixTable
  | [] => []
  | label :: rest =>
    match table.lookup (label :: rest) with
    | some _ => []
    | none => (label :: rest, position) :: newSuffixes table (position + 1 + label.length) rest

def suffixesAt (position : Nat) : List Label → SuffixTable
  | [] => []
  | label :: rest => (label :: rest, position) :: suffixesAt (position + 1 + label.length) rest

@[simp] theorem length_labelOctets (label : Label) :
    (labelOctets label).length = label.length + 1 := rfl

@[simp] theorem length_pointer (target : Nat) : (Encoder.pointer target).length = 2 := rfl

theorem length_labelsOctets (labels : List Label) :
    (labelsOctets labels).length = Name.labelsLength labels := by
  induction labels with
  | nil => rfl
  | cons label rest ih =>
    rw [labelsLength_cons, ← ih]
    simp [labelsOctets]

theorem nameOctets_length_pos (table : SuffixTable) (labels : List Label) :
    1 ≤ (nameOctets table labels).length := by
  cases labels with
  | nil => simp [nameOctets]
  | cons label rest =>
    simp only [nameOctets]
    split
    · simp
    · rw [List.length_append, length_labelOctets]
      omega

theorem length_nameOctets_le (table : SuffixTable) {labels : List Label}
    (h : ∀ label ∈ labels, IsLabel label) :
    (nameOctets table labels).length ≤ Name.labelsLength labels + 1 := by
  induction labels with
  | nil => simp [nameOctets]
  | cons label rest ih =>
    have hpos := (h label List.mem_cons_self).1
    have hrest := ih fun other hother => h other (List.mem_cons_of_mem _ hother)
    rw [labelsLength_cons]
    simp only [nameOctets]
    split
    · rw [length_pointer]
      omega
    · rw [List.length_append, length_labelOctets]
      omega

theorem lookup_append_longer {table longer : SuffixTable} {labels : List Label}
    (h : ∀ entry ∈ longer, labels.length < entry.1.length) :
    (table ++ longer).lookup labels = table.lookup labels := by
  have hnone : longer.lookup labels = none := by
    rw [List.lookup_eq_none_iff]
    intro entry hentry
    have hlength := h entry hentry
    rw [bne_iff_ne]
    rintro rfl
    omega
  rw [List.lookup_append, hnone, Option.or_none]

theorem nameOctets_append_longer {table longer : SuffixTable} {labels : List Label}
    (h : ∀ entry ∈ longer, labels.length < entry.1.length) :
    nameOctets (table ++ longer) labels = nameOctets table labels := by
  induction labels with
  | nil => rfl
  | cons label rest ih =>
    have hrest := ih fun entry hentry => Nat.lt_of_succ_lt (h entry hentry)
    rw [nameOctets, nameOctets, lookup_append_longer h, hrest]

theorem newSuffixes_append_longer {table longer : SuffixTable} {labels : List Label}
    (h : ∀ entry ∈ longer, labels.length < entry.1.length) (position : Nat) :
    newSuffixes (table ++ longer) position labels = newSuffixes table position labels := by
  induction labels generalizing position with
  | nil => rfl
  | cons label rest ih =>
    have hrest := ih fun entry hentry => Nat.lt_of_succ_lt (h entry hentry)
    rw [newSuffixes, newSuffixes, lookup_append_longer h, hrest]

namespace Encoder

theorem labels_of_ready {draft : Draft} {labels : List Label}
    (h : draft.Ready (Name.labelsLength labels)) :
    Encoder.labels labels draft =
      .ok (suffixesAt draft.position labels) (draft.extend (labelsOctets labels) []) := by
  induction labels generalizing draft with
  | nil =>
    rw [labelsOctets, List.flatMap_nil, Draft.extend_nil]
    rfl
  | cons label rest ih =>
    rw [labelsLength_cons] at h
    have hfirst : draft.Ready [lengthOctet label].length := h.mono (by simp; omega)
    have hsecond : (draft.extend [lengthOctet label] []).Ready label.length :=
      h.extend (by simp; omega) (by simp)
    have hthird : (draft.extend (labelOctets label) []).Ready (Name.labelsLength rest) :=
      h.extend (by simp) (by simp)
    have hrest := ih hthird
    have hposition : draft.position + (label.length + 1) = draft.position + 1 + label.length := by
      omega
    have hboth : (draft.extend [lengthOctet label] []).extend label [] =
        draft.extend (labelOctets label) [] := Draft.extend_extend _ _ _ _
    have hstart : position draft = .ok draft.position draft := rfl
    unfold Encoder.labels
    rw [bind_of_ok hstart, bind_of_ok (piece_of_ready hfirst),
      bind_of_ok (piece_of_ready hsecond), hboth, bind_of_ok hrest]
    simp [suffixesAt, labelsOctets, hposition, pure, EStateM.pure]

/-- The labels are given up from the first suffix on that was written before. -/
theorem endName_of_ready {draft : Draft} {labels : List Label}
    (h : draft.Ready (Name.labelsLength labels + 1)) (hlabels : ∀ label ∈ labels, IsLabel label) :
    endName false (suffixesAt draft.position labels) (draft.extend (labelsOctets labels) []) =
      .ok () (draft.extend (nameOctets draft.suffixes labels)
        (newSuffixes draft.suffixes draft.position labels)) := by
  induction labels generalizing draft with
  | nil =>
    have hpiece : draft.Ready [(0 : UInt8)].length := h
    simp only [suffixesAt, labelsOctets, List.flatMap_nil, Draft.extend_nil, endName]
    exact piece_of_ready hpiece
  | cons label rest ih =>
    have hroom := h.room
    have hpos := (hlabels label List.mem_cons_self).1
    have hwhole := length_labelsOctets (label :: rest)
    rw [labelsLength_cons] at h hroom hwhole
    rw [suffixesAt, endName]
    have hlookup : suffix? (label :: rest) (draft.extend (labelsOctets (label :: rest)) []) =
        .ok (draft.suffixes.lookup (label :: rest))
          (draft.extend (labelsOctets (label :: rest)) []) := by
      simp [suffix?]
    rw [bind_of_ok hlookup, nameOctets, newSuffixes]
    cases draft.suffixes.lookup (label :: rest) with
    | some target =>
      -- Going back to where the labels began leaves the draft as it was before them.
      have hback : backTo draft.position (draft.extend (labelsOctets (label :: rest)) []) =
          .ok () draft := by
        have hfilter : draft.suffixes.filter (·.2 < draft.position) = draft.suffixes := by
          rw [List.filter_eq_self]
          intro entry hentry
          exact decide_eq_true (h.below entry hentry)
        have hsame : (draft.octets ++ labelsOctets (label :: rest)).shrink draft.position =
            draft.octets := by
          apply Array.ext'
          have hend : draft.position = draft.octets.size := h.atEnd
          simp [hend]
        simp only [backTo, Draft.extend, Draft.append, List.append_nil, hfilter, hsame]
      have hpiece : draft.Ready (pointer target).length := h.mono (by simp; omega)
      simp only [Bool.false_eq_true, if_false]
      rw [bind_of_ok hback, piece_of_ready hpiece]
    | none =>
      have hremember : remember (label :: rest) draft.position
          (draft.extend (labelsOctets (label :: rest)) []) =
            .ok () (draft.extend (labelsOctets (label :: rest)) [(label :: rest, draft.position)]) := by
        have hlt : draft.position + (labelsOctets (label :: rest)).length < suffixLimit := by
          omega
        simp [remember, Draft.extend, Draft.append, hlt]
      have hready : (draft.extend (labelOctets label) [(label :: rest, draft.position)]).Ready
          (Name.labelsLength rest + 1) := by
        apply h.extend
        · simp
          omega
        · simp
      have hrest := ih hready fun other hother => hlabels other (List.mem_cons_of_mem _ hother)
      have hlonger : ∀ entry ∈ [(label :: rest, draft.position)],
          rest.length < entry.1.length := by simp
      have hposition : draft.position + (label.length + 1) =
          draft.position + 1 + label.length := by omega
      rw [Draft.suffixes_extend, nameOctets_append_longer hlonger,
        newSuffixes_append_longer hlonger, Draft.extend_extend, Draft.extend_extend,
        Draft.position_extend, length_labelOctets, hposition] at hrest
      simp only [List.append_nil] at hrest
      dsimp only
      rw [bind_of_ok hremember]
      exact hrest

theorem name_of_ready {draft : Draft} {name : Name} (h : draft.Ready name.wireLength)
    (hname : name.Valid) :
    Encoder.name false name draft =
      .ok () (draft.extend (nameOctets draft.suffixes name.labels)
        (newSuffixes draft.suffixes draft.position name.labels)) := by
  have hlabels : draft.Ready (Name.labelsLength name.labels) := h.mono (Nat.le_succ _)
  unfold Encoder.name
  rw [bind_of_ok (labels_of_ready hlabels)]
  exact endName_of_ready h hname.labels

end Encoder

/-- All suffixes of a table can be read in the message, from octets before `stop`. -/
def TableAt (message : Bytes) (table : SuffixTable) (stop : Nat) : Prop :=
  ∀ entry ∈ table, entry.2 < suffixLimit ∧
    ∃ ending ≤ stop, NameAt message entry.2 entry.2 entry.1 ending

theorem tableAt_nil (message : Bytes) (stop : Nat) : TableAt message [] stop := by
  intro entry hentry
  cases hentry

theorem TableAt.mono {message : Bytes} {table : SuffixTable} {stop later : Nat}
    (h : TableAt message table stop) (hle : stop ≤ later) : TableAt message table later := by
  intro entry hentry
  obtain ⟨hlimit, ending, hending, hname⟩ := h entry hentry
  exact ⟨hlimit, ending, Nat.le_trans hending hle, hname⟩

theorem mem_of_lookup_eq_some {table : SuffixTable} {labels : List Label} {target : Nat}
    (h : table.lookup labels = some target) : (labels, target) ∈ table := by
  obtain ⟨before, after, htable, -⟩ := List.lookup_eq_some_iff.1 h
  rw [htable]
  simp

/-- Where the octets of a name stand, the name can be read, and from the position of each of its
new suffixes the suffix can be read. -/
theorem nameAt_of_standsAt {message : Bytes} {table : SuffixTable} {start position : Nat}
    {labels : List Label} (htable : TableAt message table start) (hle : start ≤ position)
    (hlabels : ∀ label ∈ labels, IsLabel label)
    (h : StandsAt message position (nameOctets table labels)) :
    NameAt message start position labels (position + (nameOctets table labels).length) ∧
      ∀ entry ∈ newSuffixes table position labels,
        entry.2 < position + (nameOctets table labels).length ∧
          NameAt message entry.2 entry.2 entry.1
            (position + (nameOctets table labels).length) := by
  induction labels generalizing position with
  | nil => exact ⟨NameAt.root h, by simp [newSuffixes]⟩
  | cons label rest ih =>
    rw [nameOctets] at h ⊢
    rw [newSuffixes]
    cases hlookup : table.lookup (label :: rest) with
    | some target =>
      rw [hlookup] at h
      obtain ⟨hlimit, ending, hending, hname⟩ := htable _ (mem_of_lookup_eq_some hlookup)
      have hlt := hname.position_lt
      refine ⟨NameAt.pointer h hlimit ?_ hname hending, by simp⟩
      show target < start
      exact Nat.lt_of_lt_of_le hlt hending
    | none =>
      rw [hlookup] at h
      obtain ⟨hlabel, hrest⟩ := standsAt_append.1 h
      have hsize := hlabels label List.mem_cons_self
      have hposition : position + (labelOctets label).length = position + 1 + label.length := by
        rw [length_labelOctets]
        omega
      rw [hposition] at hrest
      have hlater : start ≤ position + 1 + label.length := by omega
      obtain ⟨hnext, hsuffixes⟩ := ih hlater
        (fun other hother => hlabels other (List.mem_cons_of_mem _ hother)) hrest
      have hstop : position + (labelOctets label ++ nameOctets table rest).length =
          position + 1 + label.length + (nameOctets table rest).length := by
        rw [List.length_append, ← hposition]
        omega
      have hname := NameAt.label hlabel hsize hnext
      dsimp only
      rw [hstop]
      refine ⟨hname, ?_⟩
      intro entry hentry
      rcases List.mem_cons.1 hentry with rfl | hentry
      · exact ⟨hname.position_lt, hname.mono hle⟩
      · exact hsuffixes entry hentry

theorem TableAt.append_newSuffixes {message : Bytes} {table : SuffixTable} {start : Nat}
    {labels : List Label} (htable : TableAt message table start)
    (hlabels : ∀ label ∈ labels, IsLabel label)
    (hlimit : start + (nameOctets table labels).length ≤ suffixLimit)
    (h : StandsAt message start (nameOctets table labels)) :
    TableAt message (table ++ newSuffixes table start labels)
      (start + (nameOctets table labels).length) := by
  obtain ⟨-, hsuffixes⟩ := nameAt_of_standsAt htable (Nat.le_refl start) hlabels h
  intro entry hentry
  rcases List.mem_append.1 hentry with hentry | hentry
  · exact htable.mono (Nat.le_add_right _ _) entry hentry
  · obtain ⟨hlt, hname⟩ := hsuffixes entry hentry
    exact ⟨by omega, _, Nat.le_refl _, hname⟩

theorem lt_of_mem_newSuffixes {table : SuffixTable} {position : Nat} {labels : List Label}
    {entry : List Label × Nat} (h : entry ∈ newSuffixes table position labels) :
    entry.2 < position + (nameOctets table labels).length := by
  induction labels generalizing position with
  | nil => simp [newSuffixes] at h
  | cons label rest ih =>
    rw [newSuffixes] at h
    rw [nameOctets]
    cases hlookup : table.lookup (label :: rest) with
    | some target =>
      rw [hlookup] at h
      cases h
    | none =>
      rw [hlookup] at h
      dsimp only
      rw [List.length_append, length_labelOctets]
      rcases List.mem_cons.1 h with rfl | h
      · dsimp only
        omega
      · have hlt := ih h
        omega

end Sinkhole.Dns
