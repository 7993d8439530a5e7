import Mathlib
import Sinkhole.Dns.Message

/-! # What is read where

A reader is described by the octets that have to stand at a position of the message for it to give
a value and to get to another position; such descriptions compose along the reader. For names the
octets are described by a relation of their own, in which a pointer stands for the labels it leads
to. In the other direction a predicate says what all values of a reader have in common.
-/
namespace Sinkhole.Dns

def StandsAt (message : Bytes) (position : Nat) (piece : Bytes) : Prop :=
  piece <+: message.drop position

theorem standsAt_append {message piece other : Bytes} {position : Nat} :
    StandsAt message position (piece ++ other) ↔
      StandsAt message position piece ∧ StandsAt message (position + piece.length) other := by
  unfold StandsAt
  rw [← List.drop_drop]
  constructor
  · rintro ⟨rest, hrest⟩
    rw [← hrest, List.append_assoc]
    refine ⟨List.prefix_append _ _, ?_⟩
    rw [List.drop_left]
    exact List.prefix_append _ _
  · rintro ⟨⟨rest, hrest⟩, ⟨last, hlast⟩⟩
    rw [← hrest, List.drop_left] at hlast
    exact ⟨last, by rw [← hrest, ← hlast, List.append_assoc]⟩

theorem StandsAt.drop_eq {message piece : Bytes} {position : Nat}
    (h : StandsAt message position piece) :
    message.drop position = piece ++ message.drop (position + piece.length) := by
  obtain ⟨rest, hrest⟩ := h
  rw [← List.drop_drop, ← hrest, List.drop_left]

theorem StandsAt.length_le {message piece : Bytes} {position : Nat}
    (h : StandsAt message position piece) : piece.length ≤ message.length - position := by
  have hle := List.IsPrefix.length_le h
  rwa [List.length_drop] at hle

def Cursor.after (message : Bytes) (position : Nat) : Cursor :=
  ⟨message, position, message.drop position⟩

/-- From one position of a message to another, the reader finds the value. -/
def Reads {α : Type} (read : Decoder α) (message : Bytes) (start : Nat) (value : α)
    (stop : Nat) : Prop :=
  read (.after message start) = .ok (value, .after message stop)

section Readers

variable {α β : Type} {message piece : Bytes} {start middle stop : Nat}

theorem Reads.bind {first : Decoder α} {rest : α → Decoder β} {a : α} {b : β}
    (hfirst : Reads first message start a middle) (hrest : Reads (rest a) message middle b stop) :
    Reads (first >>= rest) message start b stop := by
  unfold Reads at *
  show (first (.after message start) >>= fun found => rest found.1 found.2) = _
  rw [hfirst]
  exact hrest

theorem reads_pure (a : α) : Reads (pure a) message start a start := rfl

theorem reads_octet {octet : UInt8} (h : StandsAt message start [octet]) :
    Reads Decoder.octet message start octet (start + 1) := by
  simp only [Reads, Decoder.octet, Cursor.after, h.drop_eq]
  rfl

theorem reads_word16 {word : UInt16} (h : StandsAt message start (Word.octets16 word)) :
    Reads Decoder.word16 message start word (start + 2) := by
  simp only [Reads, Decoder.word16, Cursor.after, h.drop_eq]
  simp [Word.octets16, Word.of16_octets16]

theorem reads_word32 {word : UInt32} (h : StandsAt message start (Word.octets32 word)) :
    Reads Decoder.word32 message start word (start + 4) := by
  simp only [Reads, Decoder.word32, Cursor.after, h.drop_eq]
  simp [Word.octets32, Word.of32_octets32]

theorem reads_octets (h : StandsAt message start piece) :
    Reads (Decoder.octets piece.length) message start piece (start + piece.length) := by
  simp only [Reads, Decoder.octets, Cursor.after, h.drop_eq]
  simp

theorem reads_position : Reads Decoder.position message start start start := rfl

theorem reads_remaining :
    Reads Decoder.remaining message start (message.length - start) start := by
  simp [Reads, Decoder.remaining, Cursor.after]

end Readers

def labelOctets (label : Label) : Bytes := Encoder.lengthOctet label :: label

def IsLabel (label : Label) : Prop := 0 < label.length ∧ label.length ≤ maxLabelLength

instance (label : Label) : Decidable (IsLabel label) := inferInstanceAs (Decidable (_ ∧ _))

/-- Labels stand at a position of a message, up to where the reader goes on. The labels they end
began at `start`, and a pointer leads to labels that end before. -/
inductive NameAt (message : Bytes) : (start position : Nat) → List Label → (stop : Nat) → Prop
  | root {start position : Nat} (hzero : StandsAt message position [0]) :
    NameAt message start position [] (position + 1)
  | label {start position stop : Nat} {label : Label} {rest : List Label}
    (hlabel : StandsAt message position (labelOctets label)) (hsize : IsLabel label)
    (hrest : NameAt message start (position + 1 + label.length) rest stop) :
    NameAt message start position (label :: rest) stop
  | pointer {start position target stop : Nat} {labels : List Label}
    (hpointer : StandsAt message position (Encoder.pointer target)) (hlimit : target < suffixLimit)
    (hback : target < start) (hlabels : NameAt message target target labels stop)
    (hstop : stop ≤ start) :
    NameAt message start position labels (position + 2)

namespace NameAt

variable {message : Bytes} {start position stop : Nat} {labels : List Label}

theorem position_lt (h : NameAt message start position labels stop) : position < stop := by
  induction h with
  | root => omega
  | label _ _ _ ih => omega
  | pointer => omega

theorem mono {later : Nat} (h : NameAt message start position labels stop)
    (hle : start ≤ later) : NameAt message later position labels stop := by
  induction h generalizing later with
  | root hzero => exact root hzero
  | label hlabel hsize _ ih => exact label hlabel hsize (ih hle)
  | pointer hpointer hlimit hback hlabels hstop _ =>
    exact pointer hpointer hlimit (by omega) hlabels (by omega)

end NameAt

theorem toNat_lengthOctet {label : Label} (h : IsLabel label) :
    (Encoder.lengthOctet label).toNat = label.length := by
  have hle : label.length ≤ 63 := h.2
  simp only [Encoder.lengthOctet, UInt8.toNat_ofNat']
  omega

theorem pointer_eq {target : Nat} (h : target < suffixLimit) :
    ∃ first second : UInt8, Encoder.pointer target = [first, second] ∧ 192 ≤ first.toNat ∧
      (first.toNat - 192) * 256 + second.toNat = target := by
  have hlt : target < 16383 := h
  refine ⟨_, _, rfl, ?_, ?_⟩ <;> simp only [UInt8.toNat_ofNat', UInt16.toNat_ofNat'] <;> omega

theorem any_le_eq_false {limit : Option Nat} {position : Nat}
    (h : ∀ bound ∈ limit, position < bound) : limit.any (· ≤ position) = false := by
  cases limit with
  | none => rfl
  | some bound =>
    have hlt := h bound rfl
    simp
    omega

theorem labelsLength_cons (label : Label) (rest : List Label) :
    Name.labelsLength (label :: rest) = label.length + 1 + Name.labelsLength rest := rfl

/-- Labels are read where they stand, if what points to them begins behind them and they are not
too long for a name. -/
theorem NameAt.readLabels {message : Bytes} {start position stop : Nat} {labels : List Label}
    (h : NameAt message start position labels stop) {limit : Option Nat}
    (hlimit : ∀ bound ∈ limit, stop ≤ bound) {used : Nat}
    (hused : used + Name.labelsLength labels < maxNameLength) :
    Name.readLabels message start limit used position (message.drop position) =
      .ok (labels, stop) := by
  induction h generalizing limit used with
  | @root start position hzero =>
    have hin := any_le_eq_false hlimit
    rw [hzero.drop_eq, Name.readLabels.eq_def, hin]
    simp
  | @label start position stop label rest hlabel hsize hrest ih =>
    have hnext := hrest.position_lt
    have hbefore : ∀ bound ∈ limit, position < bound := fun bound hbound =>
      Nat.lt_of_lt_of_le (by omega) (hlimit bound hbound)
    have hin := any_le_eq_false hbefore
    have hoctet := toNat_lengthOctet hsize
    have hsmall : label.length ≤ 63 := hsize.2
    have hpos := hsize.1
    rw [labelsLength_cons] at hused
    have hne : Encoder.lengthOctet label ≠ 0 := by
      intro hzero
      rw [hzero] at hoctet
      simp at hoctet
      omega
    have hlt : Encoder.lengthOctet label < 64 := by
      rw [UInt8.lt_iff_toNat_lt, hoctet]
      exact Nat.lt_succ_of_le hsmall
    rw [hlabel.drop_eq, Name.readLabels.eq_def, hin]
    simp only [labelOctets, List.cons_append, Bool.false_eq_true, if_false, hne, hlt, if_true,
      hoctet, List.length_append, List.take_left, List.drop_left, List.length_cons]
    rw [if_neg (by omega), if_neg (by omega)]
    have hused' : used + label.length + 1 + Name.labelsLength rest < maxNameLength := by omega
    rw [show position + (label.length + 1) = position + 1 + label.length by omega,
      ih hlimit hused']
  | @pointer start position target stop labels hpointer htarget hback hlabels hstop ih =>
    have hbefore : ∀ bound ∈ limit, position < bound := fun bound hbound =>
      Nat.lt_of_lt_of_le (by omega) (hlimit bound hbound)
    have hin := any_le_eq_false hbefore
    obtain ⟨first, second, heq, hfirst, hvalue⟩ := pointer_eq htarget
    have hne : first ≠ 0 := by
      rintro rfl
      simp at hfirst
    have hnot64 : ¬ first < 64 := by
      rw [UInt8.lt_iff_toNat_lt]
      simp
      omega
    have hnot192 : ¬ first < 192 := by
      rw [UInt8.lt_iff_toNat_lt]
      simp
      omega
    -- What a pointer leads to has to end before the labels that it stands for began.
    have hread : Name.readLabels message target (some start) used target (message.drop target) =
        .ok (labels, stop) := ih (by rintro _ ⟨⟩; exact hstop) hused
    rw [hpointer.drop_eq, heq, Name.readLabels.eq_def, hin]
    simp only [List.cons_append, List.nil_append, Bool.false_eq_true, if_false, hne, hnot64,
      hnot192, hvalue, hback, if_true, hread]

/-- A name as messages may hold it. -/
structure Name.Valid (name : Name) : Prop where
  labels : ∀ label ∈ name.labels, IsLabel label
  length : name.wireLength ≤ maxNameLength

theorem NameAt.reads {message : Bytes} {start stop : Nat} {name : Name}
    (h : NameAt message start start name.labels stop) (hlength : name.wireLength ≤ maxNameLength) :
    Reads Decoder.name message start name stop := by
  have hlabels : 0 + Name.labelsLength name.labels < maxNameLength := by
    unfold Name.wireLength at hlength
    omega
  have hread : Name.readLabels message start none 0 start (message.drop start) =
      .ok (name.labels, stop) := h.readLabels (by rintro _ ⟨⟩) hlabels
  have hlt := h.position_lt
  simp only [Reads, Decoder.name, Cursor.after, hread, List.drop_drop]
  rw [show start + (stop - start) = stop by omega]

/-- Whatever is read, the value is of this kind. -/
def Yields {α : Type} (read : Decoder α) (P : α → Prop) : Prop :=
  ∀ ⦃cursor value next⦄, read cursor = .ok (value, next) → P value

section Yields

variable {α β : Type} {P : α → Prop} {Q : β → Prop}

theorem yields_true (read : Decoder α) : Yields read fun _ => True := fun _ _ _ _ => trivial

theorem yields_pure {a : α} (h : P a) : Yields (pure a) P := by
  rintro cursor value next ⟨⟩
  exact h

theorem yields_fail (cause : DecodeError) : Yields (Decoder.fail cause) P := by
  rintro cursor value next ⟨⟩

theorem Yields.bind {first : Decoder α} {rest : α → Decoder β} (hfirst : Yields first P)
    (hrest : ∀ a, P a → Yields (rest a) Q) : Yields (first >>= rest) Q := by
  intro cursor value next h
  change (first cursor >>= fun found => rest found.1 found.2) = _ at h
  cases hread : first cursor with
  | error cause =>
    rw [hread] at h
    cases h
  | ok found =>
    rw [hread] at h
    exact hrest found.1 (hfirst hread) h

theorem yields_bind {first : Decoder α} {rest : α → Decoder β}
    (hrest : ∀ a, Yields (rest a) Q) : Yields (first >>= rest) Q :=
  (yields_true first).bind fun a _ => hrest a

theorem Yields.repeated {read : Decoder α} (h : Yields read P) (count : Nat) :
    Yields (Decoder.repeated count read) fun values => ∀ value ∈ values, P value := by
  induction count with
  | zero => exact yields_pure (by simp)
  | succ count ih =>
    refine h.bind fun first hfirst => ih.bind fun others hothers => yields_pure ?_
    intro value hvalue
    rcases List.mem_cons.1 hvalue with rfl | hvalue
    · exact hfirst
    · exact hothers value hvalue

end Yields

theorem isLabel_of_readLabels (message : Bytes) (start : Nat) (limit : Option Nat)
    (used position : Nat) (rest : Bytes) {labels : List Label} {next : Nat}
    (h : Name.readLabels message start limit used position rest = .ok (labels, next))
    (hused : used < maxNameLength) :
    (∀ label ∈ labels, IsLabel label) ∧ used + Name.labelsLength labels < maxNameLength := by
  fun_induction Name.readLabels message start limit used position rest
    generalizing labels next with
  | case3 =>
    cases h
    exact ⟨by simp, hused⟩
  | case6 start limit used position _ first rest hzero hsmall length hshort hlong others after
      hothers =>
    rename_i ih
    cases h
    have hlength : (rest.take length).length = length := by
      rw [List.length_take]
      omega
    have hpos : first.toNat ≠ 0 := fun hfirst => hzero (UInt8.toNat_inj.1 hfirst)
    have hlt : first.toNat < 64 := hsmall
    obtain ⟨hlabels, hsum⟩ := ih hothers (by omega)
    rw [labelsLength_cons, hlength]
    refine ⟨?_, by omega⟩
    intro label hlabel
    rcases List.mem_cons.1 hlabel with rfl | hlabel
    · unfold IsLabel
      rw [hlength]
      exact ⟨Nat.pos_of_ne_zero hpos, Nat.le_of_lt_succ hlt⟩
    · exact hlabels label hlabel
  | case10 start limit used position _ first _ _ _ second _ target _ others after hothers =>
    rename_i ih
    cases h
    exact ih hothers hused
  | _ => cases h

theorem yields_name : Yields Decoder.name Name.Valid := by
  intro cursor name next h
  simp only [Decoder.name] at h
  split at h
  · rename_i labels after hread
    cases h
    obtain ⟨hlabels, hlength⟩ := isLabel_of_readLabels _ _ _ _ _ _ hread (by decide)
    refine ⟨hlabels, ?_⟩
    show Name.labelsLength labels + 1 ≤ maxNameLength
    omega
  · cases h

end Sinkhole.Dns
