import Sinkhole.Proofs.Dns.Carrying

/-! # Records read back

A record carries its data behind its length, which is filled in when the data is written. Main
statement: a record whose owner is a name that messages may hold, and whose data is empty or has the
fields of its type's layout, is carried from writer to reader.
-/
namespace Sinkhole.Dns

theorem toList_putOctets {octets : Array UInt8} {before old after new : Bytes}
    (h : octets.toList = before ++ old ++ after) (hlength : new.length = old.length) :
    (putOctets octets before.length new).toList = before ++ new ++ after := by
  induction new generalizing octets before old with
  | nil =>
    obtain rfl := List.length_eq_zero_iff.1 hlength.symm
    exact h
  | cons octet rest ih =>
    cases old with
    | nil => cases hlength
    | cons first others =>
      have hset : (octets.setIfInBounds before.length octet).toList =
          (before ++ [octet]) ++ others ++ after := by
        simp [h]
      have hrest := ih hset (Nat.succ.inj hlength)
      simpa [putOctets] using hrest

namespace Encoder

variable {draft : Draft}

theorem reserve_of_ready {count : Nat} (h : draft.Ready count) :
    reserve count draft = .ok () (draft.extend (List.replicate count 0) []) := by
  have hroom := h.room
  have hend : draft.position = draft.octets.size := h.atEnd
  have hnot : ¬ maxMessageLength < draft.position + count := by
    have hlimit : suffixLimit ≤ maxMessageLength := by decide
    omega
  have hkept : draft.octets.shrink (draft.position + count) = draft.octets := by
    apply Array.ext'
    rw [Array.toList_shrink, List.take_of_length_le]
    rw [Array.length_toList]
    omega
  have hcount : draft.position + count - draft.octets.size = count := by omega
  simp only [reserve, hnot, if_false, hkept, hcount]
  simp [Draft.extend, Draft.append]

theorem fill_extend (h : draft.AtEnd) {old new piece : Bytes} (added : SuffixTable)
    (hlength : new.length = old.length) :
    fill draft.position new (draft.extend (old ++ piece) added) =
      .ok () (draft.extend (new ++ piece) added) := by
  have hoctets : (draft.extend (old ++ piece) added).octets.toList =
      draft.octets.toList ++ old ++ piece := by simp
  have hput := toList_putOctets hoctets hlength
  rw [h.length] at hput
  have hsame : ({ draft.extend (old ++ piece) added with
      octets := putOctets (draft.extend (old ++ piece) added).octets draft.position new } : Draft) =
      draft.extend (new ++ piece) added := by
    apply Draft.ext_toList
    · simp [hput]
    · simp [hlength]
    · rfl
  simp only [fill, hsame]

theorem measured_of_ready {body : Encoder Unit} {piece : Bytes} {added : SuffixTable}
    (h : draft.Ready (2 + piece.length))
    (hbody : body (draft.extend [0, 0] []) = .ok () ((draft.extend [0, 0] []).extend piece added)) :
    measured body draft =
      .ok () (draft.extend (Word.octets16 (UInt16.ofNat piece.length) ++ piece) added) := by
  have hstart : position draft = .ok draft.position draft := rfl
  have hreserve : reserve 2 draft = .ok () (draft.extend [0, 0] []) :=
    reserve_of_ready (h.mono (Nat.le_add_right _ _))
  have hboth : (draft.extend [0, 0] []).extend piece added = draft.extend ([0, 0] ++ piece) added :=
    Draft.extend_extend _ _ _ _
  have hstop : position (draft.extend ([0, 0] ++ piece) added) =
      .ok (draft.position + (2 + piece.length)) (draft.extend ([0, 0] ++ piece) added) := by
    simp [position]
    omega
  have hlength : draft.position + (2 + piece.length) - draft.position - 2 = piece.length := by
    omega
  rw [hboth] at hbody
  unfold measured
  rw [bind_of_ok hstart, bind_of_ok hreserve, bind_of_ok hbody, bind_of_ok hstop, hlength]
  exact fill_extend h.atEnd added rfl

end Encoder

/-- Types whose data is the fields of a layout. -/
def HasLayout (type : UInt16) : Prop :=
  isQuestionOnly type = false ∧ type.toNat ∉ [41, 62, 64, 65, 257]

def layoutLeast (type : UInt16) : Nat := ((layoutOf type).map FieldKind.least).sum

def layoutMost (type : UInt16) : Nat := ((layoutOf type).map FieldKind.most).sum

/-- Data that records of the type can have in a message. -/
inductive DataFits (type : UInt16) : RecordData → Prop
  | empty : DataFits type .empty
  | fields {values : List FieldValue} (htype : HasLayout type) (hleast : 0 < layoutLeast type)
    (hvalues : List.Forall₂ FieldFits (layoutOf type) values) : DataFits type (.fields values)

structure Record.Fits (record : Record) : Prop where
  owner : record.owner.Valid
  extension : record.type = extensionType →
    record.owner = Name.root ∧ minPayloadSize ≤ record.rclass
  data : DataFits record.type record.data

def Record.room (record : Record) : Nat := record.owner.wireLength + (10 + layoutMost record.type)

theorem Decoder.recordData_zero (type : UInt16) (stop : Nat) :
    Decoder.recordData type 0 stop = pure .empty := rfl

theorem Decoder.recordData_of_hasLayout {type : UInt16} (h : HasLayout type) {length : Nat}
    (hlength : 0 < length) (stop : Nat) :
    Decoder.recordData type length stop =
      Decoder.fields stop (layoutOf type) >>= fun values => pure (.fields values) := by
  have htypes := h.2
  simp only [List.mem_cons, List.not_mem_nil, or_false, not_or] at htypes
  unfold Decoder.recordData
  rw [if_neg (by omega), h.1]
  split <;> simp_all

def Decoder.recordEnd (type : UInt16) (build : RecordData → Record) : Decoder Record := do
  let length ← word16
  if (← remaining) < length.toNat then fail .badRecordLength
  else
    let stop := (← position) + length.toNat
    let data ← recordData type length.toNat stop
    if (← position) = stop then pure (build data)
    else fail .badRecordLength

theorem carries_measured {body : Encoder Unit} {type : UInt16} {inner : Nat → Decoder RecordData}
    {data : RecordData} {least most : Nat}
    (hbody : ∀ stop, Carries body () (inner stop) data least most)
    (hinner : ∀ length stop, least ≤ length → length ≤ most →
      Decoder.recordData type length stop = inner stop) (build : RecordData → Record) :
    Carries (Encoder.measured body) () (Decoder.recordEnd type build) (build data) (2 + least)
      (2 + most) := by
  intro draft hready
  have hroom := hready.room
  have hready' : (draft.extend [0, 0] []).Ready most := hready.extend (by simp) (by simp)
  obtain ⟨piece, added, hwritten, -⟩ := hbody 0 _ hready'
  have hle := hwritten.le_most
  have hleast := hwritten.least_le
  have hsmall : piece.length < 65536 := by
    have hlimit : suffixLimit = 16383 := rfl
    omega
  have hlength : (UInt16.ofNat piece.length).toNat = piece.length := UInt16.toNat_ofNat_of_lt hsmall
  have hwhole : (Word.octets16 (UInt16.ofNat piece.length) ++ piece).length = 2 + piece.length := by
    simp
  refine ⟨Word.octets16 (UInt16.ofNat piece.length) ++ piece, added,
    ⟨Encoder.measured_of_ready (hready.mono (by omega)) hwritten.run, by omega, by omega, ?_⟩, ?_⟩
  · intro entry hentry
    have hlt := hwritten.below entry hentry
    rw [Draft.position_extend] at hlt
    rw [hwhole]
    simp only [List.length_cons, List.length_nil] at hlt
    omega
  · intro message htable hstands
    obtain ⟨hword, hdata⟩ := standsAt_append.1 hstands
    rw [Word.length_octets16] at hdata
    have hstop : draft.position + 2 + piece.length = draft.position + (2 + piece.length) := by omega
    -- The data may be read with the true end of it, for which the same octets were written.
    obtain ⟨piece', added', hwritten', hback⟩ := hbody (draft.position + 2 + piece.length) _ hready'
    obtain ⟨rfl, rfl⟩ := hwritten.unique hwritten'
    have htable' : TableAt message (draft.extend [0, 0] []).suffixes
        (draft.extend [0, 0] []).position := by
      rw [Draft.suffixes_extend, List.append_nil]
      exact htable.mono (Nat.le_add_right _ _)
    obtain ⟨hread, hnext⟩ := hback message htable' hdata
    rw [← hinner piece.length _ hleast hle] at hread
    have henough : ¬ message.length - (draft.position + 2) < piece.length := by
      have hfits := hdata.length_le
      omega
    rw [hwhole, ← hstop]
    refine ⟨?_, by simpa using hnext⟩
    refine (reads_word16 hword).bind (reads_remaining.bind ?_)
    rw [hlength, if_neg henough]
    refine reads_position.bind (hread.bind (reads_position.bind ?_))
    rw [if_pos (by simp)]
    exact reads_pure _

theorem recordClass_of_not_extension {owner : Name} {type : UInt16} (h : type ≠ extensionType) :
    Decoder.recordClass owner type = Decoder.word16 := by
  unfold Decoder.recordClass
  simp only [h, if_false]
  exact bind_pure _

theorem carries_recordClass {record : Record} (h : record.Fits) :
    Carries (Encoder.word16 record.rclass) () (Decoder.recordClass record.owner record.type)
      record.rclass 2 2 := by
  by_cases htype : record.type = extensionType
  · obtain ⟨howner, hsize⟩ := h.extension htype
    have hread : Decoder.recordClass record.owner record.type =
        Decoder.word16 >>= fun value => pure (max value minPayloadSize) := by
      unfold Decoder.recordClass
      simp only [htype, if_true, howner]
      rfl
    have hmax : max record.rclass minPayloadSize = record.rclass := by
      show (if record.rclass ≤ minPayloadSize then minPayloadSize else record.rclass) = _
      split
      · exact UInt16.le_antisymm hsize ‹_›
      · rfl
    have hmap := (carries_word16 record.rclass).map (max · minPayloadSize)
    rw [hread]
    rwa [hmax] at hmap
  · rw [recordClass_of_not_extension htype]
    exact carries_word16 record.rclass

theorem carries_recordData {type : UInt16} {data : RecordData} (h : DataFits type data)
    (build : RecordData → Record) :
    Carries (Encoder.measured (Encoder.recordData data)) () (Decoder.recordEnd type build)
      (build data) 2 (2 + layoutMost type) := by
  cases h with
  | empty =>
    -- Without octets the type does not matter to the reader, so nothing has to be written.
    have hinner : ∀ length stop, 0 ≤ length → length ≤ 0 →
        Decoder.recordData type length stop = pure .empty := by
      intro length stop _ hzero
      rw [Nat.le_zero.1 hzero]
      exact Decoder.recordData_zero type stop
    have hcarries := carries_measured (fun _ => carries_pure () RecordData.empty) hinner build
    exact hcarries.mono (Nat.le_refl 2) (Nat.le_add_right _ _)
  | @fields values htype hleast hvalues =>
    have hbody : ∀ stop, Carries (Encoder.recordData (.fields values)) ()
        (Decoder.fields stop (layoutOf type) >>= fun values => pure (RecordData.fields values))
        (RecordData.fields values) (layoutLeast type) (layoutMost type) :=
      fun stop => (carries_fields hvalues stop).map RecordData.fields
    have hinner : ∀ length stop, layoutLeast type ≤ length → length ≤ layoutMost type →
        Decoder.recordData type length stop =
          Decoder.fields stop (layoutOf type) >>= fun values => pure (RecordData.fields values) :=
      fun length stop hle _ =>
        Decoder.recordData_of_hasLayout htype (Nat.lt_of_lt_of_le hleast hle) stop
    have hcarries := carries_measured hbody hinner build
    exact hcarries.mono (Nat.le_add_right _ _) (Nat.le_refl _)

theorem carries_record {record : Record} (h : record.Fits) :
    Carries (Encoder.record record) () Decoder.record record 1 record.room := by
  have hparts : Carries (Encoder.record record) () Decoder.record record
      (1 + (2 + (2 + (4 + 2))))
      (record.owner.wireLength + (2 + (2 + (4 + (2 + layoutMost record.type))))) := by
    unfold Encoder.record Decoder.record
    exact Carries.bind (carries_name h.owner) <| Carries.bind (carries_word16 record.type) <|
      Carries.bind (carries_recordClass h) <| Carries.bind (carries_word32 record.ttl) <|
      carries_recordData h.data (⟨record.owner, record.type, record.rclass, record.ttl, ·⟩)
  refine hparts.mono (by omega) ?_
  unfold Record.room
  omega

end Sinkhole.Dns
