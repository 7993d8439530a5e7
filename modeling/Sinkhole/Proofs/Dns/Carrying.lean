import Sinkhole.Proofs.Dns.Writing

/-! # What is written is read back

A writer carries a value to a reader when, at the end of any draft that is ready for it, it adds
octets from which the reader gets the value, wherever in a message with readable suffixes they
stand. Writers and readers that belong together compose, so that the round trip of a message is put
together from those of its fields. Main statement: messages of modest size with records of fixed
layouts are read back from their octets.
-/
namespace Sinkhole.Dns

structure Written {β : Type} (write : Encoder β) (result : β) (draft : Draft) (piece : Bytes)
    (added : SuffixTable) (least most : Nat) : Prop where
  run : write draft = .ok result (draft.extend piece added)
  least_le : least ≤ piece.length
  le_most : piece.length ≤ most
  below : ∀ entry ∈ added, entry.2 < draft.position + piece.length

theorem Written.unique {β : Type} {write : Encoder β} {result result' : β} {draft : Draft}
    {piece piece' : Bytes} {added added' : SuffixTable} {least most : Nat}
    (h : Written write result draft piece added least most)
    (h' : Written write result' draft piece' added' least most) :
    piece = piece' ∧ added = added' := by
  have hrun := h.run.symm.trans h'.run
  injection hrun with _ hdraft
  have hoctets : draft.octets.toList ++ piece = draft.octets.toList ++ piece' := by
    rw [← Draft.toList_octets_extend piece added, hdraft, Draft.toList_octets_extend]
  have hsuffixes : draft.suffixes ++ added = draft.suffixes ++ added' := by
    rw [← Draft.suffixes_extend piece added, hdraft, Draft.suffixes_extend]
  exact ⟨List.append_cancel_left hoctets, List.append_cancel_left hsuffixes⟩

def ReadBack {α : Type} (read : Decoder α) (value : α) (draft : Draft) (piece : Bytes)
    (added : SuffixTable) : Prop :=
  ∀ message, TableAt message draft.suffixes draft.position →
    StandsAt message draft.position piece →
      Reads read message draft.position value (draft.position + piece.length) ∧
        TableAt message (draft.suffixes ++ added) (draft.position + piece.length)

/-- The reader gets the value from what is written, which takes `least` to `most` octets. -/
def Carries {α β : Type} (write : Encoder β) (result : β) (read : Decoder α) (value : α)
    (least most : Nat) : Prop :=
  ∀ draft : Draft, draft.Ready most → ∃ piece added,
    Written write result draft piece added least most ∧ ReadBack read value draft piece added

section Composition

variable {α α' β β' : Type} {write : Encoder β} {result : β} {read : Decoder α} {value : α}
variable {least most : Nat}

theorem Carries.bind {next : β → Encoder β'} {result' : β'} {follow : α → Decoder α'}
    {value' : α'} {least' most' : Nat} (hfirst : Carries write result read value least most)
    (hnext : Carries (next result) result' (follow value) value' least' most') :
    Carries (write >>= next) result' (read >>= follow) value' (least + least') (most + most') := by
  intro draft hready
  obtain ⟨piece, added, hwritten, hback⟩ := hfirst draft (hready.mono (Nat.le_add_right _ _))
  have hle := hwritten.le_most
  have hleast := hwritten.least_le
  have hbelow := hwritten.below
  have hready' : (draft.extend piece added).Ready most' := hready.extend (by omega) hbelow
  obtain ⟨other, later, hwritten', hback'⟩ := hnext _ hready'
  have hle' := hwritten'.le_most
  have hleast' := hwritten'.least_le
  refine ⟨piece ++ other, added ++ later, ⟨?_, ?_, ?_, ?_⟩, ?_⟩
  · rw [Encoder.bind_of_ok hwritten.run, hwritten'.run, Draft.extend_extend]
  · rw [List.length_append]
    omega
  · rw [List.length_append]
    omega
  · intro entry hentry
    rw [List.length_append]
    rcases List.mem_append.1 hentry with hentry | hentry
    · have hlt := hbelow entry hentry
      omega
    · have hlt := hwritten'.below entry hentry
      rw [Draft.position_extend] at hlt
      omega
  · intro message htable hstands
    obtain ⟨hpiece, hother⟩ := standsAt_append.1 hstands
    obtain ⟨hread, htable'⟩ := hback message htable hpiece
    obtain ⟨hread', htable''⟩ := hback' message htable' hother
    rw [Draft.position_extend, Nat.add_assoc, ← List.length_append] at hread' htable''
    rw [Draft.suffixes_extend, List.append_assoc] at htable''
    exact ⟨hread.bind hread', htable''⟩

theorem carries_pure (result : β) (value : α) :
    Carries (pure result) result (pure value) value 0 0 := by
  intro draft hready
  refine ⟨[], [], ⟨?_, Nat.le_refl 0, Nat.le_refl 0, by simp⟩, ?_⟩
  · rw [Draft.extend_nil]
    rfl
  · intro message htable hstands
    exact ⟨reads_pure value, by simpa using htable⟩

theorem Carries.mono {least' most' : Nat} (h : Carries write result read value least most)
    (hleast : least' ≤ least) (hmost : most ≤ most') :
    Carries write result read value least' most' := by
  intro draft hready
  obtain ⟨piece, added, hwritten, hback⟩ := h draft (hready.mono hmost)
  exact ⟨piece, added, ⟨hwritten.run, Nat.le_trans hleast hwritten.least_le,
    Nat.le_trans hwritten.le_most hmost, hwritten.below⟩, hback⟩

/-- A writer that does what another one does wherever that succeeds. -/
theorem Carries.of_run {other : Encoder β} (h : Carries write result read value least most)
    (hrun : ∀ draft found after, write draft = .ok found after → other draft = .ok found after) :
    Carries other result read value least most := by
  intro draft hready
  obtain ⟨piece, added, hwritten, hback⟩ := h draft hready
  exact ⟨piece, added, ⟨hrun _ _ _ hwritten.run, hwritten.least_le, hwritten.le_most,
    hwritten.below⟩, hback⟩

theorem Carries.map (h : Carries write result read value least most) (f : α → α') :
    Carries write result (read >>= fun a => pure (f a)) (f value) least most := by
  have hpure : Carries (write >>= pure) result (read >>= fun a => pure (f a)) (f value)
      (least + 0) (most + 0) := h.bind (carries_pure result (f value))
  rwa [bind_pure] at hpure

end Composition

theorem carries_piece {α : Type} {octets : Bytes} {read : Decoder α} {value : α}
    (h : ∀ message start, StandsAt message start octets →
      Reads read message start value (start + octets.length)) :
    Carries (Encoder.piece octets) () read value octets.length octets.length := by
  intro draft hready
  refine ⟨octets, [], ⟨Encoder.piece_of_ready hready, Nat.le_refl _, Nat.le_refl _, by simp⟩, ?_⟩
  intro message htable hstands
  refine ⟨h message draft.position hstands, ?_⟩
  rw [List.append_nil]
  exact htable.mono (Nat.le_add_right _ _)

theorem carries_word16 (word : UInt16) :
    Carries (Encoder.word16 word) () Decoder.word16 word 2 2 :=
  carries_piece fun _ _ => reads_word16

theorem carries_word32 (word : UInt32) :
    Carries (Encoder.word32 word) () Decoder.word32 word 4 4 :=
  carries_piece fun _ _ => reads_word32

theorem carries_name {name : Name} (hname : name.Valid) :
    Carries (Encoder.name false name) () Decoder.name name 1 name.wireLength := by
  intro draft hready
  have hle := length_nameOctets_le draft.suffixes hname.labels
  have hroom := hready.room
  unfold Name.wireLength at hroom
  refine ⟨nameOctets draft.suffixes name.labels,
    newSuffixes draft.suffixes draft.position name.labels,
    ⟨Encoder.name_of_ready hready hname, nameOctets_length_pos _ _, hle,
      fun entry => lt_of_mem_newSuffixes⟩, ?_⟩
  intro message htable hstands
  obtain ⟨hat, -⟩ := nameAt_of_standsAt htable (Nat.le_refl _) hname.labels hstands
  exact ⟨hat.reads hname.length,
    htable.append_newSuffixes hname.labels (by omega) hstands⟩

theorem carries_pieces {size : Nat} {pieces : List Bytes}
    (h : ∀ piece ∈ pieces, piece.length = size) :
    Carries (Encoder.pieces pieces) () (Decoder.repeated pieces.length (Decoder.octets size)) pieces
      (pieces.length * size) (pieces.length * size) := by
  induction pieces with
  | nil =>
    rw [List.length_nil, Nat.zero_mul]
    exact carries_pure () []
  | cons piece others ih =>
    have hsize := h piece List.mem_cons_self
    have hfirst : Carries (Encoder.piece piece) () (Decoder.octets size) piece size size := by
      rw [← hsize]
      exact carries_piece fun _ _ => reads_octets
    have hothers := ih fun other hother => h other (List.mem_cons_of_mem _ hother)
    rw [List.length_cons, Nat.succ_mul, Nat.add_comm (others.length * size)]
    unfold Encoder.pieces Decoder.repeated
    exact Carries.bind hfirst (hothers.map (piece :: ·))

/-- The value is one that a field of the kind may have. -/
inductive FieldFits : FieldKind → FieldValue → Prop
  | units {size : Nat} {pieces : List Bytes} (h : ∀ piece ∈ pieces, piece.length = size) :
    FieldFits (.units size pieces.length) (.pieces pieces)
  | name {name : Name} (h : name.Valid) : FieldFits .name (.name name)

namespace FieldKind

def least : FieldKind → Nat
  | .units size count => count * size
  | _ => 1

/-- How many it takes at most, if it holds units or a name. -/
def most : FieldKind → Nat
  | .units size count => count * size
  | _ => maxNameLength

end FieldKind

theorem carries_field {kind : FieldKind} {value : FieldValue} (h : FieldFits kind value)
    (stop : Nat) :
    Carries (Encoder.field value) () (Decoder.field stop kind) value kind.least kind.most := by
  cases h with
  | units hpieces => exact (carries_pieces hpieces).map FieldValue.pieces
  | name hname =>
    exact ((carries_name hname).mono (Nat.le_refl 1) hname.length).map FieldValue.name

theorem carries_fields {kinds : List FieldKind} {values : List FieldValue}
    (h : List.Forall₂ FieldFits kinds values) (stop : Nat) :
    Carries (Encoder.fields values) () (Decoder.fields stop kinds) values
      (kinds.map FieldKind.least).sum (kinds.map FieldKind.most).sum := by
  induction h with
  | nil => exact carries_pure () []
  | @cons kind value kinds values hfirst _ ih =>
    rw [List.map_cons, List.map_cons, List.sum_cons, List.sum_cons]
    unfold Encoder.fields Decoder.fields
    exact Carries.bind (carries_field hfirst stop) (ih.map (value :: ·))

end Sinkhole.Dns
