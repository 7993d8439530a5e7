import Sinkhole.Proofs.Dns.Records

/-! # Messages read back

The sections of a message are carried one after the other behind the room for the header, which is
filled in last. The extension record is written as one more section and read as the end of the one
before. Main statement: a message of modest size with a known operation and with records of fixed
layouts is always written, and what is written is read back as the message.
-/
namespace Sinkhole.Dns

theorem octet_high : ∀ opcode ∈ [0, 2, 4, 5], ∀ response authoritative truncated desired : Bool,
    let octet := UInt8.ofNat (placed response 7 + opcode * 8 + placed authoritative 2 +
      placed truncated 1 + placed desired 0)
    octet.toNat / 8 % 16 = opcode ∧ bit octet 7 = response ∧ bit octet 2 = authoritative ∧
      bit octet 1 = truncated ∧ bit octet 0 = desired := by
  decide +kernel

theorem octet_low : ∀ code < headerCodes, ∀ available authentic disabled : Bool,
    let octet := UInt8.ofNat (placed available 7 + placed authentic 5 + placed disabled 4 + code)
    bit octet 7 = available ∧ bit octet 5 = authentic ∧ bit octet 4 = disabled ∧
      octet.toNat % headerCodes = code := by
  decide +kernel

/-- The header has the lowest part of the response code only. -/
theorem reads_header {message : Bytes} {start : Nat} {header : Header}
    (hopcode : isKnownOpcode header.opcode) (h : StandsAt message start header.octets) :
    Reads Decoder.header message start
      { header with responseCode := header.responseCode % headerCodes } (start + 4) := by
  have hmem : header.opcode ∈ [0, 2, 4, 5] := by simpa [isKnownOpcode] using hopcode
  obtain ⟨hop, hqr, haa, htc, hrd⟩ := octet_high header.opcode hmem header.response
    header.authoritative header.truncated header.recursionDesired
  obtain ⟨hra, had, hcd, hcode⟩ := octet_low (header.responseCode % headerCodes)
    (Nat.mod_lt _ (by decide)) header.recursionAvailable header.authenticData
    header.checkingDisabled
  obtain ⟨hid, hflags⟩ := standsAt_append.1 h
  rw [← List.singleton_append] at hflags
  obtain ⟨hhigh, hlow⟩ := standsAt_append.1 hflags
  have hknown : (!isKnownOpcode header.opcode) = false := by simp [hopcode]
  refine (reads_word16 hid).bind ((reads_octet hhigh).bind ?_)
  simp only [hop, hknown, hqr, haa, htc, hrd, Bool.false_eq_true, if_false]
  refine (reads_octet hlow).bind ?_
  simp only [hra, had, hcd, hcode]
  exact reads_pure _

def Question.room (question : Question) : Nat := question.name.wireLength + 4

theorem carries_question {question : Question} (h : question.name.Valid) :
    Carries (Encoder.question question) () Decoder.question question 1 question.room := by
  have hparts : Carries (Encoder.question question) () Decoder.question question (1 + (2 + (2 + 0)))
      (question.name.wireLength + (2 + (2 + 0))) := by
    unfold Encoder.question Decoder.question
    exact Carries.bind (carries_name h) <| Carries.bind (carries_word16 question.qtype) <|
      (carries_word16 question.qclass).map (Question.mk question.name question.qtype)
  exact hparts.mono (by omega) (Nat.le_refl _)

theorem carries_questions {questions : List Question} (h : ∀ q ∈ questions, q.name.Valid) :
    Carries (Encoder.questions questions) ()
      (Decoder.repeated questions.length Decoder.question) questions
      questions.length (questions.map Question.room).sum := by
  induction questions with
  | nil => exact carries_pure () []
  | cons first others ih =>
    have hfirst := carries_question (h first List.mem_cons_self)
    have hothers := ih fun other hother => h other (List.mem_cons_of_mem _ hother)
    have hboth : Carries (Encoder.questions (first :: others)) ()
        (Decoder.repeated (others.length + 1) Decoder.question) (first :: others)
        (1 + others.length) (first.room + (others.map Question.room).sum) :=
      Carries.bind hfirst (hothers.map (first :: ·))
    refine hboth.mono ?_ ?_
    · rw [List.length_cons]
      omega
    · rw [List.map_cons, List.sum_cons]

theorem Encoder.records_cons_of_ok {first : Record} {others : List Record} {draft after : Draft}
    {found : Section}
    (h : (Encoder.record first >>= fun _ => Encoder.records others >>= fun rest =>
      pure { rest with count := rest.count + 1 }) draft = .ok found after) :
    Encoder.records (first :: others) draft = .ok found after := by
  simp only [bind, EStateM.bind, pure, EStateM.pure] at h
  cases hfirst : Encoder.record first draft with
  | error cause middle => simp [hfirst] at h
  | ok _ middle =>
    cases hothers : Encoder.records others middle with
    | error cause last => simp [hfirst, hothers] at h
    | ok rest last => simpa [Encoder.records, hfirst, hothers] using h

theorem carries_records {records : List Record} (h : ∀ record ∈ records, record.Fits) :
    Carries (Encoder.records records) (⟨records.length, false⟩ : Section)
      (Decoder.repeated records.length Decoder.record) records
      records.length (records.map Record.room).sum := by
  induction records with
  | nil => exact carries_pure (⟨0, false⟩ : Section) []
  | cons first others ih =>
    have hfirst := carries_record (h first List.mem_cons_self)
    have hothers := ih fun other hother => h other (List.mem_cons_of_mem _ hother)
    have hboth : Carries (Encoder.record first >>= fun _ => Encoder.records others >>= fun rest =>
          pure { rest with count := rest.count + 1 }) (⟨others.length + 1, false⟩ : Section)
        (Decoder.repeated (others.length + 1) Decoder.record) (first :: others)
        (1 + (others.length + 0)) (first.room + ((others.map Record.room).sum + 0)) :=
      Carries.bind hfirst (Carries.bind hothers (carries_pure _ (first :: others)))
    refine (hboth.of_run fun _ _ _ => Encoder.records_cons_of_ok).mono ?_ ?_
    · rw [List.length_cons]
      omega
    · rw [List.map_cons, List.sum_cons]
      omega

structure Extension.Fits (extension : Extension) : Prop where
  version : extension.version < 256
  payloadSize : minPayloadSize ≤ extension.payloadSize
  options : extension.options = []

theorem Name.valid_root : Name.root.Valid := ⟨by simp [Name.root], by decide⟩

theorem Extension.fits_toRecord {extension : Extension} (h : extension.Fits) (code : Nat) :
    (extension.toRecord code).Fits where
  owner := Name.valid_root
  extension := fun _ => ⟨rfl, h.payloadSize⟩
  data := by
    simp only [toRecord, h.options]
    exact .empty

/-- What the time to live of an extension record is put together from. -/
theorem Extension.Fits.toNat_ttl_toRecord {extension : Extension} (h : extension.Fits) (code : Nat) :
    (extension.toRecord code).ttl.toNat = code / headerCodes % 256 * 16777216 +
      extension.version * 65536 + if extension.dnssecOk then 32768 else 0 := by
  have hversion := h.version
  simp only [toRecord, UInt32.toNat_ofNat']
  apply Nat.mod_eq_of_lt
  split <;> omega

theorem Extension.ofRecord_toRecord {extension : Extension} (h : extension.Fits) (code : Nat) :
    Extension.ofRecord (extension.toRecord code) = extension := by
  have hversion := h.version
  have hoptions := h.options
  have httl := h.toNat_ttl_toRecord code
  obtain ⟨version, dnssecOk, payloadSize, options⟩ := extension
  dsimp only at hversion hoptions
  subst hoptions
  simp only [Extension.ofRecord, httl]
  congr 1
  · cases dnssecOk <;> simp <;> omega
  · cases dnssecOk <;> simp <;> omega

theorem highCode_toRecord {extension : Extension} (h : extension.Fits) {code : Nat}
    (hcode : code < 256 * headerCodes) :
    highCode (some (extension.toRecord code)) * headerCodes + code % headerCodes = code := by
  have hversion := h.version
  have hcodes : headerCodes = 16 := rfl
  simp only [highCode, h.toNat_ttl_toRecord code, hcodes] at hcode ⊢
  split <;> omega

theorem splitExtension?_append {records : List Record} (extension : Option Record)
    (h : ∀ record ∈ records, record.type ≠ extensionType)
    (hextension : ∀ record ∈ extension, record.type = extensionType) :
    splitExtension? (records ++ extension.toList) = some (records, extension) := by
  have hothers : records.filter (·.type != extensionType) = records := by
    rw [List.filter_eq_self]
    simpa using h
  have hnone : records.filter (·.type == extensionType) = [] := by
    rw [List.filter_eq_nil_iff]
    simpa using h
  cases extension with
  | none => simp [splitExtension?, hothers, hnone]
  | some record =>
    have htype := hextension record rfl
    simp [splitExtension?, hothers, hnone, htype]

namespace Message

def room (message : Message) : Nat :=
  headerLength + ((message.questions.map Question.room).sum +
    ((message.answers.map Record.room).sum + ((message.authority.map Record.room).sum +
      ((message.additional.map Record.room).sum +
        (message.extensionSection.map Record.room).sum))))

def entries (message : Message) : Nat :=
  message.questions.length + (message.answers.length + (message.authority.length +
    (message.additional.length + (message.extensionSection.length + 0))))

def CodeFits (message : Message) : Prop :=
  match message.extension with
  | some _ => message.header.responseCode < 256 * headerCodes
  | none => message.header.responseCode < headerCodes

structure Fits (message : Message) : Prop where
  opcode : isKnownOpcode message.header.opcode
  responseCode : message.CodeFits
  questions : ∀ question ∈ message.questions, question.name.Valid
  answers : ∀ record ∈ message.answers, record.Fits
  authority : ∀ record ∈ message.authority, record.Fits
  additional : ∀ record ∈ message.additional, record.Fits
  ordinary : ∀ record ∈ message.additional, record.type ≠ extensionType
  extension : ∀ extension ∈ message.extension, extension.Fits
  room : message.room ≤ suffixLimit

variable {message : Message}

theorem Fits.extensionSection (h : message.Fits) :
    ∀ record ∈ message.extensionSection, record.Fits := by
  intro record hrecord
  obtain ⟨extension, hextension, rfl⟩ : ∃ extension ∈ message.extension,
      extension.toRecord message.header.responseCode = record := by
    simpa [Message.extensionSection] using hrecord
  exact Extension.fits_toRecord (h.extension extension hextension) _

theorem Fits.highCode (h : message.Fits) :
    highCode (message.extension.map (·.toRecord message.header.responseCode)) * headerCodes +
      message.header.responseCode % headerCodes = message.header.responseCode := by
  have hcode := h.responseCode
  unfold CodeFits at hcode
  cases hextension : message.extension with
  | none =>
    rw [hextension] at hcode
    have hmod := Nat.mod_eq_of_lt hcode
    simp [Dns.highCode, hmod]
  | some extension =>
    rw [hextension] at hcode
    exact highCode_toRecord (h.extension extension hextension) hcode

theorem Fits.map_ofRecord (h : message.Fits) :
    (message.extension.map (·.toRecord message.header.responseCode)).map Extension.ofRecord =
      message.extension := by
  cases hextension : message.extension with
  | none => rfl
  | some extension =>
    exact congrArg some (Extension.ofRecord_toRecord (h.extension extension hextension) _)

end Message

theorem Decoder.repeated_add {α : Type} (count more : Nat) (read : Decoder α) :
    repeated (count + more) read =
      repeated count read >>= fun first => repeated more read >>= fun others =>
        pure (first ++ others) := by
  induction count with
  | zero =>
    rw [Nat.zero_add]
    simp [repeated]
  | succ count ih =>
    rw [Nat.succ_add]
    simp [repeated, ih]

def Encoder.sections (message : Message) : Encoder (Section × Section × Section × Section) := do
  questions message.questions
  let answers ← records message.answers
  let authority ← records message.authority
  let additional ← records message.additional
  let extension ← records message.extensionSection
  pure (answers, authority, additional, extension)

def Decoder.sections (questions answers authority additional : Nat) :
    Decoder (List Question × List Record × List Record × List Record) := do
  let questions ← repeated questions question
  let answers ← repeated answers record
  let authority ← repeated authority record
  let additional ← repeated additional record
  pure (questions, answers, authority, additional)

theorem carries_sections {message : Message} (h : message.Fits) :
    Carries (Encoder.sections message)
      ((⟨message.answers.length, false⟩, ⟨message.authority.length, false⟩,
        ⟨message.additional.length, false⟩, ⟨message.extensionSection.length, false⟩) :
          Section × Section × Section × Section)
      (Decoder.sections message.questions.length message.answers.length message.authority.length
        (message.additional.length + message.extensionSection.length))
      (message.questions, message.answers, message.authority,
        message.additional ++ message.extensionSection)
      message.entries (message.room - headerLength) := by
  have hroom : message.room - headerLength = (message.questions.map Question.room).sum +
      ((message.answers.map Record.room).sum + ((message.authority.map Record.room).sum +
        ((message.additional.map Record.room).sum +
          ((message.extensionSection.map Record.room).sum + 0)))) := by
    unfold Message.room
    omega
  rw [hroom]
  unfold Encoder.sections Decoder.sections
  simp only [Decoder.repeated_add, bind_assoc, pure_bind]
  exact Carries.bind (carries_questions h.questions) <|
    Carries.bind (carries_records h.answers) <| Carries.bind (carries_records h.authority) <|
    Carries.bind (carries_records h.additional) <|
    Carries.bind (carries_records h.extensionSection) <| carries_pure _ _

theorem Encoder.sections_bind {β : Type} (message : Message)
    (follow : Section → Section → Section → Section → Encoder β) :
    (sections message >>= fun found => follow found.1 found.2.1 found.2.2.1 found.2.2.2) =
      questions message.questions >>= fun _ => records message.answers >>= fun answers =>
        records message.authority >>= fun authority => records message.additional >>=
          fun additional => records message.extensionSection >>= fun extension =>
            follow answers authority additional extension := by
  unfold sections
  simp only [bind_assoc, pure_bind]

theorem Decoder.sections_bind {β : Type} (count count' count'' count''' : Nat)
    (follow : List Question → List Record → List Record → List Record → Decoder β) :
    (sections count count' count'' count''' >>= fun found =>
        follow found.1 found.2.1 found.2.2.1 found.2.2.2) =
      repeated count question >>= fun questions => repeated count' record >>= fun answers =>
        repeated count'' record >>= fun authority => repeated count''' record >>= fun additional =>
          follow questions answers authority additional := by
  unfold sections
  simp only [bind_assoc, pure_bind]

namespace Message

variable {message : Message}

def start (message : Message) : Bytes :=
  message.header.octets ++ (countOctets message.questions.length ++
    (countOctets message.answers.length ++ (countOctets message.authority.length ++
      countOctets (message.additional.length + message.extensionSection.length))))

theorem length_start (message : Message) : message.start.length = headerLength := rfl

/-- A message that fits is written as its start and the octets of its sections, which can be read
behind it. -/
theorem Fits.encode (h : message.Fits) :
    ∃ piece, message.encode = .ok (message.start ++ piece) ∧
      headerLength + piece.length ≤ message.room ∧ message.entries ≤ piece.length ∧
      Reads (Decoder.sections message.questions.length message.answers.length
          message.authority.length (message.additional.length + message.extensionSection.length))
        (message.start ++ piece) headerLength (message.questions, message.answers,
          message.authority, message.additional ++ message.extensionSection)
        (headerLength + piece.length) := by
  have hle : headerLength ≤ message.room := Nat.le_add_right _ _
  have hempty : Draft.empty.Ready message.room := by
    refine ⟨Draft.atEnd_empty, by simp [Draft.empty], ?_⟩
    simpa [Draft.empty] using h.room
  have hready : (Draft.empty.extend (List.replicate headerLength 0) []).Ready
      (message.room - headerLength) := by
    apply hempty.extend
    · rw [List.length_replicate]
      omega
    · simp
  obtain ⟨piece, added, hwritten, hback⟩ := carries_sections h _ hready
  have hmost := hwritten.le_most
  -- The header goes over the room that was left for it, and the sections stay where they are.
  have hfill : Encoder.fill 0 message.start
      ((Draft.empty.extend (List.replicate headerLength 0) []).extend piece added) =
        .ok () (Draft.empty.extend (message.start ++ piece) added) := by
    rw [Draft.extend_extend]
    exact Encoder.fill_extend Draft.atEnd_empty added (length_start message)
  have hrun : Encoder.message message .empty =
      .ok () (Draft.empty.extend (message.start ++ piece) added) := by
    unfold Encoder.message
    rw [Encoder.bind_of_ok (Encoder.reserve_of_ready (hempty.mono hle)), ← Encoder.sections_bind,
      Encoder.bind_of_ok hwritten.run]
    simpa [start] using hfill
  have hstands : StandsAt (message.start ++ piece) headerLength piece := by
    unfold StandsAt
    rw [← length_start message, List.drop_left]
  obtain ⟨hread, -⟩ := hback _ (tableAt_nil _ _) hstands
  refine ⟨piece, ?_, by omega, hwritten.least_le, hread⟩
  have hoctets : (Draft.empty.extend (message.start ++ piece) added).octets.toList =
      message.start ++ piece := by
    simp [Draft.empty]
  simp only [Message.encode, hrun, hoctets]

theorem reads_count {octets : Bytes} {start count : Nat} (hcount : count < 65536)
    (h : StandsAt octets start (countOctets count)) :
    ∃ word, Reads Decoder.word16 octets start word (start + 2) ∧ word.toNat = count :=
  ⟨_, reads_word16 h, UInt16.toNat_ofNat_of_lt' hcount⟩

/-- Main result: what is written for a message that fits is short and is read back as it. -/
theorem Fits.decode_encode (h : message.Fits) :
    ∃ octets, message.encode = .ok octets ∧ octets.length ≤ message.room ∧
      Message.decode octets = .ok message := by
  obtain ⟨piece, hencode, hlength, hentries, hsections⟩ := h.encode
  have hroom := h.room
  have hlimit : suffixLimit = 16383 := rfl
  unfold entries at hentries
  have hstands : StandsAt (message.start ++ piece) 0 message.start := List.prefix_append _ _
  obtain ⟨hheader, hcounts⟩ := standsAt_append.1 hstands
  obtain ⟨hquestions, hcounts⟩ := standsAt_append.1 hcounts
  obtain ⟨hanswers, hcounts⟩ := standsAt_append.1 hcounts
  obtain ⟨hauthority, hadditional⟩ := standsAt_append.1 hcounts
  obtain ⟨questions, hquestions, hq⟩ := reads_count (by omega) hquestions
  obtain ⟨answers, hanswers, ha⟩ := reads_count (by omega) hanswers
  obtain ⟨authority, hauthority, hu⟩ := reads_count (by omega) hauthority
  obtain ⟨additional, hadditional, hd⟩ := reads_count (by omega) hadditional
  refine ⟨_, hencode, by simpa [length_start] using hlength, ?_⟩
  have hread : Reads Decoder.message (message.start ++ piece) 0 message
      (headerLength + piece.length) := by
    refine (reads_header h.opcode hheader).bind <| hquestions.bind <| hanswers.bind <|
      hauthority.bind <| hadditional.bind ?_
    rw [hq, ha, hu, hd, ← Decoder.sections_bind]
    refine hsections.bind ?_
    have hsplit : splitExtension? (message.additional ++ message.extensionSection) =
        some (message.additional,
          message.extension.map (·.toRecord message.header.responseCode)) := by
      apply splitExtension?_append _ h.ordinary
      intro record hrecord
      obtain ⟨extension, -, rfl⟩ := Option.map_eq_some_iff.1 hrecord
      rfl
    simp only [hsplit, h.highCode, h.map_ofRecord]
    exact reads_pure _
  unfold Message.decode
  rw [StateT.run, show Cursor.start (message.start ++ piece) = .after (message.start ++ piece) 0
    from rfl, hread]
  rfl

end Message

theorem yields_recordClass (owner : Name) (type : UInt16) :
    Yields (Decoder.recordClass owner type)
      fun rclass => type = extensionType → minPayloadSize ≤ rclass := by
  refine yields_bind fun value => ?_
  split
  · split
    · refine yields_pure fun _ => ?_
      show minPayloadSize ≤ if value ≤ minPayloadSize then minPayloadSize else value
      split
      · exact UInt16.le_refl _
      · exact UInt16.le_of_lt (UInt16.not_le.1 ‹_›)
    · exact yields_fail _
  · exact yields_pure fun htype => absurd htype ‹_›

theorem yields_record :
    Yields Decoder.record fun record => record.type = extensionType →
      minPayloadSize ≤ record.rclass := by
  refine yields_bind fun owner => yields_bind fun type =>
    (yields_recordClass owner type).bind fun rclass hclass => yields_bind fun ttl =>
      yields_bind fun length => yields_bind fun remaining => ?_
  split
  · exact yields_fail _
  · refine yields_bind fun position => yields_bind fun data => yields_bind fun stop => ?_
    split
    · exact yields_pure hclass
    · exact yields_fail _

theorem yields_question : Yields Decoder.question fun question => question.name.Valid :=
  yields_name.bind fun _ hname => yields_bind fun _ => yields_bind fun _ => yields_pure hname

theorem yields_header : Yields Decoder.header fun header => isKnownOpcode header.opcode := by
  refine yields_bind fun id => yields_bind fun high => ?_
  dsimp only
  split
  · exact yields_fail _
  · rename_i hknown
    refine yields_bind fun low => yields_pure ?_
    simpa using hknown

structure Message.WasRead (message : Message) : Prop where
  opcode : isKnownOpcode message.header.opcode
  questions : ∀ question ∈ message.questions, question.name.Valid
  version : ∀ extension ∈ message.extension, extension.version < 256
  payloadSize : ∀ extension ∈ message.extension, minPayloadSize ≤ extension.payloadSize

theorem mem_of_splitExtension? {records others : List Record} {extension : Option Record}
    (h : splitExtension? records = some (others, extension)) :
    ∀ record ∈ extension, record ∈ records ∧ record.type = extensionType := by
  intro record hrecord
  have hmem : record ∈ records.filter (·.type == extensionType) := by
    unfold splitExtension? at h
    split at h <;> cases h
    · cases hrecord
    · rename_i hfilter
      cases hrecord
      rw [hfilter]
      exact List.mem_singleton_self _
  simpa using hmem

theorem yields_message : Yields Decoder.message Message.WasRead := by
  refine yields_header.bind fun header hheader => yields_bind fun questionCount =>
    yields_bind fun answerCount => yields_bind fun authorityCount =>
    yields_bind fun additionalCount => (yields_question.repeated _).bind fun questions hquestions =>
    yields_bind fun answers => yields_bind fun authority =>
    (yields_record.repeated _).bind fun additional hadditional => ?_
  split
  · rename_i others extension hsplit
    refine yields_pure ⟨hheader, hquestions, ?_, ?_⟩
    · intro found hfound
      obtain ⟨record, -, rfl⟩ := Option.map_eq_some_iff.1 hfound
      exact Nat.mod_lt _ (by decide)
    · intro found hfound
      obtain ⟨record, hrecord, rfl⟩ := Option.map_eq_some_iff.1 hfound
      obtain ⟨hmem, htype⟩ := mem_of_splitExtension? hsplit record hrecord
      exact hadditional record hmem htype
  · exact yields_fail _

theorem Message.wasRead {octets : Bytes} {message : Message}
    (h : Message.decode octets = .ok message) : message.WasRead := by
  unfold Message.decode at h
  cases hrun : Decoder.message.run (.start octets) with
  | error cause =>
    rw [hrun] at h
    cases h
  | ok found =>
    rw [hrun] at h
    cases h
    exact yields_message hrun

end Sinkhole.Dns
