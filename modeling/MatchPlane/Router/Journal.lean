import MatchPlane.Router.Transactions
import MatchPlane.Library.NumberTexts

/-!
# The journal of the audit records

The journal is scanned in the parts that the reads answer.  Its complete lines are the ones
that a newline ends; what follows the last newline is a tail that is not complete yet.
-/

namespace MatchPlane.Router.Transaction

open MatchPlane.Library MatchPlane.JavaScript Program

/-! ## The lines of a journal -/

def completeLines (content : Bytes) : List Bytes := (content.splitOn 10).dropLast

def incompleteTail (content : Bytes) : Bytes := (content.splitOn 10).getLastD []

/-- The lines of the bytes after a carry, the last one of which has no end yet. -/
def linesAfter (carry content : Bytes) : List Bytes :=
  (content.splitOn 10).modifyHead (carry ++ ·)

/-- The lines with their newlines and the tail are the journal. -/
theorem flatten_lines (content : Bytes) :
    ((completeLines content).map (· ++ [10])).flatten ++ incompleteTail content = content := by
  induction content with
  | nil => rfl
  | cons byte content ih =>
      obtain ⟨first, rest, hlines⟩ := List.exists_cons_of_ne_nil
        (List.splitOnP_ne_nil (· == (10 : UInt8)) content)
      rw [completeLines, incompleteTail, List.splitOn, hlines] at ih
      rw [completeLines, incompleteTail, List.splitOn, List.splitOnP_cons_eq_if_modifyHead, hlines]
      by_cases hbyte : byte = 10
      · simpa [hbyte] using ih
      · cases rest <;> simp_all

theorem linesAfter_nil (content : Bytes) : linesAfter [] content = content.splitOn 10 := by
  cases h : content.splitOn 10 <;> simp [linesAfter, h]

theorem linesAfter_newline (carry content : Bytes) :
    linesAfter carry (10 :: content) = carry :: content.splitOn 10 := by
  simp [linesAfter, List.splitOn, List.splitOnP_cons_eq_if_modifyHead]

theorem linesAfter_cons {byte : UInt8} (h : byte ≠ 10) (carry content : Bytes) :
    linesAfter carry (byte :: content) = linesAfter (carry ++ [byte]) content := by
  simp [linesAfter, List.splitOn, List.splitOnP_cons_eq_if_modifyHead, h, Function.comp_def]

section Journal

variable [UrlParser] [NumberText]

/-! ## The scan over chunks -/

/-- The loop over what is available: each newline ends a line, and the rest is carried over. -/
def scanAvailable (wantedEventIds : List RouterId) (records : List PlatformRouterAuditRecord)
    (available : Bytes) : Except RouterError (List PlatformRouterAuditRecord × Bytes) :=
  match hnewline : available.idxOf? 10 with
  | none => .ok (records, available)
  | some newline => do
      let records ← decodeAuditJournalLine wantedEventIds records (available.take newline)
      scanAvailable wantedEventIds records (available.drop (newline + 1))
termination_by available.length
decreasing_by
  have hlt := (List.findIdx?_eq_some_iff_getElem.mp hnewline).1
  simp only [List.length_drop]
  omega

/-- The loop over the chunks; a line that is too long is refused before its end is read. -/
def scanChunks (wantedEventIds : List RouterId) :
    List Bytes → Bytes → List PlatformRouterAuditRecord →
      Except RouterError (List PlatformRouterAuditRecord)
  | [], carry, records => finishScan records carry
  | chunk :: chunks, carry, records => do
      let (records, carry) ← scanAvailable wantedEventIds records (carry ++ chunk)
      if maxAuditRecordBytes < carry.length then
        .error (.corruption "AI 配置审计单条记录过大")
      else scanChunks wantedEventIds chunks carry records

/-! ## The journal as a whole -/

/-- The end of a journal whose complete lines have been read. -/
def finishJournal (records : List PlatformRouterAuditRecord) (tail : Bytes) :
    Except RouterError (List PlatformRouterAuditRecord) :=
  if maxAuditRecordBytes < tail.length then .error (.corruption "AI 配置审计单条记录过大")
  else finishScan records tail

/-- The whole journal is split into lines, which are decoded one after the other. -/
def parseJournal (wantedEventIds : List RouterId) (content : Bytes) :
    Except RouterError (List PlatformRouterAuditRecord) := do
  let records ← (completeLines content).foldlM (decodeAuditJournalLine wantedEventIds) []
  finishJournal records (incompleteTail content)

variable {wanted : List RouterId} {records : List PlatformRouterAuditRecord}

theorem scanAvailable_of_not_mem {available : Bytes} (h : 10 ∉ available) :
    scanAvailable wanted records available = .ok (records, available) := by
  have hnone : available.idxOf? 10 = none := by simpa using h
  rw [scanAvailable]
  split
  · rfl
  · rename_i newline hnewline
    rw [hnone] at hnewline
    cases hnewline

theorem scanAvailable_line {line rest : Bytes} (h : 10 ∉ line) :
    scanAvailable wanted records (line ++ 10 :: rest) =
      decodeAuditJournalLine wanted records line >>= fun records =>
        scanAvailable wanted records rest := by
  have hindex : (line ++ 10 :: rest).idxOf? 10 = some line.length := by
    have hnone : line.findIdx? (· == 10) = none := by
      simpa using fun byte hmem (heq : byte = 10) => h (heq ▸ hmem)
    simp [List.idxOf?, List.findIdx?_append, hnone, List.findIdx?_cons]
  rw [scanAvailable]
  split
  · rename_i hnone
    rw [hindex] at hnone
    cases hnone
  · rename_i newline hnewline
    rw [hindex] at hnewline
    cases hnewline
    simp

/-- The bytes one by one, or line by line. -/
theorem scanLines_eq_scanAvailable {carry chunk : Bytes} (hcarry : 10 ∉ carry) :
    scanLines wanted records carry chunk = scanAvailable wanted records (carry ++ chunk) := by
  induction chunk generalizing carry records with
  | nil => simp [scanLines, scanAvailable_of_not_mem hcarry]
  | cons byte rest ih =>
      by_cases hbyte : byte = 10
      · subst hbyte
        rw [scanLines, if_pos rfl, scanAvailable_line hcarry]
        refine congrArg _ (funext fun records => ?_)
        simpa using @ih records [] (by simp)
      · have hcarry' : 10 ∉ carry ++ [byte] := by
          simp [hcarry, Ne.symm hbyte]
        rw [scanLines, if_neg hbyte, ih hcarry', List.append_assoc, List.singleton_append]

theorem scanLines_append (carry chunk rest : Bytes) :
    scanLines wanted records carry (chunk ++ rest) =
      scanLines wanted records carry chunk >>= fun read =>
        scanLines wanted read.1 read.2 rest := by
  induction chunk generalizing carry records with
  | nil => rfl
  | cons byte chunk ih =>
      by_cases hbyte : byte = 10
      · simp only [List.cons_append, scanLines, if_pos hbyte, bind_assoc, ih]
      · simp only [List.cons_append, scanLines, if_neg hbyte, ih]

/-- What is carried over has no newline in it. -/
theorem not_mem_of_scanLines {carry chunk carry' : Bytes}
    {records' : List PlatformRouterAuditRecord} (hcarry : 10 ∉ carry)
    (h : scanLines wanted records carry chunk = .ok (records', carry')) : 10 ∉ carry' := by
  induction chunk generalizing carry records with
  | nil =>
      cases h
      exact hcarry
  | cons byte chunk ih =>
      by_cases hbyte : byte = 10
      · rw [scanLines, if_pos hbyte, bind_eq_ok_iff] at h
        obtain ⟨middle, _, hrest⟩ := h
        exact ih (by simp) hrest
      · rw [scanLines, if_neg hbyte] at h
        exact ih (by simp [hcarry, Ne.symm hbyte]) h

theorem scanLines_eq_foldlM (carry content : Bytes) :
    scanLines wanted records carry content =
      (linesAfter carry content).dropLast.foldlM (decodeAuditJournalLine wanted) records >>=
        fun records => .ok (records, (linesAfter carry content).getLastD []) := by
  induction content generalizing carry records with
  | nil => simp [scanLines, linesAfter, pure, Except.pure, bind, Except.bind]
  | cons byte content ih =>
      by_cases hbyte : byte = 10
      · subst hbyte
        have hne : content.splitOn 10 ≠ [] := List.splitOnP_ne_nil _ content
        rw [scanLines, if_pos rfl, linesAfter_newline, List.dropLast_cons_of_ne_nil hne,
          List.foldlM_cons, bind_assoc]
        refine congrArg _ (funext fun records => ?_)
        rw [ih, linesAfter_nil, List.getLastD_cons, List.getLastD_eq_getLast?,
          List.getLastD_eq_getLast?, List.getLast?_eq_some_getLast hne]
        rfl
      · rw [scanLines, if_neg hbyte, ih, linesAfter_cons hbyte]

/-- The journal from a place on, where a line has begun. -/
def parseFrom (wantedEventIds : List RouterId) (records : List PlatformRouterAuditRecord)
    (carry rest : Bytes) : Except RouterError (List PlatformRouterAuditRecord) :=
  scanLines wantedEventIds records carry rest >>= fun read => finishJournal read.1 read.2

theorem parseJournal_eq_parseFrom (content : Bytes) :
    parseJournal wanted content = parseFrom wanted [] [] content := by
  rw [parseFrom, scanLines_eq_foldlM, linesAfter_nil, bind_assoc]
  rfl

/-- A line that is too long already is too long at its end. -/
theorem parseFrom_of_long {carry : Bytes} (h : maxAuditRecordBytes < carry.length)
    (rest : Bytes) :
    parseFrom wanted records carry rest = .error (.corruption "AI 配置审计单条记录过大") := by
  induction rest generalizing carry with
  | nil =>
      change finishJournal records carry = _
      rw [finishJournal, if_pos h]
  | cons byte rest ih =>
      by_cases hbyte : byte = 10
      · have hne : carry ≠ [] := by
          rintro rfl
          simp at h
        rw [parseFrom, scanLines, if_pos hbyte, decodeAuditJournalLine, if_neg hne, if_pos h]
        rfl
      · rw [parseFrom, scanLines, if_neg hbyte]
        exact ih (by simp; omega)

/-- Reading one chunk: the rest of the journal follows what has been read of it. -/
theorem parseFrom_append {carry chunk : Bytes} (rest : Bytes) :
    parseFrom wanted records carry (chunk ++ rest) =
      scanLines wanted records carry chunk >>= fun read =>
        if maxAuditRecordBytes < read.2.length then
          .error (.corruption "AI 配置审计单条记录过大")
        else parseFrom wanted read.1 read.2 rest := by
  rw [parseFrom, scanLines_append, bind_assoc]
  refine congrArg _ (funext fun read => ?_)
  split
  · rename_i hlong
    exact parseFrom_of_long hlong rest
  · rfl

theorem scanChunks_eq_parseFrom {chunks : List Bytes} {carry : Bytes} (hcarry : 10 ∉ carry)
    (hshort : carry.length ≤ maxAuditRecordBytes) :
    scanChunks wanted chunks carry records = parseFrom wanted records carry chunks.flatten := by
  induction chunks generalizing carry records with
  | nil =>
      change finishScan records carry = finishJournal records carry
      rw [finishJournal, if_neg (by omega)]
  | cons chunk chunks ih =>
      rw [scanChunks, ← scanLines_eq_scanAvailable hcarry, List.flatten_cons, parseFrom_append]
      cases hread : scanLines wanted records carry chunk with
      | error error => rfl
      | ok read =>
          change ite _ _ _ = ite _ _ _
          split
          · rfl
          · exact ih (not_mem_of_scanLines hcarry hread) (by omega)

/-! ## What is found -/

def decodedRecords (lines : List Bytes) : List PlatformRouterAuditRecord :=
  lines.filterMap decodeAuditLine

/-- The first record of an event. -/
def firstRecord (lines : List Bytes) (eventId : RouterId) : Option PlatformRouterAuditRecord :=
  findRecord (decodedRecords lines) eventId

def IsAuditLine (line : Bytes) : Prop :=
  line ≠ [] ∧ line.length ≤ maxAuditRecordBytes ∧ (decodeAuditLine line).isSome

/-- Lines without a malformed one, that say the same whenever they are about the same event. -/
structure AreAuditLines (wanted : List RouterId) (lines : List Bytes) : Prop where
  decodes : ∀ line ∈ lines, IsAuditLine line
  agree : ∀ record ∈ decodedRecords lines, ∀ other ∈ decodedRecords lines,
    record.eventId ∈ wanted → record.eventId = other.eventId →
      record.value.text = other.value.text

/-- The records of lines: one for each event that is wanted. -/
structure Scanned (wanted : List RouterId) (lines : List Bytes)
    (records : List PlatformRouterAuditRecord) : Prop extends AreAuditLines wanted lines where
  mem : ∀ record, record ∈ records ↔
    record.eventId ∈ wanted ∧ firstRecord lines record.eventId = some record
  nodup : (records.map PlatformRouterAuditRecord.eventId).Nodup

omit [NumberText] in
theorem mem_of_findRecord {eventId : RouterId} {record : PlatformRouterAuditRecord}
    (h : findRecord records eventId = some record) :
    record ∈ records ∧ record.eventId = eventId :=
  ⟨List.mem_of_find?_eq_some h, by simpa using List.find?_some h⟩

omit [NumberText] in
theorem findRecord_eq_none {eventId : RouterId} :
    findRecord records eventId = none ↔ ∀ record ∈ records, record.eventId ≠ eventId := by
  simp [findRecord]

theorem Scanned.findRecord {lines : List Bytes} {eventId : RouterId}
    (h : Scanned wanted lines records) (hwanted : eventId ∈ wanted) :
    findRecord records eventId = firstRecord lines eventId := by
  cases hfound : Transaction.findRecord records eventId with
  | some record =>
      obtain ⟨hmem, rfl⟩ := mem_of_findRecord hfound
      exact ((h.mem record).mp hmem).2.symm
  | none =>
      cases hfirst : firstRecord lines eventId with
      | none => rfl
      | some record =>
          obtain ⟨_, rfl⟩ := mem_of_findRecord hfirst
          have hmem := (h.mem record).mpr ⟨hwanted, hfirst⟩
          exact absurd rfl (findRecord_eq_none.mp hfound record hmem)

theorem firstRecord_append {lines : List Bytes} {line : Bytes} {record : PlatformRouterAuditRecord}
    (h : decodeAuditLine line = some record) (eventId : RouterId) :
    firstRecord (lines ++ [line]) eventId =
      (firstRecord lines eventId).or (if record.eventId = eventId then some record else none) := by
  by_cases hid : record.eventId = eventId <;>
    simp [firstRecord, findRecord, decodedRecords, List.filterMap_append, h, hid]

theorem scanned_nil : Scanned wanted [] [] where
  decodes := by simp
  agree := by simp [decodedRecords]
  mem := by simp [firstRecord, decodedRecords, findRecord]
  nodup := List.nodup_nil

/-- What a line that is accepted does to the records: the record of a new event is added. -/
inductive Accepts (wanted : List RouterId) (records : List PlatformRouterAuditRecord)
    (record : PlatformRouterAuditRecord) : List PlatformRouterAuditRecord → Prop where
  | skipped (h : record.eventId ∉ wanted) : Accepts wanted records record records
  | added (h : record.eventId ∈ wanted) (hnew : findRecord records record.eventId = none) :
      Accepts wanted records record (records ++ [record])
  | known {found : PlatformRouterAuditRecord} (h : record.eventId ∈ wanted)
      (hfound : findRecord records record.eventId = some found)
      (htext : found.value.text = record.value.text) : Accepts wanted records record records

theorem decodeAuditJournalLine_eq_ok_iff {line : Bytes}
    {records' : List PlatformRouterAuditRecord} :
    decodeAuditJournalLine wanted records line = .ok records' ↔
      (line ≠ [] ∧ line.length ≤ maxAuditRecordBytes) ∧
        ∃ record, decodeAuditLine line = some record ∧ Accepts wanted records record records' := by
  constructor
  · intro h
    rw [decodeAuditJournalLine] at h
    split at h
    · cases h
    · rename_i hne
      split at h
      · cases h
      · rename_i hshort
        refine ⟨⟨hne, by omega⟩, ?_⟩
        cases hdecode : decodeAuditLine line with
        | none => simp [hdecode] at h
        | some record =>
            refine ⟨record, rfl, ?_⟩
            simp only [hdecode] at h
            split at h
            · rename_i hwanted
              cases h
              exact .skipped hwanted
            · rename_i hwanted
              cases hfound : findRecord records record.eventId with
              | none =>
                  simp only [hfound] at h
                  cases h
                  exact .added (not_not.mp hwanted) hfound
              | some found =>
                  simp only [hfound] at h
                  split at h
                  · cases h
                  · rename_i htext
                    cases h
                    exact .known (not_not.mp hwanted) hfound (not_not.mp htext)
  · rintro ⟨⟨hne, hshort⟩, record, hdecode, haccepts⟩
    rw [decodeAuditJournalLine, if_neg hne, if_neg (by omega)]
    simp only [hdecode]
    cases haccepts with
    | skipped h => rw [if_pos h]
    | added h hnew => rw [if_neg (not_not.mpr h), hnew]
    | known h hfound htext =>
        rw [if_neg (not_not.mpr h), hfound]
        simp [htext]

theorem mem_decodedRecords_append {lines : List Bytes} {line : Bytes}
    {record other : PlatformRouterAuditRecord} (h : decodeAuditLine line = some record) :
    other ∈ decodedRecords (lines ++ [line]) ↔ other ∈ decodedRecords lines ∨ other = record := by
  simp [decodedRecords, List.filterMap_append, h]

/-- An event without a first record has no record. -/
theorem eventId_ne_of_firstRecord {lines : List Bytes} {eventId : RouterId}
    (h : firstRecord lines eventId = none) :
    ∀ record ∈ decodedRecords lines, record.eventId ≠ eventId := findRecord_eq_none.mp h

/-- One more line is accepted with what it says. -/
theorem Scanned.step {lines : List Bytes} {line : Bytes}
    {records' : List PlatformRouterAuditRecord} (h : Scanned wanted lines records)
    (hline : decodeAuditJournalLine wanted records line = .ok records') :
    Scanned wanted (lines ++ [line]) records' := by
  obtain ⟨⟨hne, hshort⟩, record, hdecode, haccepts⟩ := decodeAuditJournalLine_eq_ok_iff.mp hline
  have hagree : ∀ other ∈ decodedRecords lines, record.eventId ∈ wanted →
      other.eventId = record.eventId → other.value.text = record.value.text := by
    intro other hother hwanted hid
    cases haccepts with
    | skipped hskipped => exact absurd hwanted hskipped
    | added _ hnew =>
        rw [h.findRecord hwanted] at hnew
        exact absurd hid (eventId_ne_of_firstRecord hnew other hother)
    | known _ hfound htext =>
        rw [h.findRecord hwanted] at hfound
        obtain ⟨hmem, hid'⟩ := mem_of_findRecord hfound
        rw [← htext]
        exact h.agree other hother _ hmem (hid ▸ hwanted) (hid.trans hid'.symm)
  refine { decodes := ?_, agree := ?_, mem := ?_, nodup := ?_ }
  · intro given hgiven
    rcases List.mem_append.mp hgiven with hold | hnew
    · exact h.decodes given hold
    · rw [List.mem_singleton.mp hnew]
      exact ⟨hne, hshort, by simp [hdecode]⟩
  · intro first hfirst second hsecond hwanted hid
    rcases (mem_decodedRecords_append hdecode).mp hfirst with hfirst | rfl <;>
      rcases (mem_decodedRecords_append hdecode).mp hsecond with hsecond | rfl
    · exact h.agree first hfirst second hsecond hwanted hid
    · exact hagree first hfirst (hid ▸ hwanted) hid
    · exact (hagree second hsecond hwanted hid.symm).symm
    · rfl
  · intro other
    rw [firstRecord_append hdecode]
    cases haccepts with
    | skipped hskipped =>
        rw [h.mem]
        refine and_congr_right fun hwanted => ?_
        have hne : record.eventId ≠ other.eventId := fun heq => hskipped (heq ▸ hwanted)
        simp [hne]
    | added hadded hnew =>
        rw [h.findRecord hadded] at hnew
        by_cases heq : record = other
        · subst heq
          simp [hadded, hnew]
        · rw [List.mem_append, List.mem_singleton, h.mem, or_iff_left (Ne.symm heq)]
          refine and_congr_right fun _ => ?_
          cases firstRecord lines other.eventId <;> simp [heq]
    | known hknown hfound htext =>
        rw [h.findRecord hknown] at hfound
        rw [h.mem]
        refine and_congr_right fun _ => ?_
        by_cases hid : record.eventId = other.eventId
        · rw [← hid, hfound]
          simp
        · simp [hid]
  · cases haccepts with
    | skipped _ => exact h.nodup
    | known _ _ _ => exact h.nodup
    | added _ hnew =>
        rw [List.map_append]
        refine h.nodup.append (List.nodup_singleton _) ?_
        simpa [List.disjoint_singleton] using findRecord_eq_none.mp hnew

/-- A line that agrees with the ones before it is accepted. -/
theorem Scanned.accepts {lines : List Bytes} {line : Bytes} (h : Scanned wanted lines records)
    (hlines : AreAuditLines wanted (lines ++ [line])) :
    ∃ records', decodeAuditJournalLine wanted records line = .ok records' := by
  obtain ⟨hne, hshort, hsome⟩ := hlines.decodes line (by simp)
  obtain ⟨record, hdecode⟩ := Option.isSome_iff_exists.mp hsome
  have haccepts : ∃ records', Accepts wanted records record records' := by
    by_cases hwanted : record.eventId ∈ wanted
    · cases hfound : Transaction.findRecord records record.eventId with
      | none => exact ⟨_, .added hwanted hfound⟩
      | some found =>
          have hfirst := hfound
          rw [h.findRecord hwanted] at hfirst
          obtain ⟨hmem, hid⟩ := mem_of_findRecord hfirst
          have htext := hlines.agree found ((mem_decodedRecords_append hdecode).mpr (.inl hmem))
            record ((mem_decodedRecords_append hdecode).mpr (.inr rfl)) (hid ▸ hwanted) hid
          exact ⟨_, .known hwanted hfound htext⟩
    · exact ⟨_, .skipped hwanted⟩
  obtain ⟨records', haccepts⟩ := haccepts
  exact ⟨records', decodeAuditJournalLine_eq_ok_iff.mpr ⟨⟨hne, hshort⟩, record, hdecode, haccepts⟩⟩

/-- The lines of a longer journal that come first. -/
theorem AreAuditLines.of_append {lines rest : List Bytes}
    (h : AreAuditLines wanted (lines ++ rest)) : AreAuditLines wanted lines := by
  have hmem : ∀ record ∈ decodedRecords lines, record ∈ decodedRecords (lines ++ rest) := by
    intro record hrecord
    simp only [decodedRecords, List.filterMap_append, List.mem_append]
    exact .inl hrecord
  exact {
    decodes := fun line hline => h.decodes line (List.mem_append_left rest hline)
    agree := fun record hrecord other hother =>
      h.agree record (hmem record hrecord) other (hmem other hother)
  }

/-- The lines that follow others are scanned when all of them are audit lines. -/
theorem Scanned.run {lines : List Bytes} (h : Scanned wanted lines records)
    (rest : List Bytes) :
    (∀ records', rest.foldlM (decodeAuditJournalLine wanted) records = .ok records' →
        Scanned wanted (lines ++ rest) records') ∧
      (AreAuditLines wanted (lines ++ rest) →
        ∃ records', rest.foldlM (decodeAuditJournalLine wanted) records = .ok records') := by
  induction rest generalizing lines records with
  | nil =>
      refine ⟨fun records' hrun => ?_, fun _ => ⟨records, rfl⟩⟩
      cases hrun
      simpa using h
  | cons line rest ih =>
      have hsplit : lines ++ line :: rest = (lines ++ [line]) ++ rest := by simp
      simp only [List.foldlM_cons, hsplit]
      constructor
      · intro records' hrun
        obtain ⟨middle, hline, hrest⟩ := (bind_eq_ok_iff ..).mp hrun
        exact (ih (h.step hline)).1 records' hrest
      · intro hlines
        obtain ⟨middle, hline⟩ := h.accepts hlines.of_append
        obtain ⟨records', hrest⟩ := (ih (h.step hline)).2 hlines
        exact ⟨records', (bind_eq_ok_iff ..).mpr ⟨middle, hline, hrest⟩⟩

omit [NumberText] in
theorem finishJournal_eq_ok_iff {tail : Bytes} {records' : List PlatformRouterAuditRecord} :
    finishJournal records tail = .ok records' ↔ tail = [] ∧ records = records' := by
  rw [finishJournal, finishScan]
  constructor
  · intro h
    split at h
    · cases h
    · split at h
      · rename_i hnil
        exact ⟨hnil, Except.ok.inj h⟩
      · split at h <;> cases h
  · rintro ⟨rfl, rfl⟩
    rfl

/-- What a journal says, if every line of it is complete. -/
theorem parseJournal_scanned {content : Bytes} {records : List PlatformRouterAuditRecord}
    (h : parseJournal wanted content = .ok records) :
    incompleteTail content = [] ∧ Scanned wanted (completeLines content) records := by
  obtain ⟨middle, hlines, hfinish⟩ := (bind_eq_ok_iff ..).mp h
  obtain ⟨htail, rfl⟩ := finishJournal_eq_ok_iff.mp hfinish
  exact ⟨htail, by simpa using (scanned_nil.run _).1 middle hlines⟩

theorem parseJournal_succeeds {content : Bytes} (htail : incompleteTail content = [])
    (hlines : AreAuditLines wanted (completeLines content)) :
    ∃ records, parseJournal wanted content = .ok records := by
  obtain ⟨records, hrun⟩ := (scanned_nil.run (completeLines content)).2 (by simpa using hlines)
  exact ⟨records, (bind_eq_ok_iff ..).mpr ⟨records, hrun, finishJournal_eq_ok_iff.mpr ⟨htail, rfl⟩⟩⟩

end Journal

/-! ## The scan of the file -/

/-- Parts of a text that reads can answer one after the other. -/
structure IsReadAs (content : Bytes) (chunks : List Bytes) : Prop where
  flatten : chunks.flatten = content
  nonempty : ∀ chunk ∈ chunks, chunk ≠ []
  short : ∀ chunk ∈ chunks, chunk.length ≤ auditScanChunkBytes

theorem length_le_of_isReadAs {content : Bytes} {chunks : List Bytes}
    (h : IsReadAs content chunks) : chunks.length ≤ content.length := by
  rw [← h.flatten]
  have hnonempty := h.nonempty
  clear h
  induction chunks with
  | nil => simp
  | cons chunk chunks ih =>
      have hpos := List.length_pos_of_ne_nil (hnonempty chunk (by simp))
      have hrest := ih fun chunk hmem => hnonempty chunk (by simp [hmem])
      simp only [List.flatten_cons, List.length_append, List.length_cons]
      omega

section Runs

variable {t : Thread} {s s' : RouterState}

theorem ends_invoke {c : StoreCall} {result : Except RouterError c.Value} :
    Program.Ends (RouterState.step t) (invoke c) s result s' ↔
      ∃ choice, s' = { s with store := (s.store.perform choice c).2 } ∧
        result = (s.store.perform choice c).1.mapError RouterError.system := by
  constructor
  · rintro ⟨answer, middle, ⟨choice, hperform, hlock⟩, hdone⟩
    cases answer with
    | ok value =>
        obtain ⟨rfl, rfl⟩ := hdone
        refine ⟨choice, ?_, ?_⟩ <;> rw [hperform]
        · rw [hlock]
        · rfl
    | error errno =>
        obtain ⟨rfl, rfl⟩ := hdone
        refine ⟨choice, ?_, ?_⟩ <;> rw [hperform]
        · rw [hlock]
        · rfl
  · rintro ⟨choice, rfl, rfl⟩
    refine ⟨(s.store.perform choice c).1, { s with store := (s.store.perform choice c).2 },
      ⟨choice, rfl, rfl⟩, ?_⟩
    cases (s.store.perform choice c).1 with
    | ok value => exact ⟨rfl, rfl⟩
    | error errno => exact ⟨rfl, rfl⟩

/-- A call of the store may fail; otherwise the result is the one that is expected. -/
def IsOrFails {α : Type} (expected result : Except RouterError α) : Prop :=
  result = expected ∨ ∃ errno, result = .error (.system errno)

variable {file : StoredFile}

/-- A call that leaves the store as it is, and answers the same whenever it does not fail. -/
theorem ends_reading (c : StoreCall) (answer : c.Value) {result : Except RouterError c.Value}
    (hlocal : c.isLocal = false)
    (hc : ∀ choice, choice.fails = false → s.store.perform choice c = (.ok answer, s.store))
    (h : Program.Ends (RouterState.step t) (invoke c) s result s') :
    s' = s ∧ IsOrFails (.ok answer) result := by
  obtain ⟨choice, rfl, rfl⟩ := ends_invoke.mp h
  cases hfails : choice.fails with
  | true =>
      have hperform : s.store.perform choice c = (.error .inputOutput, s.store) := by
        simp [Store.perform, hfails, hlocal]
      rw [hperform]
      exact ⟨rfl, .inr ⟨_, rfl⟩⟩
  | false =>
      rw [hc choice hfails]
      exact ⟨rfl, .inl rfl⟩

/-- A read answers the next bytes, at least one of them as long as there are any. -/
theorem ends_readChunk {position : Nat} {result : Except RouterError Bytes}
    (hfile : s.store.file (.root .audit) = some file)
    (h : Program.Ends (RouterState.step t) (invoke (.readChunk (.root .audit) position)) s result s') :
    s' = s ∧ ∃ count, 0 < count ∧
      IsOrFails (.ok ((file.bytes.drop position).take count)) result := by
  obtain ⟨choice, rfl, rfl⟩ := ends_invoke.mp h
  cases hfails : choice.fails with
  | true =>
      have hperform : s.store.perform choice (.readChunk (.root .audit) position) =
          (.error .inputOutput, s.store) := by
        simp [Store.perform, hfails, StoreCall.isLocal]
      rw [hperform]
      exact ⟨rfl, 1, by decide, .inr ⟨_, rfl⟩⟩
  | false =>
      have hperform : s.store.perform choice (.readChunk (.root .audit) position) =
          (.ok ((file.bytes.drop position).take (max 1 (min choice.count auditScanChunkBytes))),
            s.store) := by
        simp [Store.perform, hfails, Store.found, hfile]
      rw [hperform]
      exact ⟨rfl, _, by omega, .inl rfl⟩

theorem drop_taken (content : Bytes) (position count : Nat) :
    (content.drop position).drop count =
      content.drop (position + ((content.drop position).take count).length) := by
  rw [List.drop_drop, List.length_take, List.length_drop]
  rcases Nat.le_total count (content.length - position) with h | h
  · rw [Nat.min_eq_left h]
  · rw [Nat.min_eq_right h, List.drop_of_length_le (by omega), List.drop_of_length_le (by omega)]

/-- A call that does not fail, and reads so many bytes. -/
def reading (count : Nat) : StoreChoice where
  fails := false
  count := count
  clock := 0
  instant := ⟨units "1970-01-01T00:00:00.000Z", by decide⟩
  id := []

theorem ends_answered {c : StoreCall} {value : c.Value} (choice : StoreChoice)
    (h : s.store.perform choice c = (.ok value, s.store)) :
    Program.Ends (RouterState.step t) (invoke c) s (.ok value) s :=
  ends_invoke.mpr ⟨choice, by rw [h], by rw [h]; rfl⟩

/-- A first part that answers as expected, or fails. -/
theorem ends_then {α β : Type} {p : RouterProgram α} {next : α → RouterProgram β} {value : α}
    {result : Except RouterError β}
    (hp : ∀ outcome middle, Program.Ends (RouterState.step t) p s outcome middle →
      middle = s ∧ IsOrFails (.ok value) outcome)
    (h : Program.Ends (RouterState.step t) (p >>= next) s result s') :
    (s' = s ∧ ∃ errno, result = .error (.system errno)) ∨
      Program.Ends (RouterState.step t) (next value) s result s' := by
  rcases ends_bind.mp h with ⟨answer, middle, hfirst, hnext⟩ | ⟨error, hfirst, rfl⟩
  · obtain ⟨rfl, hanswer | ⟨errno, hanswer⟩⟩ := hp _ _ hfirst
    · cases hanswer
      exact .inr hnext
    · cases hanswer
  · obtain ⟨rfl, hanswer | ⟨errno, hanswer⟩⟩ := hp _ _ hfirst
    · cases hanswer
    · cases hanswer
      exact .inl ⟨rfl, errno, rfl⟩

theorem ends_pathExists {result : Except RouterError Bool}
    (hfile : s.store.file (.root .audit) = some file)
    (h : Program.Ends (RouterState.step t) (pathExists (.root .audit)) s result s') :
    s' = s ∧ IsOrFails (.ok true) result := by
  obtain ⟨outcome, middle, hlstat, hnext⟩ := ends_handle.mp h
  obtain ⟨choice, rfl, rfl⟩ := ends_invoke.mp hlstat
  cases hfails : choice.fails <;>
    simp only [Store.perform, hfails, StoreCall.isLocal, Store.found, hfile] at hnext
  · obtain ⟨rfl, rfl⟩ := hnext
    exact ⟨rfl, .inl rfl⟩
  · obtain ⟨rfl, rfl⟩ := hnext
    exact ⟨rfl, .inr ⟨_, rfl⟩⟩

theorem ends_regular {result : Except RouterError PUnit}
    (hfile : s.store.file (.root .audit) = some file)
    (h : Program.Ends (RouterState.step t) (assertRegularPathIfPresent (.root .audit)) s result s') :
    s' = s ∧ IsOrFails (.ok ⟨⟩) result := by
  rcases ends_then (fun _ _ => ends_pathExists hfile) h with ⟨rfl, hfails⟩ | ⟨rfl, rfl⟩
  · exact ⟨rfl, .inr hfails⟩
  · exact ⟨rfl, .inl rfl⟩

theorem ends_close {path : StorePath} {result : Except RouterError PUnit}
    (h : Program.Ends (RouterState.step t) (invoke (.close path)) s result s') :
    s' = s ∧ IsOrFails (.ok ⟨⟩) result :=
  ends_reading (.close path) ⟨⟩ rfl (fun choice hfails => by simp [Store.perform, hfails]) h

variable [UrlParser] [NumberText] {wanted : List RouterId}
  {records : List PlatformRouterAuditRecord}

/-- Whatever the reads answer, the scan ends as the parse of what is left. -/
theorem scanRest_ends {bound position : Nat} {carry : Bytes}
    {result : Except RouterError (List PlatformRouterAuditRecord)}
    (hfile : s.store.file (.root .audit) = some file) (hcarry : 10 ∉ carry)
    (hshort : carry.length ≤ maxAuditRecordBytes)
    (h : Program.Ends (RouterState.step t) (scanRest wanted bound position carry records) s result s') :
    s' = s ∧ IsOrFails (parseFrom wanted records carry (file.bytes.drop position)) result := by
  induction bound generalizing position carry records with
  | zero =>
      obtain ⟨answer, _, _⟩ := h
      exact answer.elim
  | succ bound ih =>
      rw [scanRest] at h
      rcases ends_bind.mp h with ⟨chunk, middle, hread, hrest⟩ | ⟨error, hread, rfl⟩
      · obtain ⟨rfl, count, hcount, hchunk | ⟨errno, hchunk⟩⟩ := ends_readChunk hfile hread
        · obtain rfl := Except.ok.inj hchunk
          split at hrest
          · rename_i hend
            have hnil : file.bytes.drop position = [] := by
              simpa [hcount.ne'] using hend
            obtain ⟨rfl, rfl⟩ := hrest
            refine ⟨rfl, .inl ?_⟩
            rw [hnil, parseFrom]
            change _ = finishJournal records carry
            rw [finishJournal, if_neg (by omega)]
          · rename_i hmore
            rw [← List.take_append_drop count (file.bytes.drop position), parseFrom_append]
            rcases ends_bind.mp hrest with ⟨read, state, ⟨hlines, rfl⟩, hnext⟩ |
              ⟨error, ⟨hlines, rfl⟩, rfl⟩
            · rw [hlines]
              change _ ∧ IsOrFails (ite _ _ _) result
              dsimp only at hnext
              split at hnext
              · rename_i hlong
                obtain ⟨rfl, rfl⟩ := hnext
                rw [if_pos hlong]
                exact ⟨rfl, .inl rfl⟩
              · rename_i hfits
                rw [if_neg hfits, drop_taken]
                exact ih (not_mem_of_scanLines hcarry hlines) (by omega) hnext
            · rw [hlines]
              exact ⟨rfl, .inl rfl⟩
        · cases hchunk
      · obtain ⟨rfl, count, hcount, hchunk | ⟨errno, hchunk⟩⟩ := ends_readChunk hfile hread
        · cases hchunk
        · exact ⟨rfl, .inr ⟨errno, by cases hchunk; rfl⟩⟩

/-- Each way to split what is left is a run of the scan. -/
theorem scanRest_reads {chunks : List Bytes} {bound position : Nat} {carry : Bytes}
    (hfile : s.store.file (.root .audit) = some file)
    (hread : IsReadAs (file.bytes.drop position) chunks) (hbound : chunks.length < bound)
    (hcarry : 10 ∉ carry) :
    Program.Ends (RouterState.step t) (scanRest wanted bound position carry records) s
      (scanChunks wanted chunks carry records) s := by
  induction chunks generalizing bound position carry records with
  | nil =>
      obtain ⟨bound, rfl⟩ := Nat.exists_eq_add_of_lt hbound
      rw [scanRest]
      refine ends_bind.mpr (.inl ⟨[], s, ends_answered (reading 1) ?_, rfl, rfl⟩)
      simp [Store.perform, reading, Store.found, hfile, ← hread.flatten]
  | cons chunk chunks ih =>
      obtain ⟨bound, rfl⟩ := Nat.exists_eq_add_of_lt hbound
      have hrounds : chunks.length < (chunk :: chunks).length + bound := by
        rw [List.length_cons]
        omega
      have hne := hread.nonempty chunk (by simp)
      have hshort := hread.short chunk (by simp)
      have hdrop : file.bytes.drop position = chunk ++ chunks.flatten := by
        rw [← hread.flatten, List.flatten_cons]
      have hrest : IsReadAs (file.bytes.drop (position + chunk.length)) chunks := {
        flatten := by rw [← List.drop_drop, hdrop, List.drop_left]
        nonempty := fun chunk hmem => hread.nonempty chunk (by simp [hmem])
        short := fun chunk hmem => hread.short chunk (by simp [hmem])
      }
      rw [scanRest, scanChunks, ← scanLines_eq_scanAvailable hcarry]
      refine ends_bind.mpr (.inl ⟨chunk, s, ends_answered (reading chunk.length) ?_, ?_⟩)
      · have hcount : max 1 (min chunk.length auditScanChunkBytes) = chunk.length := by
          have := List.length_pos_of_ne_nil hne
          omega
        simp [Store.perform, reading, Store.found, hfile, hdrop, hcount]
      · rw [if_neg hne]
        cases hlines : scanLines wanted records carry chunk with
        | error error => exact ⟨rfl, rfl⟩
        | ok read =>
            change Program.Ends _ (ite _ _ _) s (ite _ _ _) s
            split
            · exact ⟨rfl, rfl⟩
            · exact ih hrest hrounds (not_mem_of_scanLines hcarry hlines)

theorem scanAndRepairAuditJournal_reads {chunks : List Bytes}
    (hfile : s.store.file (.root .audit) = some file) (hread : IsReadAs file.bytes chunks) :
    Program.Ends (RouterState.step t) (scanAndRepairAuditJournal wanted) s
      (scanChunks wanted chunks [] []) s := by
  have hexists : Program.Ends (RouterState.step t) (pathExists (.root .audit)) s (.ok true) s := by
    have hlstat : s.store.perform (reading 1) (.lstat (.root .audit)) =
        (.ok file.modifiedAt, s.store) := by
      simp [Store.perform, reading, Store.found, hfile]
    exact ends_handle.mpr ⟨.ok file.modifiedAt, s, ends_answered _ hlstat, rfl, rfl⟩
  refine ends_bind.mpr (.inl ⟨true, s, hexists, ?_⟩)
  refine ends_bind.mpr (.inl ⟨⟨⟩, s, ends_bind.mpr (.inl ⟨true, s, hexists, rfl, rfl⟩), ?_⟩)
  refine ends_bind.mpr (.inl ⟨⟨⟩, s, ends_answered (reading 1) (by
    simp [Store.perform, reading, Store.found, hfile]), ?_⟩)
  refine ends_eventually.mpr ⟨_, s, ?_, .inl ⟨ends_answered (reading 1) (by
    simp [Store.perform, reading]), rfl⟩⟩
  refine ends_bind.mpr (.inl ⟨file.bytes.length, s, ends_answered (reading 1) (by
    simp [Store.perform, reading, Store.found, hfile]), ?_⟩)
  exact scanRest_reads hfile (by simpa using hread)
    (Nat.lt_succ_of_le (length_le_of_isReadAs hread)) (by simp)

/-- The whole scan ends as the parse of the file. -/
theorem scanAndRepairAuditJournal_ends
    {result : Except RouterError (List PlatformRouterAuditRecord)}
    (hfile : s.store.file (.root .audit) = some file)
    (h : Program.Ends (RouterState.step t) (scanAndRepairAuditJournal wanted) s result s') :
    s' = s ∧ IsOrFails (parseJournal wanted file.bytes) result := by
  rcases ends_then (fun _ _ => ends_pathExists hfile) h with ⟨rfl, hfails⟩ | h
  · exact ⟨rfl, .inr hfails⟩
  rcases ends_then (fun _ _ => ends_regular hfile) h with ⟨rfl, hfails⟩ | h
  · exact ⟨rfl, .inr hfails⟩
  have hopen : ∀ outcome middle,
      Program.Ends (RouterState.step t) (invoke (.openRead (.root .audit))) s outcome middle →
        middle = s ∧ IsOrFails (.ok ⟨⟩) outcome := fun outcome middle =>
    ends_reading (.openRead (.root .audit)) ⟨⟩ rfl fun choice hfails => by
      simp [Store.perform, hfails, Store.found, hfile]
  rcases ends_then hopen h with ⟨rfl, hfails⟩ | h
  · exact ⟨rfl, .inr hfails⟩
  obtain ⟨outcome, middle, hscan, hclose⟩ := ends_eventually.mp h
  have hscanned : middle = s ∧ IsOrFails (parseJournal wanted file.bytes) outcome := by
    have hsize : ∀ outcome middle,
        Program.Ends (RouterState.step t) (invoke (.fstat (.root .audit))) s outcome middle →
          middle = s ∧ IsOrFails (.ok file.bytes.length) outcome := fun outcome middle =>
      ends_reading (.fstat (.root .audit)) file.bytes.length rfl fun choice hfails => by
        simp [Store.perform, hfails, Store.found, hfile]
    rcases ends_then hsize hscan with ⟨rfl, hfails⟩ | hrest
    · exact ⟨rfl, .inr hfails⟩
    · rw [parseJournal_eq_parseFrom]
      exact scanRest_ends hfile (by simp) (by simp) hrest
  obtain ⟨rfl, hscanned⟩ := hscanned
  rcases hclose with ⟨hclose, rfl⟩ | ⟨error, hclose, rfl⟩
  · exact ⟨(ends_close hclose).1, hscanned⟩
  · obtain ⟨rfl, hclosed | ⟨errno, hclosed⟩⟩ := ends_close hclose
    · cases hclosed
    · cases hclosed
      exact ⟨rfl, .inr ⟨errno, rfl⟩⟩

/-- However the reads split a journal, its scan is the parse of the whole of it: what it finds
are the records of the complete lines, and a tail is never taken for a line. -/
theorem scanAndRepairAuditJournal_spec (t : Thread) (s : RouterState) (file : StoredFile)
    (wanted : List RouterId) (hfile : s.store.file (.root .audit) = some file) :
    (∀ chunks, IsReadAs file.bytes chunks →
      Program.Ends (RouterState.step t) (scanAndRepairAuditJournal wanted) s
          (scanChunks wanted chunks [] []) s ∧
        scanChunks wanted chunks [] [] = parseJournal wanted file.bytes) ∧
    (∀ result s', Program.Ends (RouterState.step t) (scanAndRepairAuditJournal wanted) s result s' →
      s' = s ∧ IsOrFails (parseJournal wanted file.bytes) result) ∧
    (∀ records, parseJournal wanted file.bytes = .ok records →
      incompleteTail file.bytes = [] ∧ Scanned wanted (completeLines file.bytes) records) ∧
    (incompleteTail file.bytes = [] → AreAuditLines wanted (completeLines file.bytes) →
      ∃ records, parseJournal wanted file.bytes = .ok records) := by
  refine ⟨?_, ?_, ?_, ?_⟩
  · intro chunks hread
    refine ⟨scanAndRepairAuditJournal_reads hfile hread, ?_⟩
    rw [scanChunks_eq_parseFrom (by simp) (by simp), hread.flatten, parseJournal_eq_parseFrom]
  · intro result s' hends
    exact scanAndRepairAuditJournal_ends hfile hends
  · intro records hparse
    exact parseJournal_scanned hparse
  · intro htail hlines
    exact parseJournal_succeeds htail hlines

/-- A parser that knows no text. -/
abbrev noUrls : UrlParser where
  parse _ := none
  isPrivateOrReservedIpLiteral _ := false
  parse_origin _ _ h := by cases h
  parse_base _ _ h := by cases h
  not_blank _ _ h := by cases h

/-- A store with nothing but a journal, and no lock. -/
def journalState (content : Bytes) : RouterState where
  lock := .empty
  store := Store.empty.setFile (.root .audit) ⟨content, 0⟩

omit [UrlParser] [NumberText] in
/-- A line that is not a record is refused, although its two bytes are read apart. -/
theorem scanAndRepairAuditJournal_split :
    @Program.Ends _ _ _ _ _ (RouterState.step ⟨⟨0⟩, 0⟩)
      (@scanAndRepairAuditJournal noUrls plainNumbers []) (journalState [91, 93, 10])
      (.error (.corruption "AI 配置审计包含完整的无效记录")) (journalState [91, 93, 10]) := by
  have hfile : (journalState [91, 93, 10]).store.file (.root .audit) = some ⟨[91, 93, 10], 0⟩ := by
    simp [journalState]
  have hread : IsReadAs [91, 93, 10] [[91], [93, 10]] :=
    ⟨rfl, by decide, by decide⟩
  obtain ⟨hruns, _⟩ := @scanAndRepairAuditJournal_spec noUrls plainNumbers ⟨⟨0⟩, 0⟩
    (journalState [91, 93, 10]) ⟨[91, 93, 10], 0⟩ [] hfile
  obtain ⟨hends, hparse⟩ := hruns _ hread
  rw [hparse] at hends
  have herror : @parseJournal noUrls plainNumbers [] [91, 93, 10] =
      .error (.corruption "AI 配置审计包含完整的无效记录") := by
    have hline : @decodeAuditLine noUrls plainNumbers [91, 93] = none := by decide +kernel
    change (@decodeAuditJournalLine noUrls plainNumbers [] [] [91, 93] >>= _) = _
    simp [decodeAuditJournalLine, hline, maxAuditRecordBytes, bind, Except.bind]
  rwa [herror] at hends

end Runs

end MatchPlane.Router.Transaction
