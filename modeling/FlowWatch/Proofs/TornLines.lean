import Mathlib
import FlowWatch.Proofs.Tailing

/-!
# Polling a line that is being written

Whoever writes a capture may be interrupted at any byte, so that a poll finds complete lines and
after them the first bytes of another one.  Whatever bytes earlier polls have found, the tail stands
where a line begins (`Watch.Aligned`): a reading ends there even if it fails
(`LineStart.readLinesFrom`).  A poll therefore sees exactly the complete lines that have not been
consumed yet, and consumes them (`Tail.poll_of_lineStart`).

What it answers depends on the torn line, since bytes are decoded before it is known whether they
are a complete line (`Watch.poll_of_torn_line`).  A line that is torn between two characters is left
for a later poll.  One that is torn inside of a character fails the poll, and the complete lines
before it are lost, as the next poll goes on after them.
-/

namespace FlowWatch.Capture

/-- Texts of the same bytes are the same. -/
lemma utf8Encode_inj {first second : List Char} (h : first.utf8Encode = second.utf8Encode) :
    first = second := by
  have hread := fromUTF8?_utf8Encode first
  rw [h, fromUTF8?_utf8Encode second] at hread
  exact (String.ofList_injective (Option.some.inj hread)).symm

/-- Bytes that are read as text are the bytes of that text. -/
lemma toByteArray_of_fromUTF8? {bytes : ByteArray} {text : String}
    (h : String.fromUTF8? bytes = some text) : text.toByteArray = bytes := by
  rw [String.fromUTF8?] at h
  split at h
  · cases h
    rfl
  · cases h

/-- Before a position there are as many bytes as it says. -/
lemma size_extract_zero {bytes : ByteArray} {position : Nat} (h : position ≤ bytes.size) :
    (bytes.extract 0 position).size = position := by
  rw [ByteArray.size_extract, Nat.min_eq_left h, Nat.sub_zero]

/-- Bytes begin with one line only. -/
lemma line_eq_of_append_eq {line line' : List Char} {more more' : ByteArray} (hline : '\n' ∉ line)
    (hline' : '\n' ∉ line')
    (h : (line ++ ['\n']).utf8Encode ++ more = (line' ++ ['\n']).utf8Encode ++ more') :
    line = line' ∧ more = more' := by
  have hend := lineEnd_line .empty hline more
  have hend' := lineEnd_line .empty hline' more'
  simp only [ByteArray.empty_append] at hend hend'
  rw [h, hend'] at hend
  have hbytes := ByteArray.append_inj_left h (Option.some.inj hend).symm
  rw [hbytes, ByteArray.append_right_inj] at h
  exact ⟨List.append_cancel_right (utf8Encode_inj hbytes), h⟩

/-- Lines with which bytes begin are the first ones of their complete lines. -/
lemma exists_fresh_of_append_eq {consumed complete : List (List Char)} {more torn : ByteArray}
    (hconsumed : ∀ line ∈ consumed, '\n' ∉ line) (hcomplete : ∀ line ∈ complete, '\n' ∉ line)
    (htorn : 10 ∉ torn.data)
    (h : (terminated consumed).utf8Encode ++ more = (terminated complete).utf8Encode ++ torn) :
    ∃ fresh, complete = consumed ++ fresh ∧ more = (terminated fresh).utf8Encode ++ torn := by
  induction consumed generalizing complete with
  | nil => exact ⟨complete, rfl, by simpa using h⟩
  | cons line consumed ih =>
    obtain ⟨hline, hconsumed⟩ := List.forall_mem_cons.mp hconsumed
    cases complete with
    | nil =>
      have hnewline : 10 ∈ ['\n'].utf8Encode.data := by decide +kernel
      rw [terminated_nil, List.utf8Encode_nil, ByteArray.empty_append] at h
      rw [← h, utf8Encode_terminated_cons] at htorn
      simp only [List.utf8Encode_append, ByteArray.data_append, Array.mem_append] at htorn
      tauto
    | cons line' complete =>
      obtain ⟨hline', hrest⟩ := List.forall_mem_cons.mp hcomplete
      rw [utf8Encode_terminated_cons, utf8Encode_terminated_cons, ByteArray.append_assoc,
        ByteArray.append_assoc] at h
      obtain ⟨rfl, hafter⟩ := line_eq_of_append_eq hline hline' h
      obtain ⟨fresh, rfl, hmore⟩ := ih hconsumed hrest hafter
      exact ⟨fresh, rfl, hmore⟩

/-! ## Where readings end -/

/-- The position is after one of the lines with which the bytes begin, or at their start. -/
def LineStart (bytes : ByteArray) (position : Nat) : Prop :=
  ∃ lines more, bytes = (terminated lines).utf8Encode ++ more ∧
    (∀ line ∈ lines, '\n' ∉ line) ∧ position = (terminated lines).utf8Encode.size

lemma lineStart_zero (bytes : ByteArray) : LineStart bytes 0 := ⟨[], bytes, by simp, by simp, rfl⟩

/-- Bytes that are appended move no line. -/
lemma LineStart.append {bytes : ByteArray} {position : Nat} (h : LineStart bytes position)
    (more : ByteArray) : LineStart (bytes ++ more) position := by
  obtain ⟨lines, rest, rfl, hlines, hposition⟩ := h
  exact ⟨lines, rest ++ more, ByteArray.append_assoc, hlines, hposition⟩

/-- The byte before the end of a line is a newline. -/
lemma newline_of_lineEnd {bytes : ByteArray} {position stop : Nat}
    (h : Tail.lineEnd bytes position = some stop) :
    ∃ hlt : stop - 1 < bytes.size, bytes[stop - 1] = 10 := by
  fun_induction Tail.lineEnd bytes position with
  | case1 position hlt hnewline =>
    cases h
    exact ⟨hlt, hnewline⟩
  | case2 position hlt hother ih => exact ih h
  | case3 position hge => cases h

/-- Text that ends with a newline consists of lines with their newlines. -/
lemma exists_terminated_of_newline {text : List Char} (hpos : 0 < text.utf8Encode.size)
    (h : text.utf8Encode[text.utf8Encode.size - 1] = 10) :
    ∃ lines, text = terminated lines ∧ ∀ line ∈ lines, '\n' ∉ line := by
  obtain ⟨lines, rest, rfl, hlines, hrest⟩ := exists_terminated text
  cases rest with
  | nil => exact ⟨lines, List.append_nil _, hlines⟩
  | cons c rest =>
    -- the last byte would be one of the rest
    have hsize : 0 < (c :: rest).utf8Encode.size := by
      rw [Nat.pos_iff_ne_zero, ne_eq, ByteArray.size_eq_zero_iff, List.utf8Encode_eq_empty]
      exact List.cons_ne_nil c rest
    refine absurd ?_ (newline_notMem_utf8Encode hrest)
    simp only [List.utf8Encode_append, ByteArray.size_append] at h
    rw [ByteArray.getElem_append_right (by omega)] at h
    rw [← h]
    exact Array.getElem_mem _

/-- The bytes up to the end of a line are lines with their newlines, if they are text. -/
lemma exists_terminated_of_lineEnd {bytes : ByteArray} {position stop : Nat} {line : String}
    (hstop : Tail.lineEnd bytes position = some stop)
    (hline : String.fromUTF8? (bytes.extract position stop) = some line) :
    ∃ next, bytes.extract position stop = (terminated next).utf8Encode ∧
      ∀ line ∈ next, '\n' ∉ line := by
  obtain ⟨hlt, hle⟩ := Tail.lineEnd_gt hstop
  obtain ⟨hlast, hnewline⟩ := newline_of_lineEnd hstop
  have hread : line.toList.utf8Encode = bytes.extract position stop := by
    rw [String.utf8Encode_toList, toByteArray_of_fromUTF8? hline]
  have hsize : line.toList.utf8Encode.size = stop - position := by
    rw [hread, ByteArray.size_extract, Nat.min_eq_left hle]
  have hend : line.toList.utf8Encode[line.toList.utf8Encode.size - 1] = 10 := by
    simp only [hread, ByteArray.getElem_extract]
    simp only [← hread, hsize, ← hnewline]
    congr 1
    omega
  obtain ⟨next, hnext, hfree⟩ := exists_terminated_of_newline (by omega) hend
  exact ⟨next, hnext ▸ hread.symm, hfree⟩

/-- After a line of text another line begins. -/
lemma LineStart.lineEnd {bytes : ByteArray} {position stop : Nat} {line : String}
    (h : LineStart bytes position) (hstop : Tail.lineEnd bytes position = some stop)
    (hline : String.fromUTF8? (bytes.extract position stop) = some line) :
    LineStart bytes stop := by
  obtain ⟨hlt, hle⟩ := Tail.lineEnd_gt hstop
  obtain ⟨next, hnext, hfree⟩ := exists_terminated_of_lineEnd hstop hline
  obtain ⟨lines, more, hbytes, hlines, hposition⟩ := h
  have hbefore : bytes.extract 0 position = (terminated lines).utf8Encode := by
    rw [hbytes, ByteArray.extract_append_eq_left hposition]
  have hupto : bytes.extract 0 stop = (terminated (lines ++ next)).utf8Encode := by
    rw [terminated_append, List.utf8Encode_append, ← hbefore, ← hnext,
      ByteArray.extract_append_extract, Nat.zero_min, Nat.max_eq_right hlt.le]
  refine ⟨lines ++ next, bytes.extract stop bytes.size, ?_, ?_, ?_⟩
  · rw [← hupto, ByteArray.extract_append_extract, Nat.zero_min, Nat.max_eq_right hle,
      ByteArray.extract_zero_size]
  · exact fun line hmem => (List.mem_append.mp hmem).elim (hlines line) (hfree line)
  · rw [← hupto, size_extract_zero hle]

/-- A reading ends where a line begins, be it with a failure or not. -/
lemma LineStart.readLinesFrom {bytes : ByteArray} {position : Nat} (h : LineStart bytes position) :
    LineStart bytes (Tail.readLinesFrom bytes position).2.1 := by
  fun_induction Tail.readLinesFrom bytes position with
  | case1 position stop hstop line hline hgt lines last failure hrest ih =>
    have hlast := ih (h.lineEnd hstop hline)
    rwa [hrest] at hlast
  | case2 position stop hstop hnone => exact h
  | case3 position hstop line hline => exact h
  | case4 position hstop hnone => exact h

/-! ## One poll -/

/-- The number of a line does not matter to its message. -/
lemma parseLine_toOption (raw : List Char) (n k : Nat) :
    (parseLine raw n).toOption = (parseLine raw k).toOption := by
  simp only [parseLine]
  split
  · rfl
  · split
    · rfl
    · split <;> rfl

/-- Lines say what each of them says, whatever their numbers. -/
lemma messages_parseLines (lines : List String) (first : Nat) :
    (parseLines lines first).1 =
      lines.filterMap fun raw => (parseLine raw.toList 1).toOption.join := by
  induction lines generalizing first with
  | nil => rfl
  | cons raw lines ih =>
    rw [parseLines, List.filterMap_cons, parseLine_toOption raw.toList 1 first, ← ih (first + 1)]
    cases parseLine raw.toList first with
    | error e => rfl
    | ok message => cases message <;> rfl

namespace Tail

variable {t : Tail} {bytes : ByteArray} {lines : List String} {last : Nat}
  {failure : Option IoError}

/-- A poll of a file that is not shorter than what has been consumed of it. -/
lemma poll_of_reading (hfollow : t.follow = true) (hsize : t.position ≤ bytes.size)
    (hread : readLinesFrom bytes t.position = (lines, last, failure)) :
    (t.poll (.file bytes)).value.1.follow = true ∧
      (t.poll (.file bytes)).value.1.position = last ∧
      (t.poll (.file bytes)).value.2 = failure.elim (.ok (parseLines lines 1).1) .error := by
  cases failure with
  | none =>
    rw [(poll_of_read hfollow hsize hread).1, messages_parseLines, messages_parseLines]
    exact ⟨hfollow, rfl, rfl⟩
  | some failure =>
    rw [poll_of_failure hfollow hsize hread]
    exact ⟨hfollow, rfl, rfl⟩

/-- Where a poll begins to read: after what has been consumed, unless the file is shorter than that.
-/
def resumption (t : Tail) (bytes : ByteArray) : Nat :=
  if bytes.size < t.position then 0 else t.position

/-- A poll reads on from there.  It consumes the lines it finds, and answers with their messages or
with the failure that has ended the reading. -/
lemma poll_of_resumption (hfollow : t.follow = true)
    (hread : readLinesFrom bytes (t.resumption bytes) = (lines, last, failure)) :
    (t.poll (.file bytes)).value.1.follow = true ∧
      (t.poll (.file bytes)).value.1.position = last ∧
      (t.poll (.file bytes)).value.2 = failure.elim (.ok (parseLines lines 1).1) .error := by
  by_cases hshorter : bytes.size < t.position
  · rw [resumption, if_pos hshorter] at hread
    let restarted : Tail := { t with position := 0, linesRead := 0 }
    rw [(poll_of_shorter hfollow hshorter).1]
    exact poll_of_reading (t := restarted) hfollow (Nat.zero_le _) hread
  · rw [resumption, if_neg hshorter] at hread
    exact poll_of_reading hfollow (Nat.not_lt.mp hshorter) hread

/-- A poll leaves the tail where a line begins, if it has begun to read there. -/
lemma lineStart_poll (hfollow : t.follow = true) (h : LineStart bytes (t.resumption bytes)) :
    LineStart bytes (t.poll (.file bytes)).value.1.position := by
  rw [(poll_of_resumption hfollow rfl).2.1]
  exact h.readLinesFrom

/-- A poll that begins to read where a line begins consumes the complete lines after it.  It answers
with their messages if the bytes after the last of them are text, and else it fails. -/
lemma poll_of_lineStart {complete : List (List Char)} {torn : ByteArray} (hfollow : t.follow = true)
    (h : LineStart ((terminated complete).utf8Encode ++ torn)
      (t.resumption ((terminated complete).utf8Encode ++ torn)))
    (hcomplete : ∀ line ∈ complete, '\n' ∉ line) (htorn : 10 ∉ torn.data) :
    ∃ consumed fresh, complete = consumed ++ fresh ∧
      t.resumption ((terminated complete).utf8Encode ++ torn) =
        (terminated consumed).utf8Encode.size ∧
      let polled := (t.poll (.file ((terminated complete).utf8Encode ++ torn))).value
      polled.1.follow = true ∧ polled.1.position = (terminated complete).utf8Encode.size ∧
      polled.2 = if torn.IsValidUTF8 then .ok (parseLines (fresh.map stripped) 1).1
        else .error .invalidUtf8 := by
  obtain ⟨consumed, more, hbytes, hconsumed, hposition⟩ := h
  obtain ⟨fresh, rfl, rfl⟩ := exists_fresh_of_append_eq hconsumed hcomplete htorn hbytes.symm
  have hfresh : ∀ line ∈ fresh, '\n' ∉ line := fun line hline =>
    hcomplete line (List.mem_append_right _ hline)
  have hread := readLinesFrom_cut (terminated consumed).utf8Encode hfresh htorn
  rw [← hbytes, ← hposition] at hread
  obtain ⟨hstill, hlast, hanswer⟩ := poll_of_resumption hfollow hread
  refine ⟨consumed, fresh, rfl, hposition, hstill, ?_, ?_⟩
  · rw [hlast, hposition, terminated_append, List.utf8Encode_append, ByteArray.size_append]
  · rw [hanswer, unfinished]
    split <;> rfl

end Tail

namespace Watch

variable {path : String} {w : Watch}

/-- Contents that have taken the place of others are found to be shorter than what had been consumed
of them by every poll that comes upon them. -/
def Noticed (w : Watch) : List Happening → Prop
  | [] => True
  | happening :: history =>
    (happening = .poll → w.replaced = true → w.contents.size < w.tail.position) ∧
      (w.step happening).Noticed history

instance decidableNoticed : ∀ (w : Watch) (history : List Happening), Decidable (w.Noticed history)
  | _, [] => .isTrue trivial
  | w, happening :: history =>
    have := decidableNoticed (w.step happening) history
    inferInstanceAs (Decidable ((_ → _ → _) ∧ _))

lemma noticed_append {before after : List Happening} :
    w.Noticed (before ++ after) ↔ w.Noticed before ∧ (w.run before).Noticed after := by
  induction before generalizing w with
  | nil => simp [Noticed, run]
  | cons happening before ih => simp only [List.cons_append, Noticed, ih, and_assoc]; rfl

/-- The tail follows the file, and unless the contents have been replaced since the last poll, it is
where a line begins. -/
structure Aligned (w : Watch) : Prop where
  follow : w.tail.follow = true
  lineStart : w.replaced = true ∨ LineStart w.contents w.tail.position

/-- A file is aligned as soon as it is opened. -/
lemma aligned_start {tail : Tail} {contents : ByteArray}
    (h : Tail.start? path true (.file contents) = some tail) : (start tail contents).Aligned := by
  cases h
  exact ⟨rfl, .inr (lineStart_zero contents)⟩

/-- The next poll begins to read where a line begins. -/
lemma Aligned.resumption (h : w.Aligned)
    (hnoticed : w.replaced = true → w.contents.size < w.tail.position) :
    LineStart w.contents (w.tail.resumption w.contents) := by
  rw [Tail.resumption]
  split
  · exact lineStart_zero _
  · exact h.lineStart.resolve_left fun hreplaced => absurd (hnoticed hreplaced) ‹_›

/-- Every happening leaves the file aligned. -/
lemma Aligned.step (h : w.Aligned) {happening : Happening}
    (hnoticed : happening = .poll → w.replaced = true → w.contents.size < w.tail.position) :
    (w.step happening).Aligned := by
  cases happening with
  | append more => exact ⟨h.follow, h.lineStart.imp_right fun hstart => hstart.append more⟩
  | replace contents => exact ⟨h.follow, .inl rfl⟩
  | poll =>
    have hresumption := h.resumption (hnoticed rfl)
    exact ⟨(Tail.poll_of_resumption h.follow rfl).1, .inr (Tail.lineStart_poll h.follow hresumption)⟩

/-- A file stays aligned. -/
lemma Aligned.run (h : w.Aligned) {history : List Happening} (hnoticed : w.Noticed history) :
    (w.run history).Aligned := by
  induction history generalizing w with
  | nil => exact h
  | cons happening history ih =>
    obtain ⟨hfirst, hrest⟩ := hnoticed
    exact ih (h.step hfirst) hrest

/-- **Torn lines.**  A file is opened and followed, any bytes are appended to it, other contents take
its place and are found to be shorter, and it is polled, in any order.  Now it consists of complete
lines and of the first bytes of one more line, cut anywhere.  The next poll consumes exactly the
complete lines that had not been consumed.  It answers with their messages if the cut falls between
two characters, and otherwise it fails.  Once the rest of the torn line and its newline have been
appended, the poll after it delivers this line alone. -/
theorem poll_of_torn_line {contents : ByteArray} {tail : Tail} {history : List Happening}
    {complete : List (List Char)} {line : List Char} {torn rest : ByteArray}
    (hstart : Tail.start? path true (.file contents) = some tail)
    (hnoticed : (start tail contents).Noticed (history ++ [.poll]))
    (hcontents : ((start tail contents).run history).contents =
      (terminated complete).utf8Encode ++ torn)
    (hcomplete : ∀ line ∈ complete, '\n' ∉ line) (hline : '\n' ∉ line)
    (htorn : torn ++ rest = line.utf8Encode) :
    let w := (start tail contents).run history
    ∃ consumed fresh, complete = consumed ++ fresh ∧
      w.tail.resumption w.contents = (terminated consumed).utf8Encode.size ∧
      let polled := (w.tail.poll (.file w.contents)).value
      polled.2 = (if torn.IsValidUTF8 then .ok (parseLines (fresh.map stripped) 1).1
        else .error .invalidUtf8) ∧
      polled.1.position = (terminated complete).utf8Encode.size ∧
      (polled.1.poll (.file (w.contents ++ (rest ++ ['\n'].utf8Encode)))).value.2 =
        .ok (parseLines [stripped line] 1).1 := by
  intro w
  obtain ⟨hbefore, hpoll, -⟩ := noticed_append.mp hnoticed
  have haligned : w.Aligned := (aligned_start hstart).run hbefore
  have hresumption := haligned.resumption (hpoll rfl)
  have hfree : 10 ∉ torn.data := by
    have hnone := newline_notMem_utf8Encode hline
    rw [← htorn, ByteArray.data_append, Array.mem_append, not_or] at hnone
    exact hnone.1
  have hw : w.contents = (terminated complete).utf8Encode ++ torn := hcontents
  rw [hw] at hresumption ⊢
  obtain ⟨consumed, fresh, hsplit, hposition, hfollow, hlast, hanswer⟩ :=
    Tail.poll_of_lineStart haligned.follow hresumption hcomplete hfree
  refine ⟨consumed, fresh, hsplit, hposition, hanswer, hlast, ?_⟩
  have hgrown : (terminated complete).utf8Encode ++ torn ++ (rest ++ ['\n'].utf8Encode) =
      (terminated complete).utf8Encode ++ ((terminated [line]).utf8Encode ++ .empty) := by
    rw [terminated_cons, terminated_nil, List.append_nil, List.utf8Encode_append, ← htorn]
    simp only [ByteArray.append_assoc, ByteArray.append_empty]
  have hnothing : unfinished .empty = none := by
    rw [unfinished, if_pos]
    exact ⟨[], rfl⟩
  have hread := readLinesFrom_cut (terminated complete).utf8Encode
    (List.forall_mem_singleton.mpr hline) (show 10 ∉ ByteArray.empty.data by simp)
  rw [← hlast, ← hgrown, hnothing] at hread
  have hsize : (w.tail.poll (.file ((terminated complete).utf8Encode ++ torn))).value.1.position ≤
      ((terminated complete).utf8Encode ++ torn ++ (rest ++ ['\n'].utf8Encode)).size := by
    rw [hlast, ByteArray.append_assoc, ByteArray.size_append]
    exact Nat.le_add_right _ _
  exact (Tail.poll_of_reading hfollow hsize hread).2.2

/-- The second line of a file is torn between two characters after a poll has consumed the first
one, and a third line is complete already. -/
theorem poll_of_torn_line_after_poll :
    let first := "\x7b\"cmd\":\"remove\",\"id\":\"a\"\x7d"
    let second := "\x7b\"cmd\":\"remove\",\"id\":\"é\"\x7d"
    let torn := "\x7b\"cmd\":\"remove\",\"id\":\"ü"
    let rest := "\"\x7d"
    let contents := (first ++ "\n").toUTF8
    let tail : Tail := ⟨"capture.jsonl", true, 0, 0, false⟩
    let w := (start tail contents).run [.poll, .append (second ++ "\n" ++ torn).toUTF8]
    let polled := (w.tail.poll (.file w.contents)).value
    Tail.start? "capture.jsonl" true (.file contents) = some tail ∧
      (start tail contents).Noticed [.poll, .append (second ++ "\n" ++ torn).toUTF8, .poll] ∧
      w.contents = (terminated [first.toList, second.toList]).utf8Encode ++ torn.toUTF8 ∧
      (∀ line ∈ [first.toList, second.toList], '\n' ∉ line) ∧
      '\n' ∉ (torn ++ rest).toList ∧
      torn.toUTF8 ++ rest.toUTF8 = (torn ++ rest).toList.utf8Encode ∧
      polled.2 = .ok [.remove ⟨"é", by decide⟩] ∧
      (polled.1.poll (.file (w.contents ++ (rest.toUTF8 ++ ['\n'].utf8Encode)))).value.2 =
        .ok [.remove ⟨"ü", by decide⟩] := by
  intro first second torn rest contents tail w polled
  have hstart : Tail.start? "capture.jsonl" true (.file contents) = some tail := rfl
  have hnoticed : (start tail contents).Noticed
      [.poll, .append (second ++ "\n" ++ torn).toUTF8, .poll] := by decide +kernel
  have hcontents : w.contents =
      (terminated [first.toList, second.toList]).utf8Encode ++ torn.toUTF8 := by decide +kernel
  have hcomplete : ∀ line ∈ [first.toList, second.toList], '\n' ∉ line := by decide +kernel
  have hline : '\n' ∉ (torn ++ rest).toList := by decide +kernel
  have htorn : torn.toUTF8 ++ rest.toUTF8 = (torn ++ rest).toList.utf8Encode := by decide +kernel
  obtain ⟨consumed, fresh, hsplit, hposition, hanswer, -, hlater⟩ :=
    poll_of_torn_line hstart hnoticed hcontents hcomplete hline htorn
  have hconsumed : w.tail.resumption w.contents = (terminated [first.toList]).utf8Encode.size := by
    decide +kernel
  have hfresh : fresh = [second.toList] := by
    rw [hconsumed] at hposition
    obtain - | ⟨line, - | ⟨line', consumed⟩⟩ := consumed
    · exact absurd hposition (by decide +kernel)
    · exact (List.cons.inj hsplit).2.symm
    · obtain ⟨rfl, hafter⟩ := List.cons.inj hsplit
      obtain ⟨rfl, hnone⟩ := List.cons.inj hafter
      obtain ⟨rfl, -⟩ := List.append_eq_nil_iff.mp hnone.symm
      exact absurd hposition (by decide +kernel)
  rw [hfresh] at hanswer
  exact ⟨hstart, hnoticed, hcontents, hcomplete, hline, htorn, hanswer.trans (by decide +kernel),
    hlater.trans (by decide +kernel)⟩

/-- A line that is torn inside of a character fails the poll, and the complete line before it, which
says that a flow is removed, is never delivered: the next poll answers with the torn line alone. -/
theorem line_torn_inside_character :
    let first := "\x7b\"cmd\":\"remove\",\"id\":\"a\"\x7d\n".toUTF8
    let second := "\x7b\"cmd\":\"remove\",\"id\":\"é\"\x7d\n".toUTF8
    let contents := first ++ second.extract 0 23
    let tail : Tail := ⟨"capture.jsonl", true, 0, 0, false⟩
    let history : List Happening := [.poll, .append (second.extract 23 second.size), .poll]
    let w := (start tail contents).run history
    Tail.start? "capture.jsonl" true (.file contents) = some tail ∧
      w.contents = first ++ second ∧
      w.replies.map Logged.value = [.error .invalidUtf8, .ok [.remove ⟨"é", by decide⟩]] := by
  intro first second contents tail history w
  exact ⟨rfl, by decide +kernel, by decide +kernel⟩

end Watch

end FlowWatch.Capture
