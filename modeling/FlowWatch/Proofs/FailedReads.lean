import Mathlib
import FlowWatch.Proofs.TornLines

/-!
# Reads that fail

A reading ends with a failure at the first line that is no text.  By then it has passed over the
lines before that one (`Passed`): the tail has moved behind them, but they are not handed over, and
neither are they counted.

A read that fails therefore leaves the tail as it was only if there is nothing at the path, or a
directory that is long enough to be taken for the file, or if the very first line to be read on from
the position is the one that is no text (`Tail.FailsAtOnce`).  In all other cases the lines before the failure are lost: once the failing
line has been repaired, the next poll goes on with it, and refuses lines under numbers that are too
small by as many as have been passed over (`Tail.failed_read_passes_lines`).
-/

namespace FlowWatch.Capture

variable {bytes : ByteArray} {position stop last : Nat} {skipped more : List (List Char)}

/-- The line that begins at a position; without a newline it goes on to the end of the bytes. -/
def lineAt (bytes : ByteArray) (position : Nat) : ByteArray :=
  bytes.extract position ((Tail.lineEnd bytes position).getD bytes.size)

/-- The bytes from one position to another one are lines with their newlines. -/
structure Passed (bytes : ByteArray) (position last : Nat) (skipped : List (List Char)) : Prop where
  le : position ≤ last
  le_size : last ≤ bytes.size
  newline_notMem : ∀ line ∈ skipped, '\n' ∉ line
  extract_eq : bytes.extract position last = (terminated skipped).utf8Encode

lemma passed_refl (h : position ≤ bytes.size) : Passed bytes position position [] :=
  ⟨le_rfl, h, by simp, by simp⟩

lemma Passed.trans (hfirst : Passed bytes position stop skipped)
    (hsecond : Passed bytes stop last more) : Passed bytes position last (skipped ++ more) := by
  refine ⟨hfirst.le.trans hsecond.le, hsecond.le_size, ?_, ?_⟩
  · exact fun line hmem =>
      (List.mem_append.mp hmem).elim (hfirst.newline_notMem line) (hsecond.newline_notMem line)
  · rw [terminated_append, List.utf8Encode_append, ← hfirst.extract_eq, ← hsecond.extract_eq,
      ByteArray.extract_append_extract, Nat.min_eq_left hfirst.le, Nat.max_eq_right hsecond.le]

/-- A line of text is passed over up to its end. -/
lemma exists_passed_of_lineEnd {line : String} (hstop : Tail.lineEnd bytes position = some stop)
    (hline : String.fromUTF8? (bytes.extract position stop) = some line) :
    ∃ next, Passed bytes position stop next := by
  obtain ⟨hlt, hle⟩ := Tail.lineEnd_gt hstop
  obtain ⟨next, hnext, hfree⟩ := exists_terminated_of_lineEnd hstop hline
  exact ⟨next, hlt.le, hle, hfree, hnext⟩

/-! ## One reading -/

lemma fromUTF8?_eq_none_iff : String.fromUTF8? bytes = none ↔ ¬ bytes.IsValidUTF8 := by
  rw [String.fromUTF8?]
  split <;> simp_all

/-- A reading that begins with a line that is no text fails where it is. -/
lemma readLinesFrom_of_not_isValidUTF8 (h : ¬ (lineAt bytes position).IsValidUTF8) :
    Tail.readLinesFrom bytes position = ([], position, some .invalidUtf8) := by
  rw [lineAt, ← fromUTF8?_eq_none_iff] at h
  rw [Tail.readLinesFrom]
  split
  · rename_i stop hstop
    rw [hstop, Option.getD_some] at h
    simp only [h]
  · rename_i hnone
    rw [hnone, Option.getD_none] at h
    simp only [h]

/-- A reading that fails has come to a line that is no text, and has passed over the lines before
it. -/
lemma exists_passed_of_failure {failure : IoError} (hsize : position ≤ bytes.size)
    (h : (Tail.readLinesFrom bytes position).2.2 = some failure) :
    failure = .invalidUtf8 ∧
      ¬ (lineAt bytes (Tail.readLinesFrom bytes position).2.1).IsValidUTF8 ∧
      ∃ skipped, Passed bytes position (Tail.readLinesFrom bytes position).2.1 skipped := by
  fun_induction Tail.readLinesFrom bytes position with
  | case1 position stop hstop line hline hgt lines last failure' hrest ih =>
    obtain ⟨next, hnext⟩ := exists_passed_of_lineEnd hstop hline
    rw [hrest] at ih
    obtain ⟨hfailure, hlast, skipped, hskipped⟩ := ih hnext.le_size h
    exact ⟨hfailure, hlast, next ++ skipped, hnext.trans hskipped⟩
  | case2 position stop hstop hnone =>
    refine ⟨(Option.some.inj h).symm, ?_, [], passed_refl hsize⟩
    rw [← fromUTF8?_eq_none_iff, lineAt, hstop]
    exact hnone
  | case3 position hstop line hline => cases h
  | case4 position hstop hnone =>
    refine ⟨(Option.some.inj h).symm, ?_, [], passed_refl hsize⟩
    rw [← fromUTF8?_eq_none_iff, lineAt, hstop]
    exact hnone

namespace Tail

variable {t after : Tail} {file : FileState} {failure : IoError}

/-- There is nothing at the path, or what is there is not shorter than what has been consumed, and it
is a directory or a file whose first line after that is no text. -/
def FailsAtOnce (t : Tail) : FileState → Prop
  | .missing => True
  | .directory length => t.position ≤ length
  | .file bytes => t.position ≤ bytes.size ∧ ¬ (lineAt bytes t.position).IsValidUTF8

/-- A poll fails only if its read does, and then it does nothing else. -/
lemma readNewLines_of_poll_failure (h : (t.poll file).value = (after, .error failure)) :
    (t.readNewLines file).value = (after, .error failure) := by
  rw [poll] at h
  split at h
  · cases h
  · rw [Logged.value_bind] at h
    generalize (t.readNewLines file).value = read at h ⊢
    obtain ⟨moved, failure' | lines⟩ := read
    · cases h
      rfl
    · cases h

/-- A read resumes inside of the file. -/
lemma resumption_le (t : Tail) (bytes : ByteArray) : t.resumption bytes ≤ bytes.size := by
  rw [resumption]
  split <;> omega

/-- A read begins where it resumes, and moves the tail to where the reading ends. -/
lemma readNewLines_file (t : Tail) (bytes : ByteArray) :
    (t.readNewLines (.file bytes)).value =
      let read := readLinesFrom bytes (t.resumption bytes)
      ({ t with
          position := read.2.1
          linesRead := if bytes.size < t.position then 0 else t.linesRead },
        read.2.2.elim (.ok read.1) .error) := by
  rw [readNewLines, Logged.value_bind, value_rewind, resumption]
  by_cases hshorter : bytes.size < t.position
  · simp only [hshorter, if_true]
    cases (readLinesFrom bytes 0).2.2 with
    | none => rfl
    | some failure => rfl
  · simp only [hshorter, if_false]
    cases (readLinesFrom bytes t.position).2.2 with
    | none => rfl
    | some failure => rfl

/-- A read of a directory fails, after the tail has been rewound if need be. -/
lemma readNewLines_directory (t : Tail) (length : Nat) :
    (t.readNewLines (.directory length)).value =
      (if length < t.position then { t with position := 0, linesRead := 0 } else t,
        .error .isDirectory) := by
  rw [readNewLines, Logged.value_bind, value_rewind]
  rfl

/-- A read of a file that fails has moved the tail to where the reading has failed. -/
lemma readNewLines_file_failure
    (h : (t.readNewLines (.file bytes)).value = (after, .error failure)) :
    (readLinesFrom bytes (t.resumption bytes)).2.2 = some failure ∧
      after = { t with
        position := (readLinesFrom bytes (t.resumption bytes)).2.1
        linesRead := if bytes.size < t.position then 0 else t.linesRead } := by
  rw [readNewLines_file] at h
  cases hfailure : (readLinesFrom bytes (t.resumption bytes)).2.2 with
  | none =>
    simp only [hfailure] at h
    cases h
  | some failure' =>
    simp only [hfailure] at h
    cases h
    exact ⟨rfl, rfl⟩

/-- What a poll delivers after the bytes from its position on have been replaced by text: the lines
of this text alone. -/
lemma poll_of_repaired {lines : List (List Char)} {rest : List Char} (hlive : t.isLive = true)
    (hsize : t.position ≤ bytes.size) (hlines : ∀ line ∈ lines, '\n' ∉ line) (hrest : '\n' ∉ rest) :
    let repaired := bytes.extract 0 t.position ++ (terminated lines ++ rest).utf8Encode
    let parsed := parseLines (lines.map stripped) (t.linesRead + 1)
    (t.poll (.file repaired)).value.2 = .ok parsed.1 ∧
      warnings (t.poll (.file repaired)).events = parsed.2.map (refusal t.path) := by
  have hread := readLinesFrom_terminated (bytes.extract 0 t.position) hlines hrest
  have hbefore : t.position ≤
      (bytes.extract 0 t.position ++ (terminated lines ++ rest).utf8Encode).size := by
    rw [ByteArray.size_append, size_extract_zero hsize]
    exact Nat.le_add_right _ _
  rw [size_extract_zero hsize] at hread
  obtain ⟨hanswer, hwarn⟩ := poll_of_isLive_of_read hlive hbefore hread
  exact ⟨congrArg Prod.snd hanswer, hwarn⟩

/-- **Failed reads.**  A read or a poll of any tail fails, at any contents.  The tail is then as it
was before exactly if the read has failed at once.  Otherwise it has moved behind the complete lines
in front of the failure, without counting them.  Whatever takes the place of the line that has
failed and of those after it, the next poll delivers nothing of the lines in front, and refuses
lines under numbers that do not count them. -/
theorem failed_read_passes_lines
    (h : (t.readNewLines file).value = (after, .error failure) ∨
      (t.poll file).value = (after, .error failure)) :
    ((after.position = t.position ∧ after.linesRead = t.linesRead ∧
      after.exhausted = t.exhausted) ↔ t.FailsAtOnce file) ∧
    after.exhausted = t.exhausted ∧
    ∀ bytes, file = .file bytes →
      after.linesRead = (if bytes.size < t.position then 0 else t.linesRead) ∧
      (∃ skipped, Passed bytes (t.resumption bytes) after.position skipped) ∧
      ¬ (lineAt bytes after.position).IsValidUTF8 ∧
      (t.isLive = true → ∀ lines rest, (∀ line ∈ lines, '\n' ∉ line) → '\n' ∉ rest →
        let repaired := bytes.extract 0 after.position ++ (terminated lines ++ rest).utf8Encode
        let parsed := parseLines (lines.map stripped) (after.linesRead + 1)
        (after.poll (.file repaired)).value.2 = .ok parsed.1 ∧
          warnings (after.poll (.file repaired)).events = parsed.2.map (refusal t.path)) := by
  have hread : (t.readNewLines file).value = (after, .error failure) :=
    h.elim id readNewLines_of_poll_failure
  cases file with
  | missing =>
    cases hread
    exact ⟨⟨fun _ => trivial, fun _ => ⟨rfl, rfl, rfl⟩⟩, rfl, nofun⟩
  | directory length =>
    rw [readNewLines_directory] at hread
    cases hread
    by_cases hshorter : length < t.position
    · rw [if_pos hshorter]
      refine ⟨⟨fun hkept => ?_, fun hfails => absurd hfails (Nat.not_le.mpr hshorter)⟩, rfl, nofun⟩
      exact absurd hshorter (by rw [← hkept.1]; exact Nat.not_lt_zero length)
    · rw [if_neg hshorter]
      exact ⟨⟨fun _ => Nat.not_lt.mp hshorter, fun _ => ⟨rfl, rfl, rfl⟩⟩, rfl, nofun⟩
  | file bytes =>
    obtain ⟨hfailure, rfl⟩ := readNewLines_file_failure hread
    obtain ⟨-, hline, skipped, hskipped⟩ :=
      exists_passed_of_failure (t.resumption_le bytes) hfailure
    refine ⟨⟨?_, ?_⟩, rfl, ?_⟩
    · rintro ⟨hposition, -, -⟩
      exact ⟨hposition ▸ hskipped.le_size, hposition ▸ hline⟩
    · rintro ⟨hsize, hfirst⟩
      have hresumption : t.resumption bytes = t.position := if_neg (Nat.not_lt.mpr hsize)
      rw [hresumption, readLinesFrom_of_not_isValidUTF8 hfirst]
      exact ⟨rfl, if_neg (Nat.not_lt.mpr hsize), rfl⟩
    · rintro _ ⟨rfl⟩
      refine ⟨rfl, ⟨skipped, hskipped⟩, hline, fun hlive lines rest hlines hrest => ?_⟩
      exact poll_of_repaired hlive hskipped.le_size hlines hrest

/-- The third line of a file is no text when a tail that has read the first one polls.  Once it has
been repaired it is delivered, and the line after it is refused under the number 3 instead of 4. -/
theorem failed_read_passes_lines_after_first :
    let first := "\x7b\"cmd\":\"remove\",\"id\":\"a\"\x7d\n"
    let second := "\x7b\"cmd\":\"remove\",\"id\":\"b\"\x7d\n"
    let third := "\x7b\"cmd\":\"remove\",\"id\":\"c\"\x7d"
    let broken := (first ++ second).toUTF8 ++ ⟨#[255, 10]⟩
    let repaired := (first ++ second ++ third ++ "\nx\n").toUTF8
    let t : Tail := ⟨"capture.jsonl", true, first.utf8ByteSize, 1, true⟩
    let after : Tail := { t with position := (first ++ second).utf8ByteSize }
    (t.poll (.file broken)).value = (after, .error .invalidUtf8) ∧
      ¬ t.FailsAtOnce (.file broken) ∧
      (after.poll (.file repaired)).value.2 = .ok [.remove ⟨"c", by decide⟩] ∧
      warnings (after.poll (.file repaired)).events =
        [⟨.warn, .capture, "Skipping malformed line: Invalid flow message at line 3: syntax",
          [("path", "capture.jsonl")]⟩] := by
  intro first second third broken repaired t after
  have hfailed : (t.poll (.file broken)).value = (after, .error .invalidUtf8) := by decide +kernel
  obtain ⟨hkept, -, hmore⟩ := failed_read_passes_lines (.inr hfailed)
  obtain ⟨-, -, -, hlater⟩ := hmore broken rfl
  obtain ⟨hanswer, hwarn⟩ := hlater rfl [third.toList, "x".toList] [] (by decide +kernel)
    (by decide +kernel)
  have hrepaired : broken.extract 0 after.position ++
      (terminated [third.toList, "x".toList] ++ []).utf8Encode = repaired := by decide +kernel
  rw [hrepaired] at hanswer hwarn
  refine ⟨hfailed, fun hfails => ?_, hanswer.trans (by decide +kernel),
    hwarn.trans (by decide +kernel)⟩
  exact absurd (hkept.mpr hfails).1 (by decide +kernel)

/-- A line that is no text takes the complete line in front of it with it: position and line count
no longer belong together, and the next poll of the repaired file delivers the second line alone. -/
theorem line_lost_by_failed_read :
    let first := "\x7b\"cmd\":\"remove\",\"id\":\"a\"\x7d\n"
    let second := "\x7b\"cmd\":\"remove\",\"id\":\"b\"\x7d\n"
    let broken := first.toUTF8 ++ ⟨#[255, 10]⟩
    let t : Tail := ⟨"capture.jsonl", true, 0, 0, false⟩
    let after := (t.poll (.file broken)).value.1
    Tail.start? "capture.jsonl" true (.file broken) = some t ∧
      (t.poll (.file broken)).value.2 = .error .invalidUtf8 ∧
      (after.position, after.linesRead) = (first.utf8ByteSize, 0) ∧
      after.position ≠ t.position ∧
      (after.poll (.file (first ++ second).toUTF8)).value.2 = .ok [.remove ⟨"b", by decide⟩] ∧
      (parseLines (completeLines (first ++ second).toList) 1).1 =
        [.remove ⟨"a", by decide⟩, .remove ⟨"b", by decide⟩] := by
  intro first second broken t after
  exact ⟨rfl, by decide +kernel, by decide +kernel, by decide +kernel, by decide +kernel,
    by decide +kernel⟩

end Tail

end FlowWatch.Capture
