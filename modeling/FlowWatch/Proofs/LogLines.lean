import Mathlib
import FlowWatch.Log.Record
import FlowWatch.Proofs.CompleteLines
import FlowWatch.Proofs.Numerals

/-!
# Log lines

Whoever reads a log sees the lines that it had, and after them one line for each event that has been
let through (`linesAt_writes`).  An event makes one line unless its texts bring a newline with them,
or a carriage return at the end, as these are written as they are (`Event.IsOneLine`).

What a write preserves is that the path leads to a file of complete lines (`Sink.Holds.write`): a
file that takes the place of another one changes what stands there alone, and no way through the
directories (`Files.stateAt_setAt_file`, `Files.locate_setAt_file`).  In a line the first blank is
the one after the time (`notMem_timeText`), and no level begins with a blank, so that what is left
without the time is the line of the event (`withoutTime_recordOf`).
-/

namespace FlowWatch

/-! ## A file that is written anew -/

namespace Files

variable {fs : Files} {location : List String} {old : ByteArray}

/-- What is looked up under one location is not found under the others. -/
lemma lookup_filter_ne {entries : List (List String × FileState)} {other : List String}
    (hother : other ≠ location) :
    (entries.filter fun entry => entry.1 ≠ location).lookup other = entries.lookup other := by
  induction entries with
  | nil => rfl
  | cons entry entries ih =>
    by_cases hentry : entry.1 = location
    · rw [List.filter_cons_of_neg (by simpa using hentry), ih, List.lookup_cons]
      have hne : (other == entry.1) = false := by simpa [hentry] using hother
      rw [hne]
    · rw [List.filter_cons_of_pos (by simpa using hentry), List.lookup_cons, List.lookup_cons, ih]

/-- There is an entry where there is a file. -/
lemma exists_entry_of_file (h : fs.stateAt location = .file old) :
    ∃ entry ∈ fs.entries, entry.1 = location := by
  cases hentry : fs.entries.lookup location with
  | none =>
    rw [stateAt, hentry] at h
    dsimp only at h
    split at h <;> cases h
  | some state =>
    by_contra hnone
    have hmissing : fs.entries.lookup location = none := by
      rw [List.lookup_eq_none_iff]
      intro entry hmem
      exact bne_iff_ne.mpr fun heq => hnone ⟨entry, hmem, heq.symm⟩
    rw [hmissing] at hentry
    cases hentry

/-- A file that takes the place of another one changes what stands there, and nothing else. -/
lemma stateAt_setAt_file (h : fs.stateAt location = .file old) (new : ByteArray)
    (other : List String) :
    (fs.setAt location (.file new)).stateAt other =
      if other = location then .file new else fs.stateAt other := by
  have hset : fs.setAt location (.file new) = { fs with
      entries := (location, .file new) :: fs.entries.filter fun entry => entry.1 ≠ location } := rfl
  rw [hset]
  by_cases hother : other = location
  · rw [if_pos hother, hother, stateAt, List.lookup_cons_self]
  rw [if_neg hother, stateAt, stateAt]
  have hne : (other == location) = false := beq_eq_false_iff_ne.mpr hother
  -- what is on the way to the file was so before, and no other entry has gone
  have hway : (((location, FileState.file new) :: fs.entries.filter fun entry =>
      entry.1 ≠ location).any fun entry => other.isPrefixOf entry.1) =
      fs.entries.any fun entry => other.isPrefixOf entry.1 := by
    obtain ⟨there, hthere, hlocation⟩ := exists_entry_of_file h
    rw [Bool.eq_iff_iff, List.any_cons, Bool.or_eq_true, List.any_eq_true, List.any_eq_true]
    constructor
    · rintro (hnew | ⟨entry, hentry, hkept⟩)
      · exact ⟨there, hthere, hlocation ▸ hnew⟩
      · exact ⟨entry, List.mem_of_mem_filter hentry, hkept⟩
    · rintro ⟨entry, hentry, hold⟩
      by_cases hsame : entry.1 = location
      · exact .inl (hsame ▸ hold)
      · exact .inr ⟨entry, List.mem_filter.mpr ⟨hentry, by simpa using hsame⟩, hold⟩
  simp only [List.lookup_cons, hne]
  rw [lookup_filter_ne hother]
  simp only [hway]

/-- The same ways can be gone as before. -/
lemma walk_setAt_file (h : fs.stateAt location = .file old) (new : ByteArray)
    (start names : List String) :
    (fs.setAt location (.file new)).walk start names = fs.walk start names := by
  induction names generalizing start with
  | nil => rfl
  | cons name names ih =>
    simp only [walk, stateAt_setAt_file h]
    by_cases hstart : start = location
    · rw [if_pos hstart, hstart, h]
    · rw [if_neg hstart]
      cases fs.stateAt start with
      | directory length => exact ih _
      | file contents => rfl
      | missing => rfl

/-- A path leads where it has led before. -/
lemma locate_setAt_file (h : fs.stateAt location = .file old) (new : ByteArray) (path : String) :
    (fs.setAt location (.file new)).locate path = fs.locate path := by
  rw [locate, locate, walk_setAt_file h]
  rfl

end Files

namespace Log

open Capture

variable {e : Event} {sink : Sink}

/-! ## The line of an event -/

/-- In a time there are digits and a few marks. -/
lemma notMem_timeText {c : Char} (hdigit : Stamp.isDigit c = false)
    (hmark : c ∉ ['-', '+', 'T', ':', '.', 'Z']) (time : Stamp) : c ∉ (timeText time).toList := by
  have hpadded : ∀ n width, c ∉ Stamp.padded n width := by
    intro n width hmem
    rw [Stamp.isDigit_of_mem_padded hmem] at hdigit
    cases hdigit
  simp only [List.mem_cons, List.not_mem_nil, or_false, not_or] at hmark
  have hyear : c ∉ Stamp.renderYear time.date.year := by
    unfold Stamp.renderYear
    split
    · simp [hmark, hpadded]
    · split <;> simp [hmark, hpadded]
  simp [timeText, Stamp.renderDate, Stamp.renderClock, hyear, hmark, hpadded]

/-- The line of an event begins with its level, which is no blank. -/
lemma exists_line_eq_cons (e : Event) :
    ∃ c rest, e.line.toList = c :: rest ∧ Text.isBlank c = false := by
  obtain ⟨c, cs, hname, hblank⟩ :
      ∃ c cs, e.level.name.toList = c :: cs ∧ Text.isBlank c = false := by
    cases e.level <;> exact ⟨_, _, rfl, by decide⟩
  rw [Event.line, String.toList_intercalate]
  simp only [List.map_cons, hname, List.intercalate_cons_cons]
  exact ⟨c, _, rfl, hblank⟩

/-- After the time there are blanks, and then the line. -/
lemma exists_text_eq (e : Event) :
    ∃ n, e.text.toList = List.replicate n ' ' ++ e.line.toList := by
  refine ⟨5 - e.level.name.length, ?_⟩
  rw [Event.text, String.toList_append]
  cases e.level <;> rfl

/-- The characters of an event in a log, without the end of the line. -/
def recordOf (time : Stamp) (e : Event) : List Char :=
  (timeText time).toList ++ ' ' :: e.text.toList

/-- The records of the events that a sink lets through. -/
def Sink.records (sink : Sink) (events : List Event) : List (List Char) :=
  (events.filter sink.filter.admits).map (recordOf sink.time)

/-- What a sink writes are the records, each with a newline after it. -/
lemma toList_join_lines (sink : Sink) (events : List Event) :
    (String.join (sink.lines events)).toList = terminated (sink.records events) := by
  have hline : ∀ e : Event, (timeText sink.time ++ " " ++ e.text ++ "\n").toList =
      recordOf sink.time e ++ ['\n'] := by
    intro e
    simp [recordOf]
  rw [String.toList_join, Sink.lines, Sink.records, terminated, List.flatMap_map,
    List.flatMap_map]
  simp only [hline]

/-- What stands after the time, without the blanks, is the line of the event. -/
lemma withoutTime_recordOf (time : Stamp) (e : Event) :
    withoutTime (recordOf time e) = e.line.toList := by
  have hrest : (recordOf time e).dropWhile (· ≠ ' ') = ' ' :: e.text.toList := by
    have htime : ∀ c ∈ (timeText time).toList, decide (c ≠ ' ') = true := by
      intro c hc
      rw [decide_eq_true_iff]
      rintro rfl
      exact notMem_timeText (by decide) (by decide) time hc
    rw [recordOf, List.dropWhile_append_of_pos htime, List.dropWhile_cons_of_neg (by decide)]
  obtain ⟨n, hn⟩ := exists_text_eq e
  obtain ⟨c, rest, hline, hc⟩ := exists_line_eq_cons e
  have hspaces : ∀ d ∈ List.replicate (n + 1) ' ', Text.isBlank d = true := by
    intro d hd
    rw [List.eq_of_mem_replicate hd]
    decide
  calc withoutTime (recordOf time e)
      = Text.trimStart (' ' :: e.text.toList) := by rw [withoutTime, hrest]
    _ = Text.trimStart (List.replicate (n + 1) ' ' ++ e.line.toList) := by rw [hn]; rfl
    _ = Text.trimStart e.line.toList := Text.trimStart_append_of_blank hspaces
    _ = e.line.toList := by
      rw [hline, Text.trimStart, List.dropWhile_cons_of_neg (by simp [hc])]

/-- An event makes one line if its texts bring neither a newline with them nor a carriage return to
the end of the line. -/
def Event.IsOneLine (e : Event) : Prop :=
  '\n' ∉ e.line.toList ∧ e.line.toList.getLast? ≠ some '\r'

/-- The record of such an event is one line. -/
lemma newline_notMem_recordOf (h : e.IsOneLine) (time : Stamp) : '\n' ∉ recordOf time e := by
  obtain ⟨n, hn⟩ := exists_text_eq e
  have htime := notMem_timeText (c := '\n') (by decide) (by decide) time
  simp [recordOf, hn, htime, h.1]

/-- Such an event is read as its line. -/
lemma line_of_recordOf (h : e.IsOneLine) (time : Stamp) :
    withoutTime (withoutReturn (recordOf time e)) = e.line.toList := by
  obtain ⟨n, hn⟩ := exists_text_eq e
  obtain ⟨c, rest, hline, -⟩ := exists_line_eq_cons e
  have hlast : (recordOf time e).getLast? = e.line.toList.getLast? := by
    rw [recordOf, hn, ← List.cons_append, ← List.append_assoc]
    exact List.getLast?_append_of_ne_nil _ (hline ▸ List.cons_ne_nil c rest)
  rw [withoutReturn, hlast, if_neg (by simpa using h.2), withoutTime_recordOf]

/-- A line of a log as it is shown. -/
def shown (line : List Char) : String := String.ofList (withoutTime (withoutReturn line))

section Records

variable {events : List Event}

/-- The records are lines. -/
lemma newline_notMem_of_mem_records
    (hevents : ∀ e ∈ events, sink.filter.admits e = true → e.IsOneLine) {line : List Char}
    (hline : line ∈ sink.records events) : '\n' ∉ line := by
  obtain ⟨e, he, rfl⟩ := List.mem_map.mp hline
  obtain ⟨hmem, hadmits⟩ := List.mem_filter.mp he
  exact newline_notMem_recordOf (hevents e hmem hadmits) sink.time

/-- The records are shown as the lines of the events. -/
lemma map_shown_records
    (hevents : ∀ e ∈ events, sink.filter.admits e = true → e.IsOneLine) :
    (sink.records events).map shown = (events.filter sink.filter.admits).map Event.line := by
  rw [Sink.records, List.map_map]
  apply List.map_congr_left
  intro e he
  obtain ⟨hmem, hadmits⟩ := List.mem_filter.mp he
  rw [Function.comp_apply, shown, line_of_recordOf (hevents e hmem hadmits), String.ofList_toList]

end Records

/-! ## The lines of a log -/

/-- A log that ends with a newline is shown line by line. -/
lemma linesOf_terminated {lines : List (List Char)} (hlines : ∀ line ∈ lines, '\n' ∉ line) :
    linesOf (terminated lines) = lines.map shown := by
  have hsplit := splitOn_terminated hlines (List.not_mem_nil (a := '\n'))
  rw [List.append_nil] at hsplit
  rw [linesOf]
  simp only [hsplit, List.getLast?_concat, List.dropLast_concat]
  rfl

/-- The log at a path: the path leads to where the sink writes, and the file there consists of these
lines. -/
structure Sink.Holds (sink : Sink) (path : String) (files : Files) (lines : List (List Char)) :
    Prop where
  locate_eq : files.locate path = .ok sink.location
  stateAt_eq : files.stateAt sink.location = .file (terminated lines).utf8Encode
  newline_notMem : ∀ line ∈ lines, '\n' ∉ line

example (filter : Filter) (time : Stamp) :
    (⟨["log"], filter, time⟩ : Sink).Holds "log" ⟨[], [(["log"], .file .empty)]⟩ [] :=
  ⟨by cbv, rfl, List.forall_mem_nil _⟩

namespace Sink.Holds

variable {path : String} {files : Files} {before : List (List Char)}

/-- Whoever reads a log sees its lines. -/
lemma linesAt_eq (h : sink.Holds path files before) :
    linesAt files path = some (before.map shown) := by
  have hfile : files.get path = .file (terminated before).utf8Encode := by
    rw [Files.get, h.locate_eq]
    exact h.stateAt_eq
  rw [linesAt, hfile]
  simp only [fromUTF8?_utf8Encode, Option.getD_some, String.toList_ofList]
  rw [linesOf_terminated h.newline_notMem]

/-- Writing puts the records of a batch of events after the lines that there are. -/
lemma write (h : sink.Holds path files before) {events : List Event}
    (hevents : ∀ e ∈ events, sink.filter.admits e = true → e.IsOneLine) :
    sink.Holds path (sink.write files events) (before ++ sink.records events) := by
  have hbytes : (terminated before).utf8Encode ++ (String.join (sink.lines events)).toUTF8 =
      (terminated (before ++ sink.records events)).utf8Encode := by
    rw [terminated_append, ← toList_join_lines, List.utf8Encode_append, String.utf8Encode_toList]
    rfl
  by_cases hnone : events.filter sink.filter.admits = []
  · have hsame : sink.write files events = files := by
      rw [Sink.write, Sink.lines, hnone]
      rfl
    rwa [hsame, Sink.records, hnone, List.map_nil, List.append_nil]
  · have hlines : ¬ (sink.lines events).isEmpty = true := by
      rw [List.isEmpty_iff, Sink.lines, List.map_eq_nil_iff]
      exact hnone
    rw [Sink.write, if_neg hlines, Files.appendAt, h.stateAt_eq]
    refine ⟨?_, ?_, ?_⟩
    · rw [Files.locate_setAt_file h.stateAt_eq, h.locate_eq]
    · rw [Files.stateAt_setAt_file h.stateAt_eq, if_pos rfl, hbytes]
    · intro line hline
      rcases List.mem_append.mp hline with hold | hnew
      · exact h.newline_notMem line hold
      · exact newline_notMem_of_mem_records hevents hnew

/-- Writing batch after batch puts their records there in order. -/
lemma writes (h : sink.Holds path files before) {batches : List (List Event)}
    (hevents : ∀ e ∈ batches.flatten, sink.filter.admits e = true → e.IsOneLine) :
    sink.Holds path (batches.foldl sink.write files)
      (before ++ sink.records batches.flatten) := by
  induction batches generalizing files before with
  | nil => rwa [List.flatten_nil, Sink.records, List.filter_nil, List.map_nil, List.append_nil]
  | cons events batches ih =>
    rw [List.flatten_cons] at hevents
    have hfirst := h.write fun e he => hevents e (List.mem_append_left _ he)
    have hothers := ih hfirst fun e he => hevents e (List.mem_append_right _ he)
    rwa [List.append_assoc, Sink.records, Sink.records, ← List.map_append, ← List.filter_append,
      ← List.flatten_cons] at hothers

end Sink.Holds

/-- **A log has a line for each event.**  Whoever reads a log into which batches of events have been
written sees the lines that it had, and after them the lines of the events that have been let
through, in their order. -/
theorem linesAt_writes {path : String} {files : Files} {before : List (List Char)}
    (h : sink.Holds path files before) {batches : List (List Event)}
    (hevents : ∀ e ∈ batches.flatten, sink.filter.admits e = true → e.IsOneLine) :
    linesAt (batches.foldl sink.write files) path =
      some (before.map shown ++ (batches.flatten.filter sink.filter.admits).map Event.line) := by
  rw [(h.writes hevents).linesAt_eq, List.map_append, map_shown_records hevents]

end Log

end FlowWatch
