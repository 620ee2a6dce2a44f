import Mathlib
import FlowWatch.Proofs.CompleteLines

/-!
# Following a capture file

A file grows, is replaced by other contents, and is polled through a tail that follows it, in any
order (`Watch.run`).  What the polls deliver together is what the complete lines of the contents
say, each of them once (`polls_deliver_complete_lines`).

The invariant (`Progress`) is that the contents begin with the lines that have been read, that
position and line count of the tail are theirs, and that the replies deliver them.  Appended bytes
leave it as it is and a poll takes it to the last complete line (`Progress.poll`).  Replacing the
contents suspends it until the next poll (`Watch.Tracks`): a tail learns of other contents only by
finding them shorter than what it has consumed.  Contents that have grown back by then are taken
for the old ones (`regrown_contents_not_read`).
-/

namespace FlowWatch.Capture

/-- The event that notes a refused line. -/
def refusal (path : String) (e : LineError) : Log.Event :=
  ⟨.warn, .capture, "Skipping malformed line: " ++ e.message, [("path", path)]⟩

/-- The warnings among events. -/
def warnings (events : List Log.Event) : List Log.Event := events.filter fun e => e.level = .warn

/-! ## One poll -/

namespace Tail

variable {t : Tail} {bytes : ByteArray}

/-- A poll warns of the refused lines only. -/
lemma warnings_pollEvents (messages : List Message) (errors : List LineError) :
    warnings (t.pollEvents messages errors) = errors.map (refusal t.path) := by
  have hrefused : ∀ e ∈ errors.map (refusal t.path), decide (e.level = .warn) = true := by
    intro e he
    obtain ⟨error, -, rfl⟩ := List.mem_map.mp he
    rfl
  have hcount : ((if messages.isEmpty then [] else
      [⟨.debug, .capture, "Read flow messages", [("count", toString messages.length)]⟩] :
        List Log.Event).filter fun e => e.level = .warn) = [] := by
    split <;> rfl
  rw [warnings, pollEvents, List.filter_append, hcount, List.append_nil]
  exact List.filter_eq_self.mpr hrefused

/-- A file that is not shorter than what has been consumed of it is read on from there. -/
lemma readNewLines_of_read {lines : List String} {last : Nat} (hsize : t.position ≤ bytes.size)
    (hread : readLinesFrom bytes t.position = (lines, last, none)) :
    t.readNewLines (.file bytes) = ⟨({ t with position := last }, .ok lines), []⟩ := by
  rw [readNewLines, rewind_of_le hsize, Logged.pure_bind]
  simp only [hread]
  rfl

/-- A tail that is not live is one whose polls read nothing. -/
lemma isLive_eq (t : Tail) : t.isLive = !(t.exhausted && !t.follow) := by
  rw [isLive, Bool.not_and, Bool.not_not, Bool.or_comm]

/-- A tail that is followed may always deliver more. -/
lemma isLive_of_follow (hfollow : t.follow = true) : t.isLive = true := by
  rw [isLive, hfollow, Bool.true_or]

/-- A poll that can read lines delivers their messages and warns of those that are refused, unless
there is nothing more to be read. -/
lemma poll_of_isLive_of_read {lines : List String} {last : Nat} (hlive : t.isLive = true)
    (hsize : t.position ≤ bytes.size)
    (hread : readLinesFrom bytes t.position = (lines, last, none)) :
    let parsed := parseLines lines (t.linesRead + 1)
    (t.poll (.file bytes)).value =
      ({ t with position := last, linesRead := t.linesRead + lines.length, exhausted := true },
        .ok parsed.1) ∧
    warnings (t.poll (.file bytes)).events = parsed.2.map (refusal t.path) := by
  have hlines := readNewLines_of_read hsize hread
  have hmore : (t.exhausted && !t.follow) = false := by
    rwa [isLive_eq, Bool.not_eq_true'] at hlive
  constructor
  · simp [poll, hmore, hlines]
  · simp [poll, hmore, hlines, Logged.noteAll, warnings_pollEvents]

/-- A poll of a followed file that can read lines delivers their messages and warns of those that
are refused. -/
lemma poll_of_read {lines : List String} {last : Nat} (hfollow : t.follow = true)
    (hsize : t.position ≤ bytes.size)
    (hread : readLinesFrom bytes t.position = (lines, last, none)) :
    let parsed := parseLines lines (t.linesRead + 1)
    (t.poll (.file bytes)).value =
      ({ t with position := last, linesRead := t.linesRead + lines.length, exhausted := true },
        .ok parsed.1) ∧
    warnings (t.poll (.file bytes)).events = parsed.2.map (refusal t.path) :=
  poll_of_isLive_of_read (isLive_of_follow hfollow) hsize hread

/-- A file that is shorter than what has been consumed of it is polled from its start. -/
lemma poll_of_shorter (hfollow : t.follow = true) (hsize : bytes.size < t.position) :
    let restarted : Tail := { t with position := 0, linesRead := 0 }
    (t.poll (.file bytes)).value = (restarted.poll (.file bytes)).value ∧
    warnings (t.poll (.file bytes)).events = warnings (restarted.poll (.file bytes)).events := by
  simp [poll, hfollow, readNewLines, rewind, hsize, Logged.noteAll, warnings, Logged.note]

/-- A poll that comes upon a failure ends with it. -/
lemma poll_of_failure {lines : List String} {last : Nat} {failure : IoError}
    (hfollow : t.follow = true) (hsize : t.position ≤ bytes.size)
    (hread : readLinesFrom bytes t.position = (lines, last, some failure)) :
    (t.poll (.file bytes)).value = ({ t with position := last }, .error failure) := by
  simp [poll, hfollow, readNewLines, rewind_of_le hsize, hread]

end Tail

/-- The answer to a poll and what was noted meanwhile. -/
abbrev Reply := Logged (Except IoError (List Message))

/-- Replies deliver lines: all of them succeed, their messages are those of the lines, and their
warnings tell of the lines that are refused. -/
structure Delivers (path : String) (replies : List Reply) (lines : List String) : Prop where
  messages_eq : ∃ batches : List (List Message), replies.map Logged.value = batches.map .ok ∧
    batches.flatten = (parseLines lines 1).1
  warnings_eq : warnings (replies.flatMap Logged.events) =
    (parseLines lines 1).2.map (refusal path)

/-- No replies deliver no lines. -/
lemma delivers_nil (path : String) : Delivers path [] [] := ⟨⟨[], rfl, rfl⟩, rfl⟩

/-- Replies that deliver lines have not failed. -/
lemma Delivers.ok {path : String} {replies : List Reply} {lines : List String}
    (h : Delivers path replies lines) :
    ∀ reply ∈ replies, ∃ messages, reply.value = .ok messages := by
  obtain ⟨batches, hreplies, -⟩ := h.messages_eq
  intro reply hmem
  have hvalue : reply.value ∈ batches.map .ok := hreplies ▸ List.mem_map_of_mem hmem
  obtain ⟨messages, -, hmessages⟩ := List.mem_map.mp hvalue
  exact ⟨messages, hmessages.symm⟩

/-- One more reply delivers the lines after those that have been delivered. -/
lemma Delivers.append {path : String} {replies : List Reply} {lines more : List String}
    (h : Delivers path replies lines) (reply : Reply)
    (hvalue : reply.value = .ok (parseLines more (lines.length + 1)).1)
    (hevents : warnings reply.events =
      (parseLines more (lines.length + 1)).2.map (refusal path)) :
    Delivers path (replies ++ [reply]) (lines ++ more) := by
  obtain ⟨⟨batches, hreplies, hflat⟩, hwarn⟩ := h
  rw [warnings] at hwarn hevents
  have hparse := parseLines_append lines more 1
  rw [Nat.add_comm 1] at hparse
  refine ⟨⟨batches ++ [(parseLines more (lines.length + 1)).1], ?_, ?_⟩, ?_⟩
  · rw [List.map_append, hreplies, List.map_append, List.map_singleton, List.map_singleton, hvalue]
  · rw [hparse, List.flatten_append, hflat, List.flatten_singleton]
  · rw [hparse, warnings, List.flatMap_append, List.filter_append, hwarn, List.flatMap_singleton,
      hevents, List.map_append]

/-- How far a tail has come: it follows the file, whose contents begin with lines after which it
stands, and these lines have been delivered; what comes after them has not been read. -/
structure Progress (path : String) (t : Tail) (contents : ByteArray) (replies : List Reply)
    (lines : List (List Char)) (more : ByteArray) : Prop where
  path_eq : t.path = path
  follow : t.follow = true
  contents_eq : contents = (terminated lines).utf8Encode ++ more
  newline_notMem : ∀ line ∈ lines, '\n' ∉ line
  position_eq : t.position = (terminated lines).utf8Encode.size
  linesRead_eq : t.linesRead = lines.length
  delivers : Delivers path replies (lines.map stripped)

/-- A poll of text goes on to the last of the complete lines, and delivers them.  Only the answer of
the poll and its warnings matter. -/
lemma Progress.poll {path : String} {t : Tail} {contents : ByteArray} {replies : List Reply}
    {lines : List (List Char)} {text : List Char}
    (h : Progress path t contents replies lines text.utf8Encode)
    {polled : Logged (Tail × Except IoError (List Message))}
    (hvalue : polled.value = (t.poll (.file contents)).value)
    (hevents : warnings polled.events = warnings (t.poll (.file contents)).events) :
    ∃ all rest, '\n' ∉ rest ∧ Progress path polled.value.1 contents
      (replies ++ [⟨polled.value.2, polled.events⟩]) all (List.utf8Encode rest) := by
  obtain ⟨rfl, hfollow, rfl, hlines, hposition, hcount, hdelivers⟩ := h
  obtain ⟨next, rest, rfl, hnext, hrest⟩ := exists_terminated text
  have hread := readLinesFrom_terminated (terminated lines).utf8Encode hnext hrest
  rw [← hposition] at hread
  obtain ⟨hanswer, hwarn⟩ := Tail.poll_of_read hfollow (by simp [hposition]) hread
  rw [hcount, ← List.length_map stripped] at hanswer hwarn
  have hreply := hdelivers.append ⟨polled.value.2, polled.events⟩
    (congrArg Prod.snd (hvalue.trans hanswer)) (hevents.trans hwarn)
  have hcontents : (terminated lines).utf8Encode ++ (terminated next ++ rest).utf8Encode =
      (terminated (lines ++ next)).utf8Encode ++ rest.utf8Encode := by
    simp only [terminated_append, List.utf8Encode_append, ByteArray.append_assoc]
  have hall : ∀ line ∈ lines ++ next, '\n' ∉ line := fun line hline =>
    (List.mem_append.mp hline).elim (hlines line) (hnext line)
  have htail := congrArg Prod.fst (hvalue.trans hanswer)
  refine ⟨lines ++ next, rest, hrest, ?_, ?_, hcontents, hall, ?_, ?_, ?_⟩
  · rw [htail]
  · rw [htail, hfollow]
  · rw [htail]
    simp [hposition]
  · rw [htail]
    simp
  · rwa [List.map_append]

/-! ## A watched file -/

/-- What happens to a capture file and to its tail. -/
inductive Happening where
  /-- Bytes are written at the end of the file. -/
  | append (more : ByteArray)
  /-- Other contents take the place of all there was. -/
  | replace (contents : ByteArray)
  /-- The tail is polled. -/
  | poll
deriving DecidableEq

/-- A capture file, its tail, and the replies to all polls. -/
structure Watch where
  tail : Tail
  contents : ByteArray
  /-- The contents have taken the place of others since the last poll. -/
  replaced : Bool
  /-- The replies before the contents were last replaced. -/
  past : List Reply
  /-- The replies since then. -/
  replies : List Reply

namespace Watch

/-- A file that has not been polled yet. -/
def start (tail : Tail) (contents : ByteArray) : Watch := ⟨tail, contents, false, [], []⟩

/-- What is there after one happening. -/
def step (w : Watch) : Happening → Watch
  | .append more => { w with contents := w.contents ++ more }
  | .replace contents =>
    { w with contents, replaced := true, past := w.past ++ w.replies, replies := [] }
  | .poll =>
    let polled := w.tail.poll (.file w.contents)
    { w with
      tail := polled.value.1
      replaced := false
      replies := w.replies ++ [⟨polled.value.2, polled.events⟩] }

/-- What is there after a sequence of happenings. -/
def run (w : Watch) (history : List Happening) : Watch := history.foldl step w

/-- The contents are text, and if they have taken the place of others they are still shorter than
what had been consumed. -/
def Pollable (w : Watch) : Prop :=
  w.contents.IsValidUTF8 ∧ (w.replaced = true → w.contents.size < w.tail.position)

/-- Every poll finds contents that can be polled. -/
def Orderly (w : Watch) : List Happening → Prop
  | [] => True
  | happening :: history =>
    (happening = .poll → w.Pollable) ∧ (w.step happening).Orderly history

instance (w : Watch) : Decidable w.Pollable :=
  inferInstanceAs (Decidable (_ ∧ (_ → _)))

instance decidableOrderly : ∀ (w : Watch) (history : List Happening), Decidable (w.Orderly history)
  | _, [] => .isTrue trivial
  | w, happening :: history =>
    have := decidableOrderly (w.step happening) history
    inferInstanceAs (Decidable (_ ∧ _))

lemma orderly_append {w : Watch} {before after : List Happening} :
    w.Orderly (before ++ after) ↔ w.Orderly before ∧ (w.run before).Orderly after := by
  induction before generalizing w with
  | nil => simp [Orderly, run]
  | cons happening before ih => simp only [List.cons_append, Orderly, ih, and_assoc]; rfl

variable {path : String} {w : Watch}

/-- The tail follows the file, no earlier poll has failed, and unless the contents have been
replaced since the last poll, the tail has come to some place in them. -/
structure Tracks (path : String) (w : Watch) : Prop where
  path_eq : w.tail.path = path
  follow : w.tail.follow = true
  past_ok : ∀ reply ∈ w.past, ∃ messages, reply.value = .ok messages
  progress : (w.replaced = true ∧ w.replies = []) ∨
    ∃ lines more, Progress path w.tail w.contents w.replies lines more

/-- A file is tracked as soon as it is opened. -/
lemma tracks_start {tail : Tail} {contents : ByteArray}
    (h : Tail.start? path true (.file contents) = some tail) :
    (start tail contents).Tracks path := by
  cases h
  have hcontents : contents = (terminated []).utf8Encode ++ contents := by simp
  exact ⟨rfl, rfl, by simp [start],
    .inr ⟨[], contents, rfl, rfl, hcontents, by simp, rfl, rfl, delivers_nil path⟩⟩

/-- None of the replies has failed. -/
lemma Tracks.replies_ok (h : w.Tracks path) :
    ∀ reply ∈ w.replies, ∃ messages, reply.value = .ok messages := by
  obtain ⟨-, hnone⟩ | ⟨lines, more, hprogress⟩ := h.progress
  · simp [hnone]
  · exact hprogress.delivers.ok

/-- A poll comes to the last complete line: it reads on from where the tail is, or, if the contents
have been replaced, from their start. -/
lemma Tracks.poll (h : w.Tracks path) (hpoll : w.Pollable) :
    ∃ lines rest, '\n' ∉ rest ∧ Progress path (w.step .poll).tail w.contents (w.step .poll).replies
      lines (List.utf8Encode rest) := by
  obtain ⟨hvalid, hshorter⟩ := hpoll
  obtain ⟨hreplaced, hnone⟩ | ⟨lines, more, hprogress⟩ := h.progress
  · obtain ⟨text, htext⟩ := hvalid
    have hcontents : w.contents = (terminated []).utf8Encode ++ text.utf8Encode := by simp [htext]
    have hdelivers : Delivers path w.replies [] := by
      rw [hnone]
      exact delivers_nil path
    have hstart : Progress path { w.tail with position := 0, linesRead := 0 } w.contents w.replies
        [] text.utf8Encode :=
      ⟨h.path_eq, h.follow, hcontents, by simp, rfl, rfl, hdelivers⟩
    obtain ⟨hvalue, hevents⟩ := Tail.poll_of_shorter h.follow (hshorter hreplaced)
    exact hstart.poll hvalue hevents
  · rw [hprogress.contents_eq] at hvalid
    obtain ⟨text, rfl⟩ := exists_utf8Encode_of_append hvalid
    exact hprogress.poll rfl rfl

/-- Every happening leaves the file tracked. -/
lemma Tracks.step (h : w.Tracks path) {happening : Happening}
    (hpoll : happening = .poll → w.Pollable) : (w.step happening).Tracks path := by
  cases happening with
  | append more =>
    refine ⟨h.path_eq, h.follow, h.past_ok, h.progress.imp id ?_⟩
    rintro ⟨lines, read, hprogress⟩
    have hcontents : w.contents ++ more = (terminated lines).utf8Encode ++ (read ++ more) := by
      rw [← ByteArray.append_assoc, ← hprogress.contents_eq]
    exact ⟨lines, read ++ more, { hprogress with contents_eq := hcontents }⟩
  | replace contents =>
    refine ⟨h.path_eq, h.follow, fun reply hmem => ?_, .inl ⟨rfl, rfl⟩⟩
    exact (List.mem_append.mp hmem).elim (h.past_ok reply) (h.replies_ok reply)
  | poll =>
    obtain ⟨lines, rest, -, hprogress⟩ := h.poll (hpoll rfl)
    exact ⟨hprogress.path_eq, hprogress.follow, h.past_ok, .inr ⟨lines, _, hprogress⟩⟩

/-- A file stays tracked if every poll finds contents that can be polled. -/
lemma Tracks.run (h : w.Tracks path) {history : List Happening} (horderly : w.Orderly history) :
    (w.run history).Tracks path := by
  induction history generalizing w with
  | nil => exact h
  | cons happening history ih =>
    obtain ⟨hpoll, hrest⟩ := horderly
    exact ih (h.step hpoll) hrest

/-- **Tailing.**  A file is opened and followed, and bytes are appended to it, other contents take
its place, and it is polled in any order, such that every poll finds valid text, and text that has
replaced other contents is found to be still shorter than what had been consumed of them.  Then no
poll ever fails, and after each the replies since the contents were last replaced deliver the
complete lines of the contents: in order they hold exactly the messages of these lines, and their
warnings tell of the malformed ones, of each once and under its own number. -/
theorem polls_deliver_complete_lines {contents : ByteArray} {tail : Tail}
    {history : List Happening} (hstart : Tail.start? path true (.file contents) = some tail)
    (horderly : (start tail contents).Orderly (history ++ [.poll])) :
    let w := (start tail contents).run (history ++ [.poll])
    ∃ text, String.fromUTF8? w.contents = some text ∧
      let lines := completeLines text.toList
      (∀ reply ∈ w.past ++ w.replies, ∃ messages, reply.value = .ok messages) ∧
      (∃ batches : List (List Message), w.replies.map Logged.value = batches.map .ok ∧
        batches.flatten = (parseLines lines 1).1) ∧
      warnings (w.replies.flatMap Logged.events) = (parseLines lines 1).2.map (refusal path) ∧
      (parseLines lines 1).2.map LineError.line =
        ((lines.zipIdx 1).filter fun entry => !(parseLine entry.1.toList entry.2).isOk).map
          Prod.snd := by
  intro w
  obtain ⟨hbefore, hpoll, -⟩ := orderly_append.mp horderly
  have htracks := (tracks_start hstart).run hbefore
  have hw : w = ((start tail contents).run history).step .poll := List.foldl_append
  have hafter : w.Tracks path := hw ▸ htracks.step hpoll
  obtain ⟨lines, rest, hrest, hprogress⟩ := htracks.poll (hpoll rfl)
  have hcontents : w.contents = (terminated lines ++ rest).utf8Encode := by
    rw [List.utf8Encode_append, hw]
    exact hprogress.contents_eq
  have hdelivers : Delivers path w.replies (lines.map stripped) := hw ▸ hprogress.delivers
  refine ⟨String.ofList (terminated lines ++ rest), ?_, ?_⟩
  · rw [hcontents, fromUTF8?_utf8Encode]
  · rw [String.toList_ofList, completeLines_terminated hprogress.newline_notMem hrest]
    refine ⟨fun reply hmem => ?_, hdelivers.messages_eq, hdelivers.warnings_eq,
      refused_numbers _ _⟩
    exact (List.mem_append.mp hmem).elim (hafter.past_ok reply) (hafter.replies_ok reply)

/-- A file of two lines is replaced by a shorter one, of which the first line is malformed. -/
theorem polls_deliver_complete_lines_replaced :
    let first := "\x7b\"cmd\":\"remove\",\"id\":\"a\"\x7d\n"
    let second := "\x7b\"cmd\":\"remove\",\"id\":\"b\"\x7d\n"
    let contents := (first ++ first).toUTF8
    let tail : Tail := ⟨"capture.jsonl", true, 0, 0, false⟩
    let history : List Happening :=
      [.poll, .replace "x\n".toUTF8, .append (second ++ "\x7b").toUTF8]
    let w := (start tail contents).run (history ++ [.poll])
    Tail.start? "capture.jsonl" true (.file contents) = some tail ∧
      (start tail contents).Orderly (history ++ [.poll]) ∧
      (∃ batches : List (List Message), w.replies.map Logged.value = batches.map .ok ∧
        batches.flatten = [.remove ⟨"b", by decide⟩]) ∧
      warnings (w.replies.flatMap Logged.events) =
        [⟨.warn, .capture, "Skipping malformed line: Invalid flow message at line 1: syntax",
          [("path", "capture.jsonl")]⟩] := by
  intro first second contents tail history w
  have hstart : Tail.start? "capture.jsonl" true (.file contents) = some tail := rfl
  have horderly : (start tail contents).Orderly (history ++ [.poll]) := by decide +kernel
  obtain ⟨text, htext, -, ⟨batches, hreplies, hflat⟩, hwarn, -⟩ :=
    polls_deliver_complete_lines hstart horderly
  have hnow : String.fromUTF8? w.contents = some ("x\n" ++ second ++ "\x7b") := by
    decide +kernel
  cases htext.symm.trans hnow
  exact ⟨hstart, horderly, ⟨batches, hreplies, hflat.trans (by decide +kernel)⟩,
    hwarn.trans (by decide +kernel)⟩

/-- Contents that have grown back to the consumed position by the next poll are taken for the old
ones: a line that takes the place of another one of the same length, after the file has been empty
for a while, is not delivered. -/
theorem regrown_contents_not_read :
    let before := "\x7b\"cmd\":\"remove\",\"id\":\"a\"\x7d\n"
    let after := "\x7b\"cmd\":\"remove\",\"id\":\"b\"\x7d\n"
    let tail : Tail := ⟨"capture.jsonl", true, 0, 0, false⟩
    let polled := (start tail before.toUTF8).run [.poll]
    let w := polled.run [.replace .empty, .append after.toUTF8, .poll]
    Tail.start? "capture.jsonl" true (.file before.toUTF8) = some tail ∧
      ByteArray.empty.size < polled.tail.position ∧ w.contents = after.toUTF8 ∧
      w.replies.map Logged.value = [.ok []] ∧
      (parseLines (completeLines after.toList) 1).1 = [.remove ⟨"b", by decide⟩] := by
  intro before after tail polled w
  exact ⟨rfl, by decide +kernel, by decide +kernel, by decide +kernel, by decide +kernel⟩

end Watch

end FlowWatch.Capture
