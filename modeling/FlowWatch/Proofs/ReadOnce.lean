import Mathlib
import FlowWatch.Proofs.TornLines

/-!
# Reading a capture file once

A file that is not followed is read by its first poll, and every later poll answers with nothing,
whatever is at the path by then (`Tail.polls_of_not_isLive`).  The first poll reads as if the file
were still being written: what comes after the last newline is left for a poll that reads on, which
never comes.  It therefore delivers the complete lines only, and these say all that the file says
exactly if the unfinished line says nothing (`Tail.polls_read_once`).
-/

namespace FlowWatch.Capture

/-- What comes after the last newline of a text. -/
def unfinishedLine (text : List Char) : List Char := (text.splitOn '\n').getLastD []

/-- All lines of a text, each without its end.  What comes after the last newline is one of them, if
there is anything. -/
def allLines (text : List Char) : List String :=
  completeLines text ++
    if unfinishedLine text = [] then [] else [stripped (unfinishedLine text)]

/-- All lines say what the complete ones say, and then what the unfinished one says. -/
lemma messages_allLines (text : List Char) :
    (parseLines (allLines text) 1).1 =
      (parseLines (completeLines text) 1).1 ++
        (parseLines [stripped (unfinishedLine text)] 1).1 := by
  have hlast : ∀ first, (parseLines (if unfinishedLine text = [] then [] else
      [stripped (unfinishedLine text)]) first).1 =
        (parseLines [stripped (unfinishedLine text)] 1).1 := by
    intro first
    split
    · rename_i hnothing
      rw [hnothing]
      rfl
    · rw [messages_parseLines, messages_parseLines]
  rw [allLines, parseLines_append]
  simp only [hlast]

namespace Tail

variable {path : String} {tail : Tail}

/-- A file that is opened has not been read yet. -/
lemma eq_of_start? {follow : Bool} {opened : FileState}
    (h : start? path follow opened = some tail) : tail = ⟨path, follow, 0, 0, false⟩ := by
  cases opened <;> cases h <;> rfl

/-- The replies to one poll after the other, given what each of them finds at the path. -/
def polls (t : Tail) : List FileState → List Reply
  | [] => []
  | file :: files =>
    let polled := t.poll file
    ⟨polled.value.2, polled.events⟩ :: polled.value.1.polls files

/-- A tail that is not live any more answers every poll with nothing, and notes nothing. -/
lemma polls_of_not_isLive (h : tail.isLive = false) (files : List FileState) :
    tail.polls files = List.replicate files.length ⟨.ok [], []⟩ := by
  have hread : (tail.exhausted && !tail.follow) = true := by
    rwa [isLive_eq, Bool.not_eq_false'] at h
  have hpoll : ∀ file, tail.poll file = ⟨(tail, .ok []), []⟩ := by
    intro file
    rw [poll, if_pos hread]
    rfl
  induction files with
  | nil => rfl
  | cons file files ih => rw [polls, hpoll, ih, List.length_cons, List.replicate_succ]

/-- **Reading once.**  A file is opened without being followed, and its contents are text when it is
first polled.  This poll delivers exactly the messages of the complete lines and refuses the
malformed ones among them, numbered from 1.  It has thereby delivered what all lines of the file say
exactly if the line after the last newline says nothing.  Every later poll answers with nothing. -/
theorem polls_read_once {opened : FileState}
    (hstart : start? path false opened = some tail) (text : List Char) (later : List FileState) :
    ∃ first : Reply,
      tail.polls (.file text.utf8Encode :: later) =
        first :: List.replicate later.length ⟨.ok [], []⟩ ∧
      first.value = .ok (parseLines (completeLines text) 1).1 ∧
      warnings first.events = (parseLines (completeLines text) 1).2.map (refusal path) ∧
      (first.value = .ok (parseLines (allLines text) 1).1 ↔
        (parseLines [stripped (unfinishedLine text)] 1).1 = []) := by
  obtain rfl := eq_of_start? hstart
  obtain ⟨lines, rest, rfl, hlines, hrest⟩ := exists_terminated text
  have hread := readLinesFrom_terminated .empty hlines hrest
  rw [ByteArray.empty_append] at hread
  obtain ⟨hanswer, hwarn⟩ := poll_of_isLive_of_read (t := ⟨path, false, 0, 0, false⟩) rfl
    (Nat.zero_le _) hread
  rw [← completeLines_terminated hlines hrest] at hanswer hwarn
  let polled := poll ⟨path, false, 0, 0, false⟩ (.file (terminated lines ++ rest).utf8Encode)
  have hfirst : polled.value.2 = .ok (parseLines (completeLines (terminated lines ++ rest)) 1).1 :=
    congrArg Prod.snd hanswer
  refine ⟨⟨polled.value.2, polled.events⟩, ?_, hfirst, hwarn, ?_⟩
  · rw [polls, hanswer, polls_of_not_isLive rfl]
  · rw [hfirst, messages_allLines, Except.ok.injEq, List.self_eq_append_right]

/-- A file with a carriage return, an empty line, a malformed line and blanks after the last newline
is delivered by the first poll, and by no other one, even if the file grows. -/
theorem polls_read_once_before_blanks :
    let first := "\x7b\"cmd\":\"remove\",\"id\":\"a\"\x7d\r\n\n"
    let second := "x\n\x7b\"cmd\":\"remove\",\"id\":\"b\"\x7d\n  "
    let text := first ++ second
    let tail : Tail := ⟨"capture.jsonl", false, 0, 0, false⟩
    let later : List FileState := [.file (text ++ text).toUTF8, .missing]
    start? "capture.jsonl" false (.file text.toUTF8) = some tail ∧
      ∃ reply : Reply,
        tail.polls (.file text.toUTF8 :: later) = [reply, ⟨.ok [], []⟩, ⟨.ok [], []⟩] ∧
        reply.value = .ok [.remove ⟨"a", by decide⟩, .remove ⟨"b", by decide⟩] ∧
        reply.value = .ok (parseLines (allLines text.toList) 1).1 ∧
        warnings reply.events =
          [⟨.warn, .capture, "Skipping malformed line: Invalid flow message at line 3: syntax",
            [("path", "capture.jsonl")]⟩] := by
  intro first second text tail later
  have hstart : start? "capture.jsonl" false (.file text.toUTF8) = some tail := rfl
  obtain ⟨reply, hreplies, hvalue, hwarn, hall⟩ := polls_read_once hstart text.toList later
  have htext : text.toList.utf8Encode = text.toUTF8 := by decide +kernel
  rw [htext] at hreplies
  exact ⟨hstart, reply, hreplies, hvalue.trans (by decide +kernel), hall.mpr (by decide +kernel),
    hwarn.trans (by decide +kernel)⟩

/-- A last line without newline is not delivered, although nothing is read any more. -/
theorem unterminated_line_not_read :
    let text := "\x7b\"cmd\":\"remove\",\"id\":\"a\"\x7d"
    let tail : Tail := ⟨"capture.jsonl", false, 0, 0, false⟩
    start? "capture.jsonl" false (.file text.toUTF8) = some tail ∧
      (tail.polls [.file text.toUTF8, .file text.toUTF8]).map Logged.value = [.ok [], .ok []] ∧
      (parseLines (allLines text.toList) 1).1 = [.remove ⟨"a", by decide⟩] := by
  intro text tail
  refine ⟨rfl, ?_, ?_⟩
  · decide +kernel
  · decide +kernel

end Tail

end FlowWatch.Capture
