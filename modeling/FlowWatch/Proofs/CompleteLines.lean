import Mathlib
import FlowWatch.Capture.Tail

/-!
# The complete lines of a capture

A text is read as the lines that end with a newline; what follows the last newline is no line yet
(`completeLines`).  Every text is `terminated lines ++ rest`, where neither the lines nor the rest
hold a newline, and reading the bytes of such a text from anywhere before them gives exactly the
lines, and a position after the last newline (`readLinesFrom_terminated`).  That a newline is looked
for among the bytes rather than among the characters makes no difference, as the byte 10 is part of
no other character.

Lines that are parsed in two batches give what they give at once, if the second batch is numbered
from where the first one ends (`parseLines_append`).
-/

namespace FlowWatch.Capture

/-! ## Lines of a text -/

/-- A line without the newlines and carriage returns at its end. -/
def stripped (line : List Char) : String :=
  String.ofList (line.rdropWhile fun c => c == '\n' || c == '\r')

/-- The lines of a text that end with a newline, each without its end. -/
def completeLines (text : List Char) : List String :=
  (text.splitOn '\n').dropLast.map stripped

/-- Lines, each with a newline after it. -/
def terminated (lines : List (List Char)) : List Char := lines.flatMap (· ++ ['\n'])

@[simp]
lemma terminated_nil : terminated [] = [] := rfl

lemma terminated_cons (line : List Char) (lines : List (List Char)) :
    terminated (line :: lines) = line ++ ['\n'] ++ terminated lines := rfl

lemma utf8Encode_terminated_cons (line : List Char) (lines : List (List Char)) :
    (terminated (line :: lines)).utf8Encode =
      (line ++ ['\n']).utf8Encode ++ (terminated lines).utf8Encode := by
  rw [terminated_cons, List.utf8Encode_append]

@[simp]
lemma terminated_append (first second : List (List Char)) :
    terminated (first ++ second) = terminated first ++ terminated second :=
  List.flatMap_append

/-- Every text consists of lines with their newlines and of a rest without newline. -/
lemma exists_terminated (text : List Char) :
    ∃ lines rest, text = terminated lines ++ rest ∧
      (∀ line ∈ lines, '\n' ∉ line) ∧ '\n' ∉ rest := by
  induction text with
  | nil => exact ⟨[], [], rfl, by simp, by simp⟩
  | cons c text ih =>
    obtain ⟨lines, rest, rfl, hlines, hrest⟩ := ih
    by_cases hc : c = '\n'
    · subst hc
      exact ⟨[] :: lines, rest, rfl, by simpa using hlines, hrest⟩
    · cases lines with
      | nil => exact ⟨[], c :: rest, rfl, by simp, by simp [Ne.symm hc, hrest]⟩
      | cons line lines =>
        refine ⟨(c :: line) :: lines, rest, rfl, ?_, hrest⟩
        simpa [Ne.symm hc] using hlines

/-- A text that is given as lines and a rest is split into them. -/
lemma splitOn_terminated {lines : List (List Char)} {rest : List Char}
    (hlines : ∀ line ∈ lines, '\n' ∉ line) (hrest : '\n' ∉ rest) :
    (terminated lines ++ rest).splitOn '\n' = lines ++ [rest] := by
  induction lines with
  | nil => exact List.splitOn_eq_singleton hrest
  | cons line lines ih =>
    obtain ⟨hline, htail⟩ := List.forall_mem_cons.mp hlines
    rw [terminated_cons, List.append_assoc, List.append_assoc, List.singleton_append,
      List.splitOn_append_cons_self_of_not_mem hline, ih htail, List.cons_append]

/-- The complete lines of a text that is given as lines and a rest. -/
lemma completeLines_terminated {lines : List (List Char)} {rest : List Char}
    (hlines : ∀ line ∈ lines, '\n' ∉ line) (hrest : '\n' ∉ rest) :
    completeLines (terminated lines ++ rest) = lines.map stripped := by
  rw [completeLines, splitOn_terminated hlines hrest, List.dropLast_concat]

/-- A line that is read together with its newline is stripped of it. -/
lemma stripLineEnd_ofList (line : List Char) :
    Tail.stripLineEnd (String.ofList (line ++ ['\n'])) = stripped line := by
  rw [Tail.stripLineEnd, String.toList_ofList, stripped]
  exact congrArg String.ofList (List.rdropWhile_concat_pos _ _ _ (by decide))

/-! ## Newlines among the bytes -/

/-- The byte of a newline is part of no other character. -/
lemma newline_mem_utf8EncodeChar {c : Char} (h : 10 ∈ String.utf8EncodeChar c) : c = '\n' := by
  -- a byte above 127 is none, and the other characters consist of such bytes
  have hhigh : ∀ n : Nat, 128 ≤ n → n < 256 → 10 ≠ UInt8.ofNat n := by
    intro n hle hlt heq
    have htoNat : 10 = n % 2 ^ 8 := (congrArg UInt8.toNat heq).trans UInt8.toNat_ofNat'
    omega
  revert h
  fun_cases String.utf8EncodeChar c with
  | case1 v hv =>
    intro h
    have htoNat : 10 = v % 2 ^ 8 :=
      (congrArg UInt8.toNat (List.mem_singleton.mp h)).trans UInt8.toNat_ofNat'
    have hv10 : c.val.toNat = 10 := by omega
    exact Char.ext (UInt32.toNat.inj hv10)
  | case2 v hv hv' =>
    simp only [List.mem_cons, List.not_mem_nil, or_false]
    rintro (h | h) <;> exact absurd h (hhigh _ (by omega) (by omega))
  | case3 v hv hv' hv'' =>
    simp only [List.mem_cons, List.not_mem_nil, or_false]
    rintro (h | h | h) <;> exact absurd h (hhigh _ (by omega) (by omega))
  | case4 v hv hv' hv'' =>
    simp only [List.mem_cons, List.not_mem_nil, or_false]
    rintro (h | h | h | h) <;> exact absurd h (hhigh _ (by omega) (by omega))

/-- A text without newline has no byte of a newline. -/
lemma newline_notMem_utf8Encode {text : List Char} (h : '\n' ∉ text) :
    10 ∉ text.utf8Encode.data := by
  intro hmem
  rw [List.utf8Encode, List.data_toByteArray, List.mem_toArray, List.mem_flatMap] at hmem
  obtain ⟨c, hc, hbyte⟩ := hmem
  exact h (newline_mem_utf8EncodeChar hbyte ▸ hc)

/-- Bytes that are no newline are passed over. -/
lemma lineEnd_add {i n : Nat} (hn : i + n ≤ bytes.size)
    (h : ∀ j (hj : j < bytes.size), i ≤ j → j < i + n → bytes[j] ≠ 10) :
    Tail.lineEnd bytes i = Tail.lineEnd bytes (i + n) := by
  induction n with
  | zero => rfl
  | succ n ih =>
    rw [ih (by omega) fun j hj hi hlt => h j hj hi (by omega), Tail.lineEnd,
      dif_pos (show i + n < bytes.size by omega), if_neg (h _ _ (by omega) (by omega))]
    rfl

/-- The bytes of a line are passed over up to its newline. -/
lemma lineEnd_append (before : ByteArray) {line : ByteArray} (h : 10 ∉ line.data)
    (after : ByteArray) :
    Tail.lineEnd (before ++ (line ++ after)) before.size =
      Tail.lineEnd (before ++ (line ++ after)) (before.size + line.size) := by
  apply lineEnd_add
  · simp
  · intro j hj hle hlt heq
    rw [ByteArray.getElem_append_right hle, ByteArray.getElem_append_left (by omega)] at heq
    apply h
    rw [← heq]
    exact Array.getElem_mem _

/-- The end of a line is after its newline. -/
lemma lineEnd_line (before : ByteArray) {line : List Char} (h : '\n' ∉ line) (after : ByteArray) :
    Tail.lineEnd (before ++ (line ++ ['\n']).utf8Encode ++ after) before.size =
      some (before ++ (line ++ ['\n']).utf8Encode).size := by
  have hnewline : ['\n'].utf8Encode = [10].toByteArray := List.utf8Encode_singleton
  rw [List.utf8Encode_append, ByteArray.append_assoc, ByteArray.append_assoc,
    lineEnd_append before (newline_notMem_utf8Encode h), hnewline, Tail.lineEnd, dif_pos (by simp),
    if_pos]
  · simp [Nat.add_assoc]
  · simp [ByteArray.getElem_append_right, ByteArray.getElem_append_left]

/-- Without a newline there is no end of a line. -/
lemma lineEnd_rest (before : ByteArray) {rest : ByteArray} (h : 10 ∉ rest.data) :
    Tail.lineEnd (before ++ rest) before.size = none := by
  have hend := lineEnd_append before h .empty
  rw [ByteArray.append_empty] at hend
  rw [hend, Tail.lineEnd, dif_neg (by simp)]

/-! ## Reading and parsing -/

/-- The bytes of a text are read as that text. -/
lemma fromUTF8?_utf8Encode (text : List Char) :
    String.fromUTF8? text.utf8Encode = some (String.ofList text) := by
  rw [String.fromUTF8?, dif_pos ByteArray.isValidUTF8_utf8Encode, Option.some.injEq,
    ← String.toByteArray_inj, String.toByteArray_ofList]
  rfl

/-- The bytes of a text are read as that text also from inside of others. -/
lemma fromUTF8?_extract (before : ByteArray) (text : List Char) (after : ByteArray) :
    String.fromUTF8? ((before ++ text.utf8Encode ++ after).extract before.size
      (before ++ text.utf8Encode).size) = some (String.ofList text) := by
  rw [ByteArray.extract_append_size_left,
    ByteArray.extract_append_eq_right rfl ByteArray.size_append, fromUTF8?_utf8Encode]

/-- Where a line ends it is read, and the reading goes on after it. -/
lemma readLinesFrom_of_line {bytes : ByteArray} {position stop : Nat} {line : String}
    (hstop : Tail.lineEnd bytes position = some stop)
    (hline : String.fromUTF8? (bytes.extract position stop) = some line) :
    Tail.readLinesFrom bytes position =
      (Tail.stripLineEnd line :: (Tail.readLinesFrom bytes stop).1,
        (Tail.readLinesFrom bytes stop).2) := by
  rw [Tail.readLinesFrom]
  split
  · rename_i found hfound
    rw [hstop] at hfound
    cases hfound
    simp only [hline]
  · rename_i hnone
    rw [hstop] at hnone
    cases hnone

/-- What is left of a reading that has come to bytes without a newline: nothing if they are text, and
else a failure. -/
def unfinished (rest : ByteArray) : Option IoError :=
  if rest.IsValidUTF8 then none else some .invalidUtf8

/-- The reading stops at bytes that hold no complete line. -/
lemma readLinesFrom_of_rest (before : ByteArray) {rest : ByteArray} (h : 10 ∉ rest.data) :
    Tail.readLinesFrom (before ++ rest) before.size = ([], before.size, unfinished rest) := by
  have hstop := lineEnd_rest before h
  have hrest : (before ++ rest).extract before.size (before ++ rest).size = rest :=
    ByteArray.extract_append_eq_right rfl ByteArray.size_append
  rw [Tail.readLinesFrom, unfinished]
  split
  · rename_i found hfound
    rw [hstop] at hfound
    cases hfound
  · rw [hrest]
    by_cases hvalid : rest.IsValidUTF8
    · simp [String.fromUTF8?, hvalid]
    · simp [String.fromUTF8?, hvalid]

/-- The lines of a text are read from where the text begins, and the position is after the last of
them, whatever bytes without a newline come after it. -/
theorem readLinesFrom_cut (before : ByteArray) {lines : List (List Char)} {rest : ByteArray}
    (hlines : ∀ line ∈ lines, '\n' ∉ line) (hrest : 10 ∉ rest.data) :
    Tail.readLinesFrom (before ++ ((terminated lines).utf8Encode ++ rest)) before.size =
      (lines.map stripped, before.size + (terminated lines).utf8Encode.size, unfinished rest) := by
  induction lines generalizing before with
  | nil =>
    rw [terminated_nil, List.utf8Encode_nil, ByteArray.empty_append]
    exact readLinesFrom_of_rest before hrest
  | cons line lines ih =>
    obtain ⟨hline, htail⟩ := List.forall_mem_cons.mp hlines
    have hbytes : before ++ ((terminated (line :: lines)).utf8Encode ++ rest) =
        before ++ (line ++ ['\n']).utf8Encode ++ ((terminated lines).utf8Encode ++ rest) := by
      rw [utf8Encode_terminated_cons]
      simp only [ByteArray.append_assoc]
    rw [hbytes, readLinesFrom_of_line (lineEnd_line before hline _) (fromUTF8?_extract ..),
      ih _ htail, stripLineEnd_ofList]
    simp only [utf8Encode_terminated_cons, ByteArray.size_append, Nat.add_assoc, List.map_cons]

/-- The lines of a text and the rest after them are read from where the text begins: the lines are
complete, and the position is after the last of them. -/
theorem readLinesFrom_terminated (before : ByteArray) {lines : List (List Char)} {rest : List Char}
    (hlines : ∀ line ∈ lines, '\n' ∉ line) (hrest : '\n' ∉ rest) :
    Tail.readLinesFrom (before ++ (terminated lines ++ rest).utf8Encode) before.size =
      (lines.map stripped, before.size + (terminated lines).utf8Encode.size, none) := by
  have hread := readLinesFrom_cut before hlines (newline_notMem_utf8Encode hrest)
  rwa [unfinished, if_pos ByteArray.isValidUTF8_utf8Encode, ← List.utf8Encode_append] at hread

/-- Text after valid text is valid by itself. -/
lemma exists_utf8Encode_of_append {text : List Char} {more : ByteArray}
    (h : (text.utf8Encode ++ more).IsValidUTF8) : ∃ rest : List Char, more = rest.utf8Encode := by
  obtain ⟨whole, hwhole⟩ := h
  obtain ⟨rest, rfl⟩ := List.isPrefix_of_utf8Encode_append_eq_utf8Encode more hwhole
  rw [List.utf8Encode_append, ByteArray.append_right_inj] at hwhole
  exact ⟨rest, hwhole⟩

/-- Lines may be parsed in two batches, the second one numbered from where the first one ends. -/
theorem parseLines_append (before after : List String) (first : Nat) :
    parseLines (before ++ after) first =
      ((parseLines before first).1 ++ (parseLines after (first + before.length)).1,
        (parseLines before first).2 ++ (parseLines after (first + before.length)).2) := by
  induction before generalizing first with
  | nil => rfl
  | cons raw before ih =>
    have hfirst : first + 1 + before.length = first + (raw :: before).length := by
      rw [List.length_cons]
      omega
    rw [List.cons_append, parseLines, ih, hfirst, parseLines]
    cases parseLine raw.toList first with
    | error e => rfl
    | ok message =>
      cases message with
      | none => rfl
      | some m => rfl

/-- A line is refused under its number. -/
lemma line_of_parseLine_eq_error {raw : List Char} {n : Nat} {e : LineError}
    (h : parseLine raw n = .error e) : e.line = n := by
  simp only [parseLine] at h
  split at h
  · cases h
  · split at h
    · cases h
      rfl
    · split at h
      · cases h
      · cases h
        rfl

/-- Every malformed line is refused once, in order, and under its own number. -/
theorem refused_numbers (lines : List String) (first : Nat) :
    (parseLines lines first).2.map LineError.line =
      ((lines.zipIdx first).filter fun entry => !(parseLine entry.1.toList entry.2).isOk).map
        Prod.snd := by
  induction lines generalizing first with
  | nil => rfl
  | cons raw lines ih =>
    rw [parseLines, List.zipIdx_cons, List.filter_cons]
    cases h : parseLine raw.toList first with
    | error e =>
      have hnumber := line_of_parseLine_eq_error h
      simp [ih, hnumber, Except.isOk, Except.toBool]
    | ok message =>
      cases message with
      | none => exact ih (first + 1)
      | some m => exact ih (first + 1)

end FlowWatch.Capture
