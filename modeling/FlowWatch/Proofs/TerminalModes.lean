import Mathlib
import FlowWatch.Session
import FlowWatch.Proofs.Tailing

/-!
# The terminal at the end of a session

A session switches three modes of the terminal on when it takes the terminal over, and off when it
gives the terminal back.  No other step makes such a call (`Steady`), so the calls of a whole
session can be listed: those of taking over, and those of giving back if the application has started
(`calls_run_of_start_ok`, `calls_run_of_start_error`).

The application starts exactly if the terminal tells its size and the first poll of the source
succeeds (`exists_start_eq_ok_iff`).  A failure after that leads through giving back; a failure
before it ends the session with every mode switched on.
-/

namespace FlowWatch

open Capture

/-! ## Modes -/

/-- A mode of the terminal. -/
inductive TerminalMode where
  | rawMode
  | alternateScreen
  | mouseCapture
deriving DecidableEq, Repr

namespace TerminalCall

/-- The mode that a call changes. -/
def mode : TerminalCall → TerminalMode
  | enableRawMode => .rawMode
  | enterAlternateScreen => .alternateScreen
  | enableMouseCapture => .mouseCapture
  | disableRawMode => .rawMode
  | disableMouseCapture => .mouseCapture
  | leaveAlternateScreen => .alternateScreen

/-- The call switches its mode on. -/
def switchesOn : TerminalCall → Bool
  | enableRawMode => true
  | enterAlternateScreen => true
  | enableMouseCapture => true
  | _ => false

end TerminalCall

namespace Console

/-- The calls that have been made to the terminal, in order. -/
def calls (c : Console) : List TerminalCall :=
  c.trace.toList.filterMap fun
    | .call call => some call
    | _ => none

/-- The last call about a mode has switched it on. -/
def isOn (c : Console) (mode : TerminalMode) : Bool :=
  (c.calls.filter fun call => call.mode = mode).getLast?.any TerminalCall.switchesOn

/-- No call that changes a mode fails. -/
def ModesWork (c : Console) : Prop :=
  ∀ call : TerminalCall, c.failures.lookup call.name = none

/-- The world after calls to the terminal that have worked. -/
def recordCalls (c : Console) (made : List TerminalCall) : Console :=
  made.foldl (fun c call => c.record (.call call)) c

/-- Calls that have worked are noted, and change nothing else. -/
lemma recordCalls_frame (c : Console) (made : List TerminalCall) :
    c.recordCalls made = { c with trace := (c.recordCalls made).trace } := by
  induction made generalizing c with
  | nil => rfl
  | cons call made ih => exact ih (c.record (.call call))

/-- They come after the calls that were made before. -/
lemma calls_recordCalls (c : Console) (made : List TerminalCall) :
    (c.recordCalls made).calls = c.calls ++ made := by
  induction made generalizing c with
  | nil => exact (List.append_nil _).symm
  | cons call made ih =>
    have hcall : (c.record (.call call)).calls = c.calls ++ [call] := by simp [calls, record]
    exact (ih _).trans (by rw [hcall, List.append_assoc, List.singleton_append])

/-- They break nothing. -/
lemma ModesWork.recordCalls {c : Console} (h : c.ModesWork) (made : List TerminalCall) :
    (c.recordCalls made).ModesWork := by
  rw [recordCalls_frame]
  exact h

end Console

/-- The item breaks no call that changes a mode. -/
def ScriptItem.SparesModes (item : ScriptItem) : Prop :=
  ∀ failures, item = .breakage failures →
    ∀ call : TerminalCall, failures.lookup call.name = none

/-! ## Steps that make no such call -/

namespace SessionStep

variable {α β : Type}

/-- The step makes no call that changes a mode, and breaks none. -/
def Steady (x : SessionStep α) : Prop :=
  ∀ c : Console, c.ModesWork → (x c).value.1.ModesWork ∧ (x c).value.1.calls = c.calls

namespace Steady

lemma pure (a : α) : Steady (Pure.pure a : SessionStep α) := fun _ hc => ⟨hc, rfl⟩

lemma fail (e : SessionFailure) : Steady (fail e : SessionStep α) := fun _ hc => ⟨hc, rfl⟩

lemma look (f : Console → α) : Steady (look f) := fun _ hc => ⟨hc, rfl⟩

lemma change {f : Console → Console}
    (hf : ∀ c : Console, c.ModesWork → (f c).ModesWork ∧ (f c).calls = c.calls) :
    Steady (change f) := hf

/-- Steady steps one after the other. -/
lemma bind {x : SessionStep α} {f : α → SessionStep β} (hx : Steady x) (hf : ∀ a, Steady (f a)) :
    Steady (x >>= f) := by
  intro c hc
  obtain ⟨hworks, hcalls⟩ := hx c hc
  rw [value_bind]
  rcases hvalue : (x c).value with ⟨after, e | a⟩
  · rw [hvalue] at hworks hcalls
    exact ⟨hworks, hcalls⟩
  · rw [hvalue] at hworks hcalls
    obtain ⟨hworks', hcalls'⟩ := hf a after hworks
    exact ⟨hworks', hcalls'.trans hcalls⟩

/-- Writing to the log is no call to the terminal. -/
lemma ofLogged (x : Logged α) : Steady (ofLogged x) := by
  intro c hc
  have hvalue : (SessionStep.ofLogged x c).value = (c.write x.events, .ok x.value) := rfl
  rw [hvalue, c.write_frame]
  exact ⟨hc, rfl⟩

/-- Telling how a step ended is as steady as the step. -/
lemma attempt {x : SessionStep α} (hx : Steady x) : Steady (attempt x) := hx

/-- An operation that is no call leaves the world as it is. -/
lemma operate (name : String) : Steady (operate name) := by
  intro c hc
  unfold SessionStep.operate
  split <;> exact ⟨hc, rfl⟩

lemma size : Steady size := (operate "size").bind fun _ => look _

end Steady

end SessionStep

namespace Session

open SessionStep

/-! ## The steps of a session -/

/-- A failure of the source becomes one of the session, and the world stays as it is. -/
lemma value_inputOutcome {α : Type} (outcome : Except IoError α) (c : Console) :
    (inputOutcome outcome c).value = (c, outcome.mapError fun e => .input (.io e)) := by
  cases outcome <;> rfl

lemma steady_inputOutcome {α : Type} (outcome : Except IoError α) :
    Steady (inputOutcome outcome) := by
  cases outcome with
  | ok a => exact .pure a
  | error e => exact .fail _

/-- Drawing is steady. -/
lemma steady_draw (a : App) : Steady (draw a) := by
  refine Steady.size.bind fun size => (Steady.ofLogged _).bind fun prepared => ?_
  refine (Steady.operate "draw").bind fun _ => (Steady.look _).bind fun ⟨drawn, display⟩ => ?_
  refine (Steady.change ?_).bind fun _ => .pure _
  intro c hc
  exact ⟨hc, by simp [Console.calls, Console.record]⟩

/-- Handling an input event is steady. -/
lemma steady_handle (a : App) (input : Input) : Steady (handle a input) := by
  cases input with
  | key key =>
    refine (Steady.ofLogged _).bind fun handled => ?_
    split
    split
    · exact .pure _
    · exact (steady_draw _).bind fun _ => .pure _
  | mouse mouse => exact (Steady.ofLogged _).bind fun _ => (steady_draw _).bind fun _ => .pure _
  | resize width height =>
    refine (Steady.change ?_).bind fun _ => (Steady.ofLogged _).bind fun _ =>
      (steady_draw _).bind fun _ => .pure _
    exact fun c hc => ⟨hc, rfl⟩
  | other => exact .pure _

/-- A tick is steady. -/
lemma steady_tick (a : App) (now : Int) : Steady (tick a now) := by
  refine (Steady.look _).bind fun contents => (Steady.ofLogged _).bind fun polled => ?_
  refine (steady_inputOutcome _).bind fun changed => ?_
  by_cases hshown : (changed || polled.1.blink.source.isLive) = true
  · simpa only [if_pos hshown] using steady_draw polled.1.blink
  · simpa only [if_neg hshown] using Steady.pure polled.1.blink

/-- An item is steady if it breaks no call that changes a mode. -/
lemma steady_step (a : App) {item : ScriptItem} (hitem : item.SparesModes) :
    Steady (step a item) := by
  refine (Steady.change ?_).bind fun _ => ?_
  · intro c hc
    exact ⟨hc, by simp [Console.calls, Console.take, Console.record]⟩
  cases item with
  | input input => exact steady_handle a input
  | tick now => exact (steady_tick a now).bind fun _ => .pure _
  | failure text => exact .fail _
  | quietResize width height =>
    refine (Steady.change ?_).bind fun _ => .pure _
    exact fun c hc => ⟨hc, rfl⟩
  | fileChange f =>
    refine (Steady.change ?_).bind fun _ => .pure _
    exact fun c hc => ⟨hc, rfl⟩
  | breakage failures =>
    refine (Steady.change ?_).bind fun _ => .pure _
    exact fun c _ => ⟨hitem failures rfl, rfl⟩

/-- So is a script of such items. -/
lemma steady_advance (a : App) {script : List ScriptItem}
    (hscript : ∀ item ∈ script, item.SparesModes) : Steady (advance a script) := by
  induction script generalizing a with
  | nil => exact .pure _
  | cons item script ih =>
    rw [List.forall_mem_cons] at hscript
    refine (steady_step a hscript.1).bind fun next => ?_
    split
    · exact ih _ hscript.2
    · exact .pure _

/-! ## Taking over and giving back -/

/-- The calls with which the terminal is taken over. -/
def takingOver : List TerminalCall :=
  [.enableRawMode, .enterAlternateScreen, .enableMouseCapture]

/-- The calls with which it is given back. -/
def givingBack : List TerminalCall :=
  [.disableRawMode, .disableMouseCapture, .leaveAlternateScreen]

variable {c : Console} {source : Source} {options : AppOptions} {script : List ScriptItem}

/-- The step makes exactly these calls, and they work. -/
def Makes (x : SessionStep Unit) (made : List TerminalCall) : Prop :=
  ∀ c : Console, c.ModesWork → (x c).value = (c.recordCalls made, .ok ())

/-- A call makes itself. -/
lemma makes_call (call : TerminalCall) : Makes (SessionStep.call call) [call] := by
  intro c hc
  have hworks : (c.record (.call call)).failures.lookup call.name = none := hc call
  have hchange : (SessionStep.change (·.record (.call call)) c).value =
      (c.record (.call call), .ok ()) := rfl
  rw [SessionStep.call, value_bind, hchange]
  simp only [operate, hworks]
  rfl

/-- Steps one after the other make their calls in this order. -/
lemma Makes.bind {x y : SessionStep Unit} {first second : List TerminalCall} (hx : Makes x first)
    (hy : Makes y second) : Makes (x >>= fun _ => y) (first ++ second) := by
  intro c hc
  rw [value_bind, hx c hc]
  simp only
  rw [hy _ (hc.recordCalls first), Console.recordCalls, Console.recordCalls, Console.recordCalls,
    List.foldl_append]

/-- A steady step after others makes no more calls. -/
lemma Makes.calls_bind {α : Type} {x : SessionStep Unit} {made : List TerminalCall}
    {rest : SessionStep α} (hx : Makes x made) (hrest : Steady rest) (hc : c.ModesWork) :
    ((x >>= fun _ => rest) c).value.1.ModesWork ∧
      ((x >>= fun _ => rest) c).value.1.calls = c.calls ++ made := by
  obtain ⟨hworks, hcalls⟩ := hrest _ (hc.recordCalls made)
  rw [value_bind, hx c hc]
  exact ⟨hworks, hcalls.trans (c.calls_recordCalls made)⟩

lemma makes_takeOver : Makes takeOver takingOver :=
  (makes_call _).bind ((makes_call _).bind (makes_call _))

lemma makes_giveBack : Makes giveBack givingBack :=
  (makes_call _).bind ((makes_call _).bind (makes_call _))

/-! ## Starting -/

/-- The terminal tells its size, and the first poll of the source succeeds. -/
def CanStart (source : Source) (c : Console) : Prop :=
  c.failures.lookup "size" = none ∧ ∃ messages, (source.poll c.capture 0).value.2 = .ok messages

/-- An application starts exactly if the first poll of the source succeeds. -/
lemma exists_start_app_iff (width height : Nat) (contents : FileState) (now : Int) :
    (∃ a, (App.start source options width height contents now).value = .ok a) ↔
      ∃ messages, (source.poll contents now).value.2 = .ok messages := by
  have hsource : ((App.ofOptions source options width height).resize width height).value.source =
      source := rfl
  rw [App.value_start, App.value_poll, hsource]
  rcases (source.poll contents now).value with ⟨polled, e | messages⟩
  · simp
  · simp

/-- Starting takes the terminal over, and makes no other call. -/
lemma calls_start (source : Source) (options : AppOptions) (hc : c.ModesWork) :
    (start source options c).value.1.ModesWork ∧
      (start source options c).value.1.calls = c.calls ++ takingOver := by
  refine makes_takeOver.calls_bind (Steady.size.bind fun (width, height) => ?_) hc
  exact (Steady.look _).bind fun _ => (Steady.ofLogged _).bind fun _ => steady_inputOutcome _

/-- A session starts exactly if it can. -/
lemma exists_start_eq_ok_iff (source : Source) (options : AppOptions) (hc : c.ModesWork) :
    (∃ a, (start source options c).value.2 = .ok a) ↔ CanStart source c := by
  set taken := c.recordCalls takingOver with htaken
  have hframe : taken.failures = c.failures ∧ taken.capture = c.capture := by
    rw [htaken, c.recordCalls_frame]
    exact ⟨rfl, rfl⟩
  rw [start, value_bind, makes_takeOver c hc, ← htaken, CanStart, ← hframe.1, ← hframe.2]
  simp only
  rw [value_bind, SessionStep.value_size]
  cases taken.failures.lookup "size" with
  | some text => simp
  | none =>
    simp only [true_and]
    rw [value_bind, look, Logged.value_pure]
    simp only
    rw [value_bind, ofLogged]
    simp only
    rw [← exists_start_app_iff taken.display.width taken.display.height taken.capture 0]
    rw [value_inputOutcome]
    generalize (App.start source options _ _ taken.capture 0).value = outcome
    cases outcome with
    | error e => simp [Except.mapError]
    | ok a => simp [Except.mapError]

/-! ## Whole sessions -/

/-- The first frame and the event loop are steady. -/
lemma steady_loop (a : App) (hscript : ∀ item ∈ script, item.SparesModes) :
    Steady (draw a >>= fun drawn => loop drawn script) := by
  refine (steady_draw a).bind fun drawn => (steady_advance drawn hscript).bind fun next => ?_
  split
  · exact .fail _
  · exact .pure _

/-- A session that has started gives the terminal back. -/
lemma calls_run_of_start_ok (hc : c.ModesWork) (hscript : ∀ item ∈ script, item.SparesModes)
    {a : App} (hstart : (start source options c).value.2 = .ok a) :
    (run source options script c).value.1.calls = c.calls ++ takingOver ++ givingBack := by
  obtain ⟨hworks, hcalls⟩ := calls_start source options hc
  set begun := (start source options c).value.1 with hbegun
  have hvalue : (start source options c).value = (begun, .ok a) := Prod.ext rfl hstart
  obtain ⟨hworks', hcalls'⟩ := steady_loop a hscript begun hworks
  rcases hloop : ((draw a >>= fun drawn => loop drawn script) begun).value with ⟨ended, outcome⟩
  rw [hloop] at hworks' hcalls'
  have hattempt : (attempt (draw a >>= fun drawn => loop drawn script) begun).value =
      (ended, .ok outcome) :=
    congrArg (fun result : Console × Except SessionFailure Unit =>
      (result.1, (.ok result.2 : Except SessionFailure (Except SessionFailure Unit)))) hloop
  have hend : (ended.recordCalls givingBack).calls = c.calls ++ takingOver ++ givingBack := by
    rw [ended.calls_recordCalls givingBack, hcalls', hcalls]
  rw [run, value_bind, hvalue]
  simp only
  rw [value_bind, hattempt]
  simp only
  rw [value_bind, makes_giveBack ended hworks']
  cases outcome with
  | ok _ => exact hend
  | error e => exact hend

/-- A session that has not started fails and gives nothing back. -/
lemma calls_run_of_start_error (script : List ScriptItem) (hc : c.ModesWork) {e : SessionFailure}
    (hstart : (start source options c).value.2 = .error e) :
    (run source options script c).value.1.calls = c.calls ++ takingOver ∧
      (run source options script c).value.2 = .error e := by
  obtain ⟨-, hcalls⟩ := calls_start source options hc
  set begun := (start source options c).value.1 with hbegun
  have hvalue : (start source options c).value = (begun, .error e) := Prod.ext rfl hstart
  rw [run, value_bind, hvalue]
  exact ⟨hcalls, rfl⟩

/-- After the terminal has been taken over every mode is on. -/
lemma isOn_of_takingOver {before : List TerminalCall} (hcalls : c.calls = before ++ takingOver)
    (mode : TerminalMode) : c.isOn mode = true := by
  rw [Console.isOn, hcalls]
  cases mode <;>
    simp [takingOver, TerminalCall.mode, TerminalCall.switchesOn, List.getLast?_append]

/-- After it has been given back none is. -/
lemma isOn_of_givingBack {before : List TerminalCall} (hcalls : c.calls = before ++ givingBack)
    (mode : TerminalMode) : c.isOn mode = false := by
  rw [Console.isOn, hcalls]
  cases mode <;>
    simp [givingBack, TerminalCall.mode, TerminalCall.switchesOn, List.getLast?_append]

/-- A session that can start leaves every mode switched off. -/
lemma isOn_run_of_canStart (options : AppOptions) (hc : c.ModesWork)
    (hscript : ∀ item ∈ script, item.SparesModes) (h : CanStart source c) (mode : TerminalMode) :
    (run source options script c).value.1.isOn mode = false := by
  obtain ⟨a, hstart⟩ := (exists_start_eq_ok_iff source options hc).mpr h
  exact isOn_of_givingBack (calls_run_of_start_ok hc hscript hstart) mode

/-- A session that cannot start fails and leaves every mode switched on. -/
lemma isOn_run_of_not_canStart (options : AppOptions) (script : List ScriptItem) (hc : c.ModesWork)
    (h : ¬ CanStart source c) :
    (∀ mode, (run source options script c).value.1.isOn mode = true) ∧
      ∃ e, (run source options script c).value.2 = .error e := by
  rw [← exists_start_eq_ok_iff source options hc] at h
  cases hstart : (start source options c).value.2 with
  | ok a => exact absurd ⟨a, hstart⟩ h
  | error e =>
    obtain ⟨hcalls, houtcome⟩ := calls_run_of_start_error script hc hstart
    exact ⟨isOn_of_takingOver hcalls, e, houtcome⟩

/-- **The terminal at the end.**  If no call that changes a mode fails, a session leaves every mode
switched off exactly if it can start.  Otherwise it fails and leaves every mode switched on. -/
theorem terminal_given_back_iff (source : Source) (options : AppOptions) (script : List ScriptItem)
    (c : Console) (hc : c.ModesWork) (hscript : ∀ item ∈ script, item.SparesModes) :
    let ended := (run source options script c).value
    ((∀ mode, ended.1.isOn mode = false) ↔ CanStart source c) ∧
      (¬ CanStart source c → (∀ mode, ended.1.isOn mode = true) ∧ ∃ e, ended.2 = .error e) := by
  refine ⟨⟨fun hoff => ?_, isOn_run_of_canStart options hc hscript⟩,
    isOn_run_of_not_canStart options script hc⟩
  by_contra hnot
  obtain ⟨hon, -⟩ := isOn_run_of_not_canStart options script hc hnot
  exact Bool.false_ne_true ((hoff .rawMode).symm.trans (hon .rawMode))

/-- A terminal whose operations work, over a capture file. -/
def consoleOver (contents : ByteArray) : Console :=
  ⟨.blank 20 4, [], ⟨[], [(["c"], .file contents)]⟩, "c", "c", none, 0, #[]⟩

/-- A capture file that has just been opened. -/
def openedCapture : Tail := ⟨"c", true, 0, 0, false⟩

/-- The file is found at its path. -/
lemma capture_consoleOver (contents : ByteArray) :
    (consoleOver contents).capture = .file contents := by
  have hsplit : "c".splitOn "/" = ["c"] := by
    rw [String.splitOn, if_neg (by decide), String.splitOnAux, if_neg (by decide +kernel),
      if_neg (by decide +kernel), String.splitOnAux, if_pos (by decide +kernel)]
    decide +kernel
  have horigin : (consoleOver contents).files.origin "c" = [] := by
    rw [Files.origin, if_neg (by decide +kernel)]
    rfl
  have hlocate : (consoleOver contents).files.locate "c" = .ok ["c"] := by
    rw [Files.locate, if_neg (by decide), hsplit, horigin]
    rfl
  have hpath : (consoleOver contents).capturePath = "c" := rfl
  rw [Console.capture, hpath, Files.get, hlocate]
  rfl

/-- The modes are switched off also after frames have failed to be drawn. -/
theorem terminal_given_back_after_lost_frames :
    let script : List ScriptItem :=
      [.breakage [("draw", "lost")], .tick 250000000, .input (.resize 20 3)]
    let c := consoleOver ⟨#[10]⟩
    c.ModesWork ∧ (∀ item ∈ script, item.SparesModes) ∧ CanStart (.file openedCapture) c ∧
      ∀ mode, (run (.file openedCapture) ⟨.default, 250, .monochrome⟩ script c).value.1.isOn mode =
        false := by
  intro script c
  have hc : c.ModesWork := fun _ => rfl
  have hscript : ∀ item ∈ script, item.SparesModes := by
    simp only [script, List.forall_mem_cons]
    refine ⟨?_, nofun, nofun, nofun⟩
    rintro failures ⟨⟩ call
    cases call <;> decide +kernel
  have hpoll : Tail.readLinesFrom ⟨#[10]⟩ openedCapture.position = ([""], 1, none) := by
    decide +kernel
  have hstart : CanStart (.file openedCapture) c := by
    refine ⟨rfl, (parseLines [""] 1).1, ?_⟩
    rw [capture_consoleOver]
    exact congrArg Prod.snd (Tail.poll_of_read rfl (Nat.zero_le _) hpoll).1
  exact ⟨hc, hscript, hstart, (terminal_given_back_iff _ _ script c hc hscript).1.mpr hstart⟩

/-- A capture that is no text: the first poll fails, and every mode stays switched on. -/
theorem terminal_kept_after_failed_start :
    let ended := (run (.file openedCapture) ⟨.default, 250, .monochrome⟩ []
      (consoleOver ⟨#[255, 10]⟩)).value.1
    ended.isOn .rawMode = true ∧ ended.isOn .alternateScreen = true ∧
      ended.isOn .mouseCapture = true := by
  have hpoll : Tail.readLinesFrom ⟨#[255, 10]⟩ openedCapture.position =
      ([], 0, some .invalidUtf8) := by
    decide +kernel
  have hfail : ((Source.file openedCapture).poll (consoleOver ⟨#[255, 10]⟩).capture 0).value.2 =
      .error .invalidUtf8 := by
    rw [capture_consoleOver]
    exact congrArg Prod.snd (Tail.poll_of_failure rfl (Nat.zero_le _) hpoll)
  have hnot : ¬ CanStart (.file openedCapture) (consoleOver ⟨#[255, 10]⟩) := by
    simp [CanStart, hfail]
  obtain ⟨hon, -⟩ :=
    isOn_run_of_not_canStart ⟨.default, 250, .monochrome⟩ [] (fun _ => rfl) hnot
  exact ⟨hon .rawMode, hon .alternateScreen, hon .mouseCapture⟩

end Session

end FlowWatch
