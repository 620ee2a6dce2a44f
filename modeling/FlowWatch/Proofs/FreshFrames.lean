import Mathlib
import FlowWatch.Session
import FlowWatch.Proofs.Redrawing
import FlowWatch.Proofs.SessionConsistency
import FlowWatch.Proofs.SyntheticHistory

/-!
# No stale frame

The event loop draws after every key, mouse and resize event, but after a tick only if the poll has
changed the store or the source is live.  A tick that skips the frame has changed nothing that is
shown (`App.Fed.scene_eq_of_quiet`): a source that was live until then would have ended in a poll
that changes the store.  A capture file ends in the very first poll, and a synthetic stream when it
answers requests that are stored without a response (`Capture.Source.Settled`).

The turns of the event loop are `App.turn`; a step of a session is one of them
(`Session.exists_turn_of_step`).
-/

namespace FlowWatch

/-! ## Sources that end -/

namespace Capture

namespace Tail

variable {t : Tail} {file : FileState}

/-- Reading lines does not change whether a file is followed. -/
lemma follow_readNewLines (t : Tail) (file : FileState) :
    (t.readNewLines file).value.1.follow = t.follow := by
  have hrewind (length : Nat) : (t.rewind length).value.follow = t.follow := by
    rw [value_rewind]
    split <;> rfl
  cases file with
  | missing => rfl
  | directory length => exact hrewind length
  | file bytes =>
    rw [readNewLines, Logged.value_bind, ← hrewind bytes.size]
    dsimp only
    split <;> rfl

/-- After a poll a file that is not followed is exhausted. -/
lemma settled_poll {messages : List Message} (h : (t.poll file).value.2 = .ok messages) :
    (t.poll file).value.1.follow = t.follow ∧
      ((t.poll file).value.1.follow || (t.poll file).value.1.exhausted) = true := by
  have hfollow := t.follow_readNewLines file
  unfold poll at h ⊢
  split
  · rename_i hended
    have hexhausted : t.exhausted = true := (Bool.and_eq_true_iff.mp hended).1
    exact ⟨rfl, by simp [hexhausted]⟩
  · rw [if_neg ‹_›] at h
    simp only [Logged.value_bind] at h ⊢
    generalize (t.readNewLines file).value = reading at h hfollow ⊢
    obtain ⟨read, e | lines⟩ := reading
    · cases h
    · exact ⟨hfollow, Bool.or_true _⟩

end Tail

namespace Synthetic

/-- A poll starts a stream and keeps its period. -/
lemma exists_pollAt_eq (s : Synthetic) (now : Int) :
    ∃ (generated : Nat) (dice : Dice) (lastTick : Int) (awaiting : List Flow),
      (s.pollAt now).2 = { s with started := true, generated, dice, lastTick, awaiting } := by
  rcases pollAt_cases s now with ⟨hstarted, hpoll⟩ | ⟨hstarted, -, hpoll⟩ |
    ⟨hstarted, -, -, -, hpoll⟩ | ⟨hstarted, rate, -, -, hpoll⟩
  · obtain ⟨generated, dice, awaiting, hbatch⟩ :=
      exists_initialBatch_eq { s with started := true, lastTick := now }
    rw [hpoll, hbatch]
    exact ⟨_, _, _, _, rfl⟩
  · obtain ⟨dice, hanswers⟩ := exists_answerPending_eq s
    rw [hpoll, hanswers, ← hstarted]
    exact ⟨_, _, _, _, rfl⟩
  · rw [hpoll, ← hstarted]
    exact ⟨_, _, _, _, rfl⟩
  · generalize s.tickAfter rate (s.dueAt rate now) = tick at hpoll
    generalize s.dueAt rate now = due at hpoll
    obtain ⟨dice, hanswers⟩ := exists_answerPending_eq { s with lastTick := tick }
    rw [hpoll, hanswers, ← hstarted]
    obtain ⟨generated, last, awaiting, hafter⟩ :=
      exists_nextMessages_eq { s with lastTick := tick, dice, awaiting := [] } due
    dsimp only
    rw [hafter]
    exact ⟨_, _, _, _, rfl⟩

/-- A stream has started after a poll, with the period that it had. -/
lemma started_pollAt (s : Synthetic) (now : Int) :
    (s.pollAt now).2.started = true ∧ (s.pollAt now).2.rate = s.rate := by
  obtain ⟨generated, dice, tick, awaiting, hpolled⟩ := s.exists_pollAt_eq now
  rw [hpolled]
  exact ⟨rfl, rfl⟩

/-- A stream without period answers everything at its second poll. -/
lemma pollAt_of_rate_none {s : Synthetic} (hstarted : s.started = true) (hrate : s.rate = none)
    (now : Int) :
    (s.pollAt now).1 = (answerFlows s.dice s.awaiting).1 ∧ (s.pollAt now).2.awaiting = [] := by
  obtain ⟨dice, hanswers⟩ := exists_answerPending_eq s
  have hpoll : s.pollAt now = s.answerPending := by
    rw [pollAt, hstarted, hrate]
    rfl
  rw [hpoll, hanswers]
  exact ⟨rfl, rfl⟩

/-- A stream without period that has answered everything delivers nothing any more and has ended. -/
lemma pollAt_of_awaiting_nil {s : Synthetic} (hstarted : s.started = true) (hrate : s.rate = none)
    (hawaiting : s.awaiting = []) (now : Int) :
    (s.pollAt now).1 = [] ∧ (s.pollAt now).2.isLive = false := by
  obtain ⟨hmessages, hanswered⟩ := pollAt_of_rate_none hstarted hrate now
  obtain ⟨hstarted', hrate'⟩ := s.started_pollAt now
  rw [hawaiting] at hmessages
  refine ⟨hmessages, ?_⟩
  rw [isLive, hstarted', hrate', hrate, hanswered]
  rfl

end Synthetic

namespace Source

/-- A source as the program can come by it: a capture file under observation, or a stream that may
have been polled since its start. -/
def Genuine : Source → Prop
  | file _ => True
  | synthetic stream => ∃ (count : Nat) (rate : Option Nat) (times : List Int),
      stream = (Synthetic.start count rate).after times

/-- The source has been polled, and `store` has taken in what it delivered: a capture file will not
end any more, and a stream that is going to end will first answer requests that are stored without a
response. -/
def Settled (store : FlowStore) : Source → Prop
  | file tail => (tail.follow || tail.exhausted) = true
  | synthetic stream => stream.started = true ∧
      (stream.rate = none → ∀ asked ∈ stream.awaiting, ∀ flow ∈ store.toList,
        flow.id = asked.id → flow.response = none)

variable {source polled : Source} {contents : FileState} {now : Int} {messages : List Message}

/-- A poll of a capture file. -/
lemma poll_file_eq_ok {tail : Tail}
    (h : ((file tail).poll contents now).value = (polled, .ok messages)) :
    polled = file (tail.poll contents).value.1 ∧ (tail.poll contents).value.2 = .ok messages :=
  ⟨(congrArg Prod.fst h).symm, congrArg Prod.snd h⟩

/-- A poll of a stream. -/
lemma poll_synthetic_eq_ok {stream : Synthetic}
    (h : ((synthetic stream).poll contents now).value = (polled, .ok messages)) :
    polled = synthetic (stream.pollAt now).2 ∧ messages = (stream.pollAt now).1 :=
  ⟨(congrArg Prod.fst h).symm, (Except.ok.inj (congrArg Prod.snd h)).symm⟩

/-- A source is settled by its first poll. -/
lemma Genuine.settled (h : source.Genuine)
    (hpoll : (source.poll contents now).value = (polled, .ok messages)) :
    polled.Settled (.ofMessages messages) := by
  cases source with
  | file tail =>
    obtain ⟨rfl, hok⟩ := poll_file_eq_ok hpoll
    exact (Tail.settled_poll hok).2
  | synthetic stream =>
    obtain ⟨rfl, rfl⟩ := poll_synthetic_eq_ok hpoll
    obtain ⟨generated, dice, tick, awaiting, hpolled⟩ := stream.exists_pollAt_eq now
    refine ⟨by rw [hpolled], fun hrate => ?_⟩
    rw [hpolled] at hrate
    obtain ⟨count, rate, times, hstream⟩ := h
    have htold := Synthetic.told_after count rate times
    rw [← hstream] at htold
    cases hstarted : stream.started with
    | true =>
      rw [(Synthetic.pollAt_of_rate_none hstarted hrate now).2]
      exact fun asked hasked => absurd hasked List.not_mem_nil
    | false =>
      -- these are the first messages of all, so that the store holds what the stream knows
      rw [htold.nothing hstarted] at htold
      have hhistory := (htold.pollAt now).history
      rw [List.nil_append] at hhistory
      intro asked hasked flow hflow hid
      obtain ⟨hmem, -, hnone⟩ := hhistory.mem_of_awaiting hasked
      rw [hhistory.eq_of_id_eq hflow hmem hid, hnone]

/-- A source stays settled. -/
lemma Settled.poll {store : FlowStore} (h : source.Settled store) (after : FlowStore)
    (hpoll : (source.poll contents now).value = (polled, .ok messages)) :
    polled.Settled after := by
  cases source with
  | file tail =>
    obtain ⟨rfl, hok⟩ := poll_file_eq_ok hpoll
    exact (Tail.settled_poll hok).2
  | synthetic stream =>
    obtain ⟨rfl, rfl⟩ := poll_synthetic_eq_ok hpoll
    obtain ⟨generated, dice, tick, awaiting, hpolled⟩ := stream.exists_pollAt_eq now
    refine ⟨by rw [hpolled], fun hrate => ?_⟩
    rw [hpolled] at hrate
    rw [(Synthetic.pollAt_of_rate_none h.1 hrate now).2]
    exact fun asked hasked => absurd hasked List.not_mem_nil

/-- A settled source that ends in a poll delivers something that changes the store. -/
lemma Settled.isLive_eq {store : FlowStore} (h : source.Settled store) (hindexed : store.Indexed)
    (hpoll : (source.poll contents now).value = (polled, .ok messages))
    (hsame : (store.applyAll messages).value.2 = false) (hlive : polled.isLive = false) :
    source.isLive = false := by
  cases source with
  | file tail =>
    obtain ⟨rfl, hok⟩ := poll_file_eq_ok hpoll
    have hfollow := (Tail.settled_poll hok).1
    simp only [Settled, isLive, Tail.isLive, Bool.or_eq_false_iff, Bool.or_eq_true] at h hlive ⊢
    rw [hfollow] at hlive
    simpa [hlive.1] using h
  | synthetic stream =>
    obtain ⟨rfl, rfl⟩ := poll_synthetic_eq_ok hpoll
    obtain ⟨generated, dice, tick, awaiting, hpolled⟩ := stream.exists_pollAt_eq now
    obtain ⟨hstarted, hunanswered⟩ := h
    have hrate : stream.rate = none := by
      rw [hpolled] at hlive
      simpa [isLive, Synthetic.isLive] using And.left (Bool.or_eq_false_iff.mp hlive)
    rw [(Synthetic.pollAt_of_rate_none hstarted hrate now).1] at hsame
    cases hawaiting : stream.awaiting with
    | nil => simp [isLive, Synthetic.isLive, hstarted, hrate, hawaiting]
    | cons asked others =>
      -- the first answer would have changed the store
      obtain ⟨response, dice, hanswers⟩ :=
        Synthetic.exists_answerFlows_cons_eq stream.dice asked others
      rw [hawaiting, hanswers, FlowStore.value_applyAll_cons, Bool.or_eq_false_iff] at hsame
      have hupsert : (store.upsert { asked with response := some response }).2.isChange = false :=
        hsame.1
      rcases FlowStore.upsert_cases hindexed { asked with response := some response } with
        ⟨hmem, -⟩ | ⟨i, old, -, -, -, hupdated⟩ | ⟨-, hadded⟩
      · have hnone := hunanswered hrate asked (hawaiting ▸ List.mem_cons_self) _ hmem rfl
        cases hnone
      · rw [hupdated] at hupsert
        cases hupsert
      · rw [hadded] at hupsert
        cases hupsert

end Source

end Capture

namespace App

variable {a b polled : App} {contents : FileState} {now : Int}

/-! ## Turns of the event loop -/

/-- What the event loop is told in one turn. -/
inductive Turn where
  | key (key : KeyEvent)
  | mouse (mouse : MouseEvent)
  /-- The terminal has got another size, and says so. -/
  | resize (width height : Nat)
  /-- An event that means nothing to the application. -/
  | other
  /-- A tick of the clock, with the capture file as it stands then. -/
  | tick (contents : FileState) (now : Int)

/-- The application and the display after one turn; nothing where it ends the loop. -/
def turn (state : App × Screen.Buffer) : Turn → Option (App × Screen.Buffer)
  | .key key =>
    let handled := (state.1.handleKey key).value
    if handled.2 then none else some (handled.1.draw state.2).value
  | .mouse mouse => some ((state.1.handleMouse mouse).value.draw state.2).value
  | .resize width height =>
    some ((state.1.resize width height).value.draw (state.2.resize width height)).value
  | .other => some state
  | .tick contents now =>
    match (state.1.poll contents now).value with
    | (_, .error _) => none
    | (polled, .ok changed) =>
      if changed || polled.blink.source.isLive then some (polled.blink.draw state.2).value
      else some (polled.blink, state.2)

/-- The store is exact, and the source that feeds it is settled. -/
structure Fed (a : App) : Prop where
  /-- The index of the store is exact. -/
  indexed : a.store.Indexed
  /-- The source has been polled. -/
  settled : a.source.Settled a.store

/-- The application has the flows and the source of another one. -/
def SameFlows (a b : App) : Prop := b.store = a.store ∧ b.source = a.source

lemma SameFlows.fed (h : SameFlows a b) (ha : Fed a) : Fed b := by
  obtain ⟨hstore, hsource⟩ := h
  exact ⟨hstore ▸ ha.indexed, hstore ▸ hsource ▸ ha.settled⟩

/-- Keys leave the flows and the source alone. -/
lemma sameFlows_handleKey (a : App) (key : KeyEvent) : SameFlows a (a.handleKey key).value.1 := by
  have hact (action : KeyAction) : SameFlows a (a.act action).value := by
    unfold act
    split
    · exact ⟨rfl, rfl⟩
    · split <;> exact ⟨rfl, rfl⟩
  unfold handleKey
  split
  · exact ⟨rfl, rfl⟩
  · exact ⟨rfl, rfl⟩
  · exact hact _

/-- So does the mouse. -/
lemma sameFlows_handleMouse (a : App) (mouse : MouseEvent) :
    SameFlows a (a.handleMouse mouse).value := by
  unfold handleMouse
  dsimp only
  split
  · exact ⟨rfl, rfl⟩
  · exact ⟨rfl, rfl⟩
  · unfold click
    split <;> exact ⟨rfl, rfl⟩
  · exact ⟨rfl, rfl⟩

/-- So does drawing. -/
lemma sameFlows_draw (a : App) (display : Screen.Buffer) :
    SameFlows a (a.draw display).value.1 := by
  have hprepare : SameFlows a (a.prepare display.width display.height).value := by
    unfold prepare
    split <;> exact ⟨rfl, rfl⟩
  exact hprepare

/-- A blinking indicator is no other source. -/
lemma sameFlows_blink (a : App) : SameFlows a a.blink := by
  unfold blink
  split <;> exact ⟨rfl, rfl⟩

/-! ## Polls -/

/-- A poll that succeeds is one of the source, whose messages are taken in. -/
lemma poll_eq_ok {changed : Bool} (h : (a.poll contents now).value = (polled, .ok changed)) :
    ∃ source messages, (a.source.poll contents now).value = (source, .ok messages) ∧
      ({ a with source }.ingest messages).value = (polled, changed) := by
  rw [value_poll] at h
  rcases hdelivered : (a.source.poll contents now).value with ⟨source, e | messages⟩
  · rw [hdelivered] at h
    cases h
  · rw [hdelivered] at h
    obtain ⟨hpolled, hchanged⟩ := Prod.mk.inj h
    exact ⟨source, messages, rfl, Prod.ext hpolled (Except.ok.inj hchanged)⟩

/-- What is stored after a poll are the messages applied to what was stored before. -/
lemma store_ingest (a : App) (messages : List Message) :
    (a.ingest messages).value.1.store = (a.store.applyAll messages).value.1 ∧
      (a.ingest messages).value.1.source = a.source := by
  rw [value_ingest]
  split <;> exact ⟨rfl, rfl⟩

/-- A poll of a stream succeeds; without messages it changes nothing. -/
lemma exists_poll_synthetic_eq {stream : Capture.Synthetic} (hsource : a.source = .synthetic stream)
    (contents : FileState) (now : Int) :
    ∃ polled changed, (a.poll contents now).value = (polled, .ok changed) ∧
      polled.source = .synthetic (stream.pollAt now).2 ∧
      ((stream.pollAt now).1 = [] → changed = false) := by
  have hdelivered : (a.source.poll contents now).value =
      (.synthetic (stream.pollAt now).2, .ok (stream.pollAt now).1) := by
    rw [hsource]
    rfl
  rw [value_poll, hdelivered]
  refine ⟨_, _, rfl, (store_ingest _ _).2, fun hnone => ?_⟩
  rw [hnone, value_ingest, FlowStore.value_applyAll_nil]
  rfl

/-- An application that has started is fed. -/
lemma fed_start {source : Capture.Source} (hsource : source.Genuine) {options : AppOptions}
    {width height : Nat} (hstart : (start source options width height contents now).value = .ok a) :
    Fed a := by
  set laidOut := ((ofOptions source options width height).resize width height).value
  have hempty : laidOut.store = .empty := rfl
  have hlaidOut : laidOut.source = source := rfl
  rw [value_start] at hstart
  rcases hpoll : (laidOut.poll contents now).value with ⟨polled, e | changed⟩
  · rw [hpoll] at hstart
    cases hstart
  · rw [hpoll] at hstart
    cases hstart
    obtain ⟨after, messages, hdelivered, hingest⟩ := poll_eq_ok hpoll
    obtain ⟨hstore, hafter⟩ := store_ingest { laidOut with source := after } messages
    rw [hingest] at hstore hafter
    rw [hlaidOut] at hdelivered
    exact
      { indexed := hstore ▸ (FlowStore.applyAll_spec (hempty ▸ FlowStore.indexed_empty) messages).1
        settled := by
          rw [hstore, hafter, hempty]
          exact hsource.settled hdelivered }

/-- A poll keeps an application fed. -/
lemma Fed.poll (h : Fed a) {changed : Bool}
    (hpoll : (a.poll contents now).value = (polled, .ok changed)) : Fed polled := by
  obtain ⟨source, messages, hdelivered, hingest⟩ := poll_eq_ok hpoll
  obtain ⟨hstore, hsource⟩ := store_ingest { a with source } messages
  rw [hingest] at hstore hsource
  exact
    { indexed := hstore ▸ (FlowStore.applyAll_spec h.indexed messages).1
      settled := hsource ▸ h.settled.poll _ hdelivered }

/-- A tick without a frame changes nothing that is shown. -/
lemma Fed.scene_eq_of_quiet (h : Fed a)
    (hpoll : (a.poll contents now).value = (polled, .ok false))
    (hlive : polled.blink.source.isLive = false) :
    polled.blink.scene = a.scene ∧
      ∃ source store, polled.blink = { a with source, store } := by
  obtain ⟨source, messages, hdelivered, hingest⟩ := poll_eq_ok hpoll
  rw [value_ingest] at hingest
  split at hingest
  · cases congrArg Prod.snd hingest
  · rename_i hsame
    cases hingest
    have hsame : (a.store.applyAll messages).value.2 = false := Bool.eq_false_iff.mpr hsame
    rw [(sameFlows_blink _).2] at hlive
    have hbefore := h.settled.isLive_eq h.indexed hdelivered hsame hlive
    have hflows : (a.store.applyAll messages).value.1.flows = a.store.flows :=
      Array.toList_inj.mp ((FlowStore.applyAll_spec h.indexed messages).2 hsame)
    rw [blink, if_neg (by simpa using hlive)]
    refine ⟨?_, source, _, rfl⟩
    simp only [scene, hflows, hbefore, hlive]

/-! ## Nothing stale -/

/-- The display shows the application as it is: drawing again changes nothing, the frame that it
shows is the one that would be rendered now, and so it will be after a tick that skips the frame. -/
structure Current (a : App) (display : Screen.Buffer) : Prop where
  /-- Drawing again has no effect. -/
  redraw_eq : (a.draw display).value = (a, display)
  /-- The last frame is what would be rendered now. -/
  shown_eq : a.canvas.shown = a.scene.render display.width display.height
  /-- Where a tick skips the frame, the next one would show the same. -/
  quiet : ∀ contents now polled, (a.poll contents now).value = (polled, .ok false) →
    polled.blink.source.isLive = false → polled.blink.scene = a.scene

variable {display shown : Screen.Buffer}

lemma Painted.current (h : Painted a display) (hfed : Fed a) : Current a display where
  redraw_eq := h.draw_eq
  shown_eq := h.shown_eq
  quiet _ _ _ hpoll hlive := (hfed.scene_eq_of_quiet hpoll hlive).1

/-- After drawing the display shows the application, which is still fed. -/
lemma Fed.draw (h : Fed a) (hdraw : (a.draw display).value = (b, shown)) :
    Fed b ∧ Painted b shown := by
  have hfed := (sameFlows_draw a display).fed h
  have hpainted := painted_draw a display
  rw [hdraw] at hfed hpainted
  exact ⟨hfed, hpainted⟩

/-- Every turn leaves a display that shows the application. -/
lemma Fed.turn (h : Fed a) (hpainted : Painted a display) {t : Turn}
    (hturn : turn (a, display) t = some (b, shown)) : Fed b ∧ Painted b shown := by
  cases t with
  | key key =>
    rw [App.turn] at hturn
    split at hturn
    · cases hturn
    · exact ((sameFlows_handleKey a key).fed h).draw (Option.some.inj hturn)
  | mouse mouse => exact ((sameFlows_handleMouse a mouse).fed h).draw (Option.some.inj hturn)
  | resize width height =>
    have hsame : SameFlows a (a.resize width height).value := ⟨rfl, rfl⟩
    exact (hsame.fed h).draw (Option.some.inj hturn)
  | other =>
    cases hturn
    exact ⟨h, hpainted⟩
  | tick contents now =>
    rw [App.turn] at hturn
    split at hturn
    · cases hturn
    · rename_i polled changed hpoll
      have hfed : Fed polled.blink := (sameFlows_blink polled).fed (h.poll hpoll)
      split at hturn
      · exact hfed.draw (Option.some.inj hturn)
      · rename_i hskipped
        obtain ⟨rfl, hlive⟩ : changed = false ∧ polled.blink.source.isLive = false := by
          simpa using hskipped
        cases hturn
        obtain ⟨hscene, source, store, hkept⟩ := h.scene_eq_of_quiet hpoll hlive
        refine ⟨hfed, ?_⟩
        have hshown := hpainted.shown_eq.trans (congrArg
          (fun scene => Screen.Scene.render scene display.width display.height) hscene.symm)
        rw [hkept] at hshown ⊢
        exact { hpainted with shown_eq := hshown }

/-- So does every sequence of turns. -/
lemma Fed.turns (h : Fed a) (hpainted : Painted a display) {turns : List Turn}
    (hturns : turns.foldlM App.turn (a, display) = some (b, shown)) : Fed b ∧ Painted b shown := by
  induction turns generalizing a display with
  | nil =>
    cases hturns
    exact ⟨h, hpainted⟩
  | cons t turns ih =>
    rw [List.foldlM_cons] at hturns
    obtain ⟨⟨between, display'⟩, hturn, hrest⟩ := Option.bind_eq_some_iff.mp hturns
    obtain ⟨hfed, hshows⟩ := h.turn hpainted hturn
    exact ih hfed hshows hrest

end App

/-! ## Sessions -/

namespace Console

/-- The frames that have been drawn, in order. -/
def frames (c : Console) : List Screen.Buffer :=
  c.trace.toList.filterMap fun
    | .frame display => some display
    | _ => none

/-- The display is as the last frame has left it. -/
def ShowsLastFrame (c : Console) : Prop := c.frames.getLast? = some c.display

/-- A frame that has just been drawn is the last one. -/
lemma showsLastFrame_record (c : Console) (display : Screen.Buffer) :
    ({ c with display }.record (.frame display)).ShowsLastFrame := by
  simp [ShowsLastFrame, frames, record]

/-- Taking a script item draws no frame. -/
lemma frames_take (c : Console) (millis : Nat) : (c.take millis).frames = c.frames := by
  simp [frames, take, record]

end Console

namespace SessionStep

variable {α β : Type} {c after : Console}

/-- A step that goes on has succeeded before. -/
lemma exists_answers_of_bind {x : SessionStep α} {f : α → SessionStep β} {b : β}
    (h : ((x >>= f) c).value = (after, .ok b)) :
    ∃ between a, (x c).value = (between, .ok a) ∧ (f a between).value = (after, .ok b) := by
  rw [value_bind] at h
  rcases hstep : (x c).value with ⟨between, e | a⟩
  · rw [hstep] at h
    cases h
  · rw [hstep] at h
    exact ⟨between, a, rfl, h⟩

/-- Noting events changes nothing but files. -/
lemma ofLogged_eq_ok {x : Logged α} {a : α} (h : (ofLogged x c).value = (after, .ok a)) :
    (∃ files, after = { c with files }) ∧ a = x.value := by
  cases h
  exact ⟨⟨_, c.write_frame x.events⟩, rfl⟩

/-- An operation that works changes nothing. -/
lemma operate_eq_ok {name : String} {u : Unit} (h : (operate name c).value = (after, .ok u)) :
    after = c := by
  rw [operate] at h
  split at h
  · cases h
  · cases h
    rfl

/-- The size told is that of the display. -/
lemma size_eq_ok {size : Nat × Nat} (h : (SessionStep.size c).value = (after, .ok size)) :
    after = c ∧ size = (c.display.width, c.display.height) := by
  rw [value_size] at h
  split at h
  · cases h
  · cases h
    exact ⟨rfl, rfl⟩

end SessionStep

namespace Session

open SessionStep App

variable {a b : App} {c after : Console}

/-- What a session draws is what its application draws on the display. -/
lemma draw_eq_ok (h : (draw a c).value = (after, .ok b)) :
    (a.draw c.display).value = (b, after.display) ∧ after.ShowsLastFrame := by
  obtain ⟨sized, size, hsize, h⟩ := exists_answers_of_bind h
  obtain ⟨rfl, rfl⟩ := size_eq_ok hsize
  obtain ⟨noted, prepared, hprepared, h⟩ := exists_answers_of_bind h
  obtain ⟨⟨files, rfl⟩, rfl⟩ := ofLogged_eq_ok hprepared
  obtain ⟨worked, u, hworked, h⟩ := exists_answers_of_bind h
  obtain rfl := operate_eq_ok hworked
  cases h
  exact ⟨rfl, Console.showsLastFrame_record _ _⟩

/-- So it is where the event loop goes on with what has been drawn. -/
lemma drawn_eq_ok (h : ((do return some (← draw a)) c).value = (after, .ok (some b))) :
    (a.draw c.display).value = (b, after.display) ∧ after.ShowsLastFrame := by
  obtain ⟨drawn, next, hdraw, hgone⟩ := exists_answers_of_bind h
  cases hgone
  exact draw_eq_ok hdraw

/-- Handling an input event is a turn of the event loop. -/
lemma exists_turn_of_handle {input : Input} (hshows : c.ShowsLastFrame)
    (h : (handle a input c).value = (after, .ok (some b))) :
    (∃ t, turn (a, c.display) t = some (b, after.display)) ∧ after.ShowsLastFrame := by
  cases input with
  | key key =>
    obtain ⟨noted, handled, hhandled, h⟩ := exists_answers_of_bind h
    obtain ⟨⟨files, rfl⟩, rfl⟩ := ofLogged_eq_ok hhandled
    dsimp only at h
    split at h
    · cases h
    · rename_i hquit
      obtain ⟨hdraw, hlast⟩ := drawn_eq_ok h
      exact ⟨⟨.key key, (if_neg hquit).trans (congrArg some hdraw)⟩, hlast⟩
  | mouse mouse =>
    obtain ⟨noted, handled, hhandled, h⟩ := exists_answers_of_bind h
    obtain ⟨⟨files, rfl⟩, rfl⟩ := ofLogged_eq_ok hhandled
    obtain ⟨hdraw, hlast⟩ := drawn_eq_ok h
    exact ⟨⟨.mouse mouse, congrArg some hdraw⟩, hlast⟩
  | resize width height =>
    obtain ⟨resized, u, hresized, h⟩ := exists_answers_of_bind h
    cases hresized
    obtain ⟨noted, laidOut, hlaidOut, h⟩ := exists_answers_of_bind h
    obtain ⟨⟨files, rfl⟩, rfl⟩ := ofLogged_eq_ok hlaidOut
    obtain ⟨hdraw, hlast⟩ := drawn_eq_ok h
    exact ⟨⟨.resize width height, congrArg some hdraw⟩, hlast⟩
  | other =>
    cases h
    exact ⟨⟨.other, rfl⟩, hshows⟩

/-- So is a tick. -/
lemma exists_turn_of_tick {now : Int} (hshows : c.ShowsLastFrame)
    (h : (tick a now c).value = (after, .ok b)) :
    (∃ t, turn (a, c.display) t = some (b, after.display)) ∧ after.ShowsLastFrame := by
  obtain ⟨looked, contents, hlooked, hafter⟩ := exists_answers_of_bind h
  cases hlooked
  obtain ⟨noted, ⟨polled, outcome⟩, hnoted, hknown⟩ := exists_answers_of_bind hafter
  obtain ⟨⟨files, rfl⟩, hpolled⟩ := ofLogged_eq_ok hnoted
  obtain ⟨known, changed, houtcome, hshown⟩ := exists_answers_of_bind hknown
  cases outcome with
  | error e => cases houtcome
  | ok outcome =>
    cases houtcome
    have hturn : turn (a, c.display) (.tick c.capture now) =
        if changed || polled.blink.source.isLive then some (polled.blink.draw c.display).value
        else some (polled.blink, c.display) := by
      have hpoll : (a.poll c.capture now).value = (polled, .ok changed) := hpolled.symm
      simp only [turn, hpoll]
    dsimp only at hshown
    split at hshown
    · obtain ⟨hdraw, hlast⟩ := draw_eq_ok hshown
      exact ⟨⟨_, hturn.trans ((if_pos ‹_›).trans (congrArg some hdraw))⟩, hlast⟩
    · cases hshown
      exact ⟨⟨_, hturn.trans (if_neg ‹_›)⟩, hshows⟩

/-- A step of a session that does not resize the terminal unnoticed is a turn of the event loop, and
the last frame stays on the display. -/
lemma exists_turn_of_step {item : ScriptItem}
    (hitem : ∀ width height, item ≠ .quietResize width height) (hshows : c.ShowsLastFrame)
    (h : (step a item c).value = (after, .ok (some b))) :
    (∃ t, turn (a, c.display) t = some (b, after.display)) ∧ after.ShowsLastFrame := by
  obtain ⟨taken, u, htaken, hafter⟩ := exists_answers_of_bind h
  cases htaken
  have htaken : (c.take a.tickMillis).ShowsLastFrame := by
    rw [Console.ShowsLastFrame, Console.frames_take]
    exact hshows
  cases item with
  | input input =>
    have hhandled := exists_turn_of_handle htaken hafter
    exact hhandled
  | tick now =>
    obtain ⟨ticked, b', hticked, hanswer⟩ := exists_answers_of_bind hafter
    cases hanswer
    have hturn := exists_turn_of_tick htaken hticked
    exact hturn
  | failure text => cases hafter
  | quietResize width height => exact absurd rfl (hitem width height)
  | fileChange f =>
    cases hafter
    exact ⟨⟨.other, rfl⟩, htaken⟩
  | breakage failures =>
    cases hafter
    exact ⟨⟨.other, rfl⟩, htaken⟩

/-- A script of such items is a sequence of turns. -/
lemma exists_turns_of_advance {script : List ScriptItem}
    (hscript : ∀ item ∈ script, ∀ width height, item ≠ .quietResize width height)
    (hshows : c.ShowsLastFrame) (h : (advance a script c).value = (after, .ok (some b))) :
    (∃ turns : List Turn, turns.foldlM turn (a, c.display) = some (b, after.display)) ∧
      after.ShowsLastFrame := by
  induction script generalizing a c with
  | nil =>
    cases h
    exact ⟨⟨[], rfl⟩, hshows⟩
  | cons item script ih =>
    rw [List.forall_mem_cons] at hscript
    obtain ⟨between, next, hstep, hrest⟩ := exists_answers_of_bind h
    cases next with
    | none => cases hrest
    | some next =>
      obtain ⟨⟨t, ht⟩, hbetween⟩ := exists_turn_of_step hscript.1 hshows hstep
      obtain ⟨⟨turns, hturns⟩, hlast⟩ := ih hscript.2 hbetween hrest
      refine ⟨⟨t :: turns, ?_⟩, hlast⟩
      rw [List.foldlM_cons, ht]
      exact hturns

/-- A session starts with an application that is fed. -/
lemma fed_of_start {source : Capture.Source} (hsource : source.Genuine) {options : AppOptions}
    (h : (start source options c).value = (after, .ok a)) : Fed a := by
  obtain ⟨taken, u, -, hsized⟩ := exists_answers_of_bind h
  obtain ⟨sized, size, -, hlooked⟩ := exists_answers_of_bind hsized
  obtain ⟨looked, contents, -, hnoted⟩ := exists_answers_of_bind hlooked
  obtain ⟨noted, outcome, hstart, houtcome⟩ := exists_answers_of_bind hnoted
  obtain ⟨-, hstarted⟩ := ofLogged_eq_ok hstart
  cases outcome with
  | error e => cases houtcome
  | ok started =>
    cases houtcome
    exact fed_start hsource hstarted.symm

/-- **No stale frame.**  After the first frame, and after every turn of the event loop that does not
end it, the display shows the application as it is, whatever the times and the capture files of the
ticks.  The same holds at every point of a session whose terminal is not resized unnoticed, and there
the display is as the last frame has left it. -/
theorem no_stale_frame (source : Capture.Source) (hsource : source.Genuine) (options : AppOptions) :
    (∀ (width height : Nat) (contents : FileState) (now : Int) (a : App),
      (App.start source options width height contents now).value = .ok a →
        ∀ (display : Screen.Buffer) (turns : List Turn) (b : App) (shown : Screen.Buffer),
          turns.foldlM turn (a.draw display).value = some (b, shown) → b.Current shown) ∧
    ∀ (script : List ScriptItem) (c after : Console) (b : App),
      (∀ item ∈ script, ∀ width height, item ≠ .quietResize width height) →
        ((do advance (← draw (← start source options)) script) c).value = (after, .ok (some b)) →
          after.ShowsLastFrame ∧ b.Current after.display := by
  constructor
  · intro width height contents now a hstart display turns b shown hturns
    obtain ⟨hfed, hpainted⟩ := (fed_start hsource hstart).draw (Prod.ext rfl rfl)
    obtain ⟨hlast, hshows⟩ := hfed.turns hpainted hturns
    exact hshows.current hlast
  · intro script c after b hscript hreached
    obtain ⟨begun, a, hstart, hreached⟩ := exists_answers_of_bind hreached
    obtain ⟨first, drawn, hdraw, hreached⟩ := exists_answers_of_bind hreached
    obtain ⟨hdraw, hfirst⟩ := draw_eq_ok hdraw
    obtain ⟨hfed, hpainted⟩ := (fed_of_start hsource hstart).draw hdraw
    obtain ⟨⟨turns, hturns⟩, hlast⟩ := exists_turns_of_advance hscript hfirst hreached
    obtain ⟨hend, hshows⟩ := hfed.turns hpainted hturns
    exact ⟨hlast, hshows.current hend⟩

/-! ## A tick without a frame -/

/-- A frame is drawn where every operation of the terminal works, and they go on working. -/
lemma exists_draw_eq (a : App) (hc : c.failures = []) :
    ∃ after b, (draw a c).value = (after, .ok b) ∧ after.failures = [] ∧ b.source = a.source := by
  obtain ⟨after, b, hdraw, hworks⟩ :
      ∃ after b, (draw a c).value = (after, .ok b) ∧ after.failures = [] := by
    rw [draw, value_bind, value_size, hc]
    simp only [List.lookup_nil]
    rw [value_bind, ofLogged]
    simp only
    rw [value_bind, operate, Console.write_frame, hc]
    exact ⟨_, _, rfl, rfl⟩
  have hsame := sameFlows_draw a c.display
  rw [(draw_eq_ok hdraw).1] at hsame
  exact ⟨after, b, hdraw, hworks, hsame.2⟩

/-- A terminal that tells its new size is drawn on anew. -/
lemma exists_step_resize_eq (a : App) (hc : c.failures = []) (width height : Nat) :
    ∃ after b, (step a (.input (.resize width height)) c).value = (after, .ok (some b)) ∧
      after.failures = [] ∧ b.source = a.source := by
  set resized : Console := (c.take a.tickMillis).withSize width height
  set noted : Console := resized.write (a.resize width height).events with hnoted
  have hworks : noted.failures = [] := by
    rw [hnoted, Console.write_frame]
    exact hc
  obtain ⟨after, b, hdraw, hlast, hsource⟩ := exists_draw_eq (a.resize width height).value hworks
  have hstep : (step a (.input (.resize width height)) c).value =
      ((draw (a.resize width height).value >>= fun b => pure (some b)) noted).value := rfl
  rw [hstep, value_bind, hdraw]
  exact ⟨after, b, rfl, hlast, hsource⟩

/-- What a tick does after a poll that succeeds. -/
lemma value_step_tick {polled : App} {changed : Bool} {now : Int}
    (hpoll : (a.poll c.capture now).value = (polled, .ok changed)) :
    ∃ noted : Console, noted.failures = c.failures ∧ noted.frames = c.frames ∧
      (step a (.tick now) c).value =
        if changed || polled.blink.source.isLive then
          ((draw polled.blink >>= fun b => pure (some b)) noted).value
        else (noted, .ok (some polled.blink)) := by
  set noted : Console := (c.take a.tickMillis).write (a.poll c.capture now).events with hnoted
  have hframe : noted = { c.take a.tickMillis with files := noted.files } :=
    Console.write_frame ..
  refine ⟨noted, ?_, ?_, ?_⟩
  · rw [hframe]
    rfl
  · rw [hframe]
    exact c.frames_take a.tickMillis
  · have htick : (tick a now (c.take a.tickMillis)).value =
        if changed || polled.blink.source.isLive then (draw polled.blink noted).value
        else (noted, .ok polled.blink) := by
      rw [tick, value_bind, look]
      simp only [Logged.value_pure]
      rw [value_bind, ofLogged]
      simp only
      have hcapture : (c.take a.tickMillis).capture = c.capture := rfl
      have hknown : (inputOutcome (.ok changed) noted).value = (noted, .ok changed) := rfl
      rw [hcapture, hpoll, value_bind, hknown]
      dsimp only
      split <;> rfl
    have hstep : (step a (.tick now) c).value =
        ((tick a now >>= fun b => pure (some b)) (c.take a.tickMillis)).value := rfl
    rw [hstep, value_bind, htick]
    by_cases hdraw : (changed || polled.blink.source.isLive) = true
    · rw [if_pos hdraw, if_pos hdraw, value_bind]
    · rw [if_neg hdraw, if_neg hdraw]
      rfl

/-- A tick whose poll changes nothing, of a source that has ended, draws no frame. -/
lemma exists_step_tick_eq_of_quiet {polled : App} {now : Int}
    (hpoll : (a.poll c.capture now).value = (polled, .ok false))
    (hlive : polled.blink.source.isLive = false) :
    ∃ after, (step a (.tick now) c).value = (after, .ok (some polled.blink)) ∧
      after.frames = c.frames := by
  obtain ⟨noted, -, hframes, hstep⟩ := value_step_tick hpoll
  exact ⟨noted, hstep.trans (if_neg (by simp [hlive])), hframes⟩

/-- A tick is carried out where every operation of the terminal works, if its poll succeeds. -/
lemma exists_step_tick_eq {polled : App} {changed : Bool} {now : Int} (hc : c.failures = [])
    (hpoll : (a.poll c.capture now).value = (polled, .ok changed)) :
    ∃ after b, (step a (.tick now) c).value = (after, .ok (some b)) ∧ after.failures = [] ∧
      b.source = polled.source := by
  obtain ⟨noted, hworks, -, hstep⟩ := value_step_tick hpoll
  rw [hc] at hworks
  obtain ⟨after, b, hdraw, hlast, hsource⟩ := exists_draw_eq polled.blink hworks
  rw [(sameFlows_blink polled).2] at hsource
  rw [hstep]
  split
  · rw [value_bind, hdraw]
    exact ⟨after, b, rfl, hlast, hsource⟩
  · exact ⟨noted, polled.blink, rfl, hworks, (sameFlows_blink polled).2⟩

/-- A session over synthetic traffic, whose terminal shrinks after the first frame and says so.  The
first tick brings the answers that are still awaited, and the source ends.  The second one draws no
frame, and the display is still up to date. -/
theorem no_stale_frame_after_shrinking :
    let source : Capture.Source := .synthetic (.start 2 none)
    let options : AppOptions := ⟨.default, 250, .monochrome⟩
    let c : Console := ⟨.blank 40 10, [], .empty, "c", "", none, 0, #[]⟩
    let script : List ScriptItem := [.input (.resize 20 3), .tick 250000000]
    let reached := fun script : List ScriptItem =>
      ((do advance (← draw (← start source options)) script) c).value
    source.Genuine ∧ ∃ before a after b,
      reached script = (before, .ok (some a)) ∧
        reached (script ++ [.tick 500000000]) = (after, .ok (some b)) ∧
          after.frames = before.frames ∧ after.ShowsLastFrame ∧ b.Current after.display := by
  intro source options c script reached
  have hsource : source.Genuine := ⟨2, none, [], rfl⟩
  have hscript : ∀ item ∈ script ++ [.tick 500000000],
      ∀ width height, item ≠ .quietResize width height := by
    simp [script]
  set stream := ((Capture.Synthetic.start 2 none).pollAt 0).2 with hdelivered
  obtain ⟨hstarted, hrate⟩ : stream.started = true ∧ stream.rate = none :=
    Capture.Synthetic.started_pollAt _ 0
  obtain ⟨begun, loaded, hstart, hworks, hloaded⟩ : ∃ begun loaded,
      (start source options c).value = (begun, .ok loaded) ∧ begun.failures = [] ∧
        loaded.source = .synthetic stream :=
    ⟨_, _, rfl, rfl, rfl⟩
  obtain ⟨first, drawn, hdraw, hfirst, hdrawn⟩ := exists_draw_eq loaded hworks
  obtain ⟨shrunk, resized, hresize, hshrunk, hresized⟩ := exists_step_resize_eq drawn hfirst 20 3
  -- the first tick answers everything, so that the second one finds nothing to be delivered
  obtain ⟨polled, changed, hpoll, hpolled, -⟩ := exists_poll_synthetic_eq
    (hresized.trans (hdrawn.trans hloaded)) shrunk.capture 250000000
  obtain ⟨before, a, htick, hbefore, ha⟩ := exists_step_tick_eq hshrunk hpoll
  obtain ⟨hstarted', hrate'⟩ := stream.started_pollAt 250000000
  have hanswered := (Capture.Synthetic.pollAt_of_rate_none hstarted hrate 250000000).2
  obtain ⟨hnothing, hended⟩ := Capture.Synthetic.pollAt_of_awaiting_nil hstarted'
    (hrate'.trans hrate) hanswered 500000000
  obtain ⟨quiet, unchanged, hquiet, hsource', hsame⟩ :=
    exists_poll_synthetic_eq (ha.trans hpolled) before.capture 500000000
  obtain rfl := hsame hnothing
  have hlive : quiet.blink.source.isLive = false := by
    rw [(sameFlows_blink quiet).2, hsource']
    exact hended
  obtain ⟨after, hskip, hframes⟩ := exists_step_tick_eq_of_quiet hquiet hlive
  have hreached : ∀ more, reached (script ++ more) = (advance a more before).value := by
    intro more
    simp only [reached, script, List.cons_append, List.nil_append]
    rw [value_bind, hstart]
    simp only
    rw [value_bind, hdraw]
    simp only [advance]
    rw [value_bind, hresize]
    simp only
    rw [value_bind, htick]
  have hbegin : reached script = (before, .ok (some a)) := by
    have hnone := hreached []
    rwa [List.append_nil] at hnone
  have hlast : reached (script ++ [.tick 500000000]) = (after, .ok (some quiet.blink)) := by
    rw [hreached, advance, value_bind, hskip]
    rfl
  obtain ⟨hshown, hcurrent⟩ := (no_stale_frame source hsource options).2 _ c after _ hscript hlast
  exact ⟨hsource, before, a, after, quiet.blink, hbegin, hlast, hframes, hshown, hcurrent⟩

end Session

end FlowWatch
