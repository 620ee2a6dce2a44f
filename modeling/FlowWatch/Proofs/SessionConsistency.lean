import Mathlib
import FlowWatch.Session
import FlowWatch.Proofs.DerivedView
import FlowWatch.Proofs.RowGeometry
import FlowWatch.Proofs.StoreOrder

/-!
# Store, table and screen over whole sessions

The view of the table holds places in the store, and the store changes under it.  After every event
of a session the two belong together (`App.Consistent`).

An application asks only a few things of its table, and always with its own store (`App.Asks`).
Each of them keeps what is shown with what is stored (`App.Shown.asked`).  A poll tells the table of
every change, and one that reports no change has left the flows as they were (`App.Sound.ingest`).
That the table also fills its place on the screen (`App.Sound`) begins with the first layout and is
renewed by every other one.  The events of an application and the steps of a session are made of
these, so that both keep the invariant (`App.Sound.run`, `Session.yields_advance`).
-/

namespace FlowWatch

/-! ## Rows and selected flows -/

/-- An identity in a row of a derived view is one of the flows. -/
lemma OrderedView.exists_of_idAt_derive {flows : Array Flow} {spec : FilterSpec} {index : Nat}
    {id : FlowId} (h : (derive flows spec).idAt index = some id) :
    ∃ flow ∈ flows.toList, flow.id = id := by
  rw [idAt_derive, Option.map_eq_some_iff] at h
  obtain ⟨⟨flow, position⟩, hrow, rfl⟩ := h
  obtain ⟨hflow, -⟩ := mem_admittedRows.mp (List.mem_of_getElem? hrow)
  rw [← Array.getElem?_toList] at hflow
  exact ⟨flow, List.mem_of_getElem? hflow, rfl⟩

/-- Moving the selection selects one row of the view, or nothing. -/
lemma Selection.selectRelative_cases (s : Selection) (view : OrderedView) (shift : Int) :
    (s.selectRelative view shift).selected = [] ∨
      ∃ index id, view.idAt index = some id ∧ (s.selectRelative view shift).selected = [id] := by
  unfold selectRelative
  split
  · exact .inl rfl
  · dsimp only
    split
    · rename_i id hid
      exact .inr ⟨_, id, hid, s.select_singleton id⟩
    · exact .inl rfl

namespace App

/-! ## Events -/

/-- What can happen to an application. -/
inductive Event where
  | key (key : KeyEvent)
  | mouse (mouse : MouseEvent)
  | resize (width height : Nat)
  /-- A tick of the clock, with the capture file as it stands then. -/
  | tick (contents : FileState) (now : Int)
  /-- A frame is drawn on a display. -/
  | draw (display : Screen.Buffer)

/-- The application after an event. -/
def after (a : App) : Event → App
  | .key key => (a.handleKey key).value.1
  | .mouse mouse => (a.handleMouse mouse).value
  | .resize width height => (a.resize width height).value
  | .tick contents now =>
    match (a.poll contents now).value with
    | (polled, .ok _) => polled.blink
    | (polled, .error _) => polled
  | .draw display => (a.draw display).value.1

/-- The application after a sequence of events. -/
def run (a : App) (events : List Event) : App := events.foldl after a

/-- Store, table and screen belong together. -/
structure Consistent (a : App) : Prop where
  /-- The view is the one derived from the stored flows. -/
  view_eq : a.controller.view = .derive a.store.flows a.controller.filter
  /-- At most one flow is selected. -/
  selected_le : a.controller.selection.selected.length ≤ 1
  /-- A selected flow is stored. -/
  selected_stored : ∀ id ∈ a.controller.selection.selected, a.store.contains id = true
  /-- The viewport is as high as the table on the screen, and lies inside the scroll extent. -/
  measured : ∃ v, a.controller.viewport = some v ∧ v.height = a.tableArea.height ∧
    0 ≤ v.top ∧ v.top ≤ maxScrollTop a.controller.scrollExtent v.height
  /-- The visible rows are those of the window in order, each with the stored flow that the view
  names there. -/
  visible_eq :
    (a.controller.visibleRecords a.store.flows).map (fun row => (row.1, some row.2)) =
      (List.range' a.controller.window.start a.controller.window.len).map fun index =>
        (index, (a.controller.view.idAt index).bind a.store.get?)

/-! ## The invariant -/

/-- The table shows what is stored. -/
structure Shown (settings : TableSettings) (a : App) : Prop where
  /-- The table has been told of the stored flows, and of no measured row. -/
  coherent : a.controller.Coherent settings ⟨a.store.flows, a.controller.filter, #[]⟩
  /-- The index of the store is exact. -/
  indexed : a.store.Indexed
  /-- At most one flow is selected. -/
  selected_le : a.controller.selection.selected.length ≤ 1
  /-- A selected flow is stored. -/
  selected_stored : ∀ id ∈ a.controller.selection.selected, ∃ flow ∈ a.store.toList, flow.id = id

/-- The table shows what is stored and fills its place on the screen. -/
structure Sound (settings : TableSettings) (a : App) : Prop extends Shown settings a where
  /-- The viewport is as high as the table on the screen. -/
  height_eq : a.controller.viewport.map Viewport.height = some a.tableArea.height

variable {settings : TableSettings} {a : App}

/-- What an application asks of its table while its store stays as it is. -/
inductive Asks (a : App) : Controller.Call → Prop
  | scrollBy (delta : Int) : Asks a (.scrollBy delta)
  | resize (height : Nat) : Asks a (.resize height)
  | setFilter (filter : FilterSpec) : Asks a (.setFilter filter a.store.flows)
  /-- A click selects the flow of a row. -/
  | select {index : Nat} {id : FlowId} (hrow : a.controller.view.idAt index = some id) :
    Asks a (.setSelection (a.controller.selection.select [id]))
  | selectRelative (shift : Int) : Asks a (.selectRelative shift)
  | clearSelection : Asks a .clearSelection
  | takeScrollRequest : Asks a .takeScrollRequest

/-- A call that an application makes tells the table of no other flows and of no measured row. -/
lemma Asks.exists_after_eq {call : Controller.Call} (hcall : Asks a call) :
    ∃ filter, Controller.Contents.after ⟨a.store.flows, a.controller.filter, #[]⟩ call =
      ⟨a.store.flows, filter, #[]⟩ := by
  cases hcall with
  | setFilter filter =>
    rw [Controller.Contents.after]
    split
    · exact ⟨_, rfl⟩
    · exact ⟨_, rfl⟩
  | _ => exact ⟨_, rfl⟩

/-- The application after a call to its table. -/
def asked (a : App) (call : Controller.Call) : App :=
  { a with controller := a.controller.step call }

namespace Shown

/-- The view is derived from the stored flows. -/
lemma view_eq (h : Shown settings a) :
    a.controller.view = .derive a.store.flows a.controller.filter :=
  h.coherent.view_eq

/-- The flow in a row of the view is stored. -/
lemma exists_of_idAt (h : Shown settings a) {index : Nat} {id : FlowId}
    (hrow : a.controller.view.idAt index = some id) : ∃ flow ∈ a.store.toList, flow.id = id := by
  rw [h.view_eq] at hrow
  exact OrderedView.exists_of_idAt_derive hrow

/-- What the table has been told by a call is still what is stored. -/
lemma coherent_asked (h : Shown settings a) {call : Controller.Call} (hcall : Asks a call) :
    (a.asked call).controller.Coherent settings
      ⟨a.store.flows, (a.asked call).controller.filter, #[]⟩ := by
  have hstep := Controller.coherent_step h.coherent call
  obtain ⟨filter, htold⟩ := hcall.exists_after_eq
  rw [htold] at hstep
  have hfilter : (a.asked call).controller.filter = filter := hstep.filter_eq
  rw [hfilter]
  exact hstep

/-- The selection after a call is still nothing or one flow that is stored. -/
lemma selected_asked (h : Shown settings a) {call : Controller.Call} (hcall : Asks a call) :
    (a.asked call).controller.selection.selected.length ≤ 1 ∧
      ∀ id ∈ (a.asked call).controller.selection.selected,
        ∃ flow ∈ a.store.toList, flow.id = id := by
  have hone {selected : List FlowId} {index : Nat} {id : FlowId}
      (hrow : a.controller.view.idAt index = some id) (hselected : selected = [id]) :
      selected.length ≤ 1 ∧ ∀ id ∈ selected, ∃ flow ∈ a.store.toList, flow.id = id := by
    subst hselected
    exact ⟨le_rfl, List.forall_mem_singleton.mpr (h.exists_of_idAt hrow)⟩
  rw [asked, Controller.step_selection]
  cases hcall with
  | select hrow => exact hone hrow (Selection.select_singleton ..)
  | selectRelative shift =>
    obtain hnone | ⟨index, id, hrow, hselected⟩ :=
      a.controller.selection.selectRelative_cases a.controller.view shift
    · simp [hnone]
    · exact hone hrow hselected
  | clearSelection => simp
  | _ => exact ⟨h.selected_le, h.selected_stored⟩

/-- Nothing that an application asks of its table parts it from the store. -/
lemma asked (h : Shown settings a) {call : Controller.Call} (hcall : Asks a call) :
    Shown settings (a.asked call) where
  coherent := h.coherent_asked hcall
  indexed := h.indexed
  selected_le := (h.selected_asked hcall).1
  selected_stored := (h.selected_asked hcall).2

end Shown

/-- An application that has been laid out stays so, unless it is laid out anew. -/
lemma Sound.asked (h : Sound settings a) {call : Controller.Call} (hcall : Asks a call)
    (hkept : ∀ height, call ≠ .resize height) : Sound settings (a.asked call) where
  toShown := h.toShown.asked hcall
  height_eq := by
    rw [App.asked, Controller.map_height_step]
    cases hcall with
    | resize height => exact absurd rfl (hkept height)
    | scrollBy delta => simp [h.height_eq]
    | _ => exact h.height_eq

/-- Laying the table out fills its place on the screen. -/
lemma Shown.resize (h : Shown settings a) (width height : Nat) :
    Sound settings (a.resize width height).value := by
  have hvalue : (a.resize width height).value =
      { a.asked (.resize (tableAreaOf width height).height) with
        tableArea := tableAreaOf width height } := rfl
  rw [hvalue]
  exact { h.asked (.resize _) with height_eq := Controller.map_height_step .. }

/-! ## Messages -/

/-- A store that has changed is shown once the table has been told of it. -/
lemma Sound.told (h : Sound settings a) {store : FlowStore} (hindexed : store.Indexed) :
    Sound settings
      { a with store, controller := a.controller.step (.dataChanged store.flows) } where
  coherent := by
    have hstep := Controller.coherent_step h.coherent (.dataChanged store.flows)
    have hfilter : (a.controller.step (.dataChanged store.flows)).filter = a.controller.filter :=
      hstep.filter_eq
    rw [hfilter]
    exact hstep
  indexed := hindexed
  selected_le := by
    rw [Controller.step_selection]
    exact (List.length_filter_le ..).trans h.selected_le
  selected_stored := by
    rw [Controller.step_selection]
    intro id hid
    obtain ⟨-, hexists⟩ := List.mem_filter.mp hid
    rw [Array.any_eq_true'] at hexists
    obtain ⟨flow, hflow, hsame⟩ := hexists
    exact ⟨flow, hflow.val, eq_of_beq hsame⟩
  height_eq := (Controller.map_height_step ..).trans h.height_eq

/-- Messages are applied to the store, and the table is told of it if that has changed anything. -/
lemma value_ingest (a : App) (messages : List Message) :
    (a.ingest messages).value =
      if (a.store.applyAll messages).value.2 then
        ({ a with
          store := (a.store.applyAll messages).value.1
          controller := a.controller.step
            (.dataChanged (a.store.applyAll messages).value.1.flows) }, true)
      else ({ a with store := (a.store.applyAll messages).value.1 }, false) := by
  rw [App.ingest, Logged.value_bind]
  rcases (a.store.applyAll messages).value with ⟨store, changed | unchanged⟩ <;> rfl

/-- Messages that are taken in keep the table with the store.  If they are said to change nothing,
the table is not told of them, and they have left the flows as they were. -/
lemma Sound.ingest (h : Sound settings a) (messages : List Message) :
    Sound settings (a.ingest messages).value.1 := by
  obtain ⟨hindexed, hkept⟩ := FlowStore.applyAll_spec h.indexed messages
  rw [value_ingest]
  split
  · exact h.told hindexed
  · -- the table keeps its view, which is still the one of the store
    rename_i hsame
    have hlist := hkept (Bool.eq_false_iff.mpr hsame)
    have hflows : (a.store.applyAll messages).value.1.flows = a.store.flows :=
      Array.toList_inj.mp hlist
    exact { h with
      coherent := hflows ▸ h.coherent
      indexed := hindexed
      selected_stored := hlist ▸ h.selected_stored }

/-- So does a poll of the source, also one that fails. -/
lemma Sound.poll (h : Sound settings a) (contents : FileState) (now : Int) :
    Sound settings (a.poll contents now).value.1 := by
  rw [value_poll]
  rcases (a.source.poll contents now).value with ⟨source, e | messages⟩
  · exact { h with }
  · have hpolled : Sound settings { a with source } := { h with }
    exact hpolled.ingest messages

/-! ## Events keep the invariant -/

namespace Sound

/-- Another filter is put into force over the stored flows. -/
lemma setFilter (h : Sound settings a) (filter : FilterSpec) :
    Sound settings (a.setFilter filter).value :=
  h.asked (.setFilter filter) (by simp)

/-- What a user asks for. -/
lemma act (h : Sound settings a) (action : KeyAction) : Sound settings (a.act action).value := by
  unfold App.act
  split
  · exact h.asked (.selectRelative _) (by simp)
  · split
    · exact h.asked .clearSelection (by simp)
    · exact h.asked (.scrollBy _) (by simp)
    · exact h.asked (.scrollBy _) (by simp)
    · exact h.setFilter _
    · exact h.setFilter _
    · exact h.setFilter _
    · exact h

/-- A key, whether it ends the application or not. -/
lemma handleKey (h : Sound settings a) (key : KeyEvent) :
    Sound settings (a.handleKey key).value.1 := by
  unfold App.handleKey
  split
  · exact h
  · exact h
  · exact h.act _

/-- A press of the mouse button selects the row it meets, if there is one. -/
lemma click (h : Sound settings a) (column row : Nat) :
    Sound settings (a.click column row).value := by
  unfold App.click
  split
  · rename_i id hclicked
    obtain ⟨index, -, hrow⟩ := Option.bind_eq_some_iff.mp hclicked
    exact h.asked (.select hrow) (by simp)
  · exact h

/-- A mouse event. -/
lemma handleMouse (h : Sound settings a) (mouse : MouseEvent) :
    Sound settings (a.handleMouse mouse).value := by
  unfold App.handleMouse
  dsimp only
  split
  · exact h.asked (.scrollBy _) (by simp)
  · exact h.asked (.scrollBy _) (by simp)
  · exact h.click ..
  · exact h

/-- The blinking indicator. -/
lemma blink (h : Sound settings a) : Sound settings a.blink := by
  unfold App.blink
  split
  · exact { h with }
  · exact h

/-- Getting ready to draw, with the table laid out anew or not. -/
lemma prepare (h : Sound settings a) (width height : Nat) :
    Sound settings (a.prepare width height).value := by
  unfold App.prepare
  split
  · exact h.asked .takeScrollRequest (by simp)
  · exact (h.resize width height).asked .takeScrollRequest (by simp)

/-- Painting a frame. -/
lemma paint (h : Sound settings a) (display : Screen.Buffer) :
    Sound settings (a.paint display).1 :=
  { h with }

/-- Every event. -/
lemma after (h : Sound settings a) (event : Event) : Sound settings (a.after event) := by
  cases event with
  | key key => exact h.handleKey key
  | mouse mouse => exact h.handleMouse mouse
  | resize width height => exact h.resize width height
  | tick contents now =>
    have hpolled := h.poll contents now
    rw [App.after]
    generalize (a.poll contents now).value = outcome at hpolled ⊢
    rcases outcome with ⟨polled, e | changed⟩
    · exact hpolled
    · exact hpolled.blink
  | draw display => exact (h.prepare display.width display.height).paint display

/-- Every sequence of events. -/
lemma run (h : Sound settings a) (events : List Event) : Sound settings (a.run events) := by
  induction events generalizing a with
  | nil => exact h
  | cons event events ih => exact ih (h.after event)

end Sound

/-- An application that has not been laid out shows nothing, as nothing is stored. -/
lemma shown_ofOptions (source : Capture.Source) (options : AppOptions) (width height : Nat) :
    Shown options.table (ofOptions source options width height) where
  coherent := Controller.coherent_ofSettings options.table
  indexed := FlowStore.indexed_empty
  selected_le := Nat.zero_le _
  selected_stored := by simp [ofOptions, Controller.ofSettings, Selection.nothing]

/-- An application that has started is sound. -/
lemma sound_start {source : Capture.Source} {options : AppOptions} {width height : Nat}
    {contents : FileState} {now : Int}
    (hstart : (start source options width height contents now).value = .ok a) :
    Sound options.table a := by
  have hpolled :=
    ((shown_ofOptions source options width height).resize width height).poll contents now
  rw [value_start] at hstart
  generalize (App.poll _ contents now).value = outcome at hpolled hstart
  rcases outcome with ⟨polled, e | changed⟩
  · cases hstart
  · cases hstart
    exact hpolled

/-! ## What the invariant says of the screen -/

/-- The visible rows are those of the window, each with the stored flow that the view names. -/
lemma Sound.visible_eq (h : Sound settings a) :
    (a.controller.visibleRecords a.store.flows).map (fun row => (row.1, some row.2)) =
      (List.range' a.controller.window.start a.controller.window.len).map fun index =>
        (index, (a.controller.view.idAt index).bind a.store.get?) := by
  have hstop := h.coherent.window_bounds.2
  rw [Controller.visibleRecords]
  rw [h.view_eq] at hstop ⊢
  -- both sides go over the same rows; in each of them the view names a flow that is stored
  rw [OrderedView.records_derive hstop, List.map_filterMap, Window.len, ← List.filterMap_eq_map']
  apply List.filterMap_congr
  intro index hindex
  obtain ⟨hge, hlt⟩ := List.mem_range'_1.mp hindex
  rw [OrderedView.len_derive] at hstop
  rw [OrderedView.idAt_derive]
  cases hrow : (OrderedView.admittedRows a.store.flows a.controller.filter)[index]? with
  | none =>
    rw [List.getElem?_eq_none_iff] at hrow
    omega
  | some row =>
    obtain ⟨flow, position⟩ := row
    obtain ⟨hflow, -⟩ := OrderedView.mem_admittedRows.mp (List.mem_of_getElem? hrow)
    rw [← Array.getElem?_toList] at hflow
    have hget : a.store.get? flow.id = some flow :=
      h.indexed.get?_eq_some_iff.mpr ⟨List.mem_of_getElem? hflow, rfl⟩
    simp [hget]

/-- A sound application is consistent. -/
lemma Sound.consistent (h : Sound settings a) : a.Consistent where
  view_eq := h.view_eq
  selected_le := h.selected_le
  selected_stored := fun id hid => h.indexed.contains_iff.mpr (h.selected_stored id hid)
  measured := by
    obtain ⟨v, hv, hheight⟩ := Option.map_eq_some_iff.mp h.height_eq
    exact ⟨v, hv, hheight, h.coherent.top_mem v hv⟩
  visible_eq := h.visible_eq

end App

/-! ## Sessions -/

namespace SessionStep

variable {α β : Type} {P : α → Prop}

/-- Whatever the step answers satisfies `P`. -/
def Yields (P : α → Prop) (x : SessionStep α) : Prop :=
  ∀ (c : Console) (a : α), (x c).value.2 = .ok a → P a

namespace Yields

/-- Of what any step answers nothing need be known. -/
lemma anything (x : SessionStep α) : Yields (fun _ => True) x := fun _ _ _ => trivial

lemma pure {a : α} (ha : P a) : Yields P (Pure.pure a) := by
  rintro c _ ⟨⟩
  exact ha

lemma fail (e : SessionFailure) : Yields P (fail e) := nofun

lemma ofLogged {x : Logged α} (hx : P x.value) : Yields P (ofLogged x) := by
  rintro c _ ⟨⟩
  exact hx

lemma look {f : Console → α} (hf : ∀ c, P (f c)) : Yields P (look f) := by
  rintro c _ ⟨⟩
  exact hf c

/-- A step that goes on with the answer of another one. -/
lemma bind {Q : β → Prop} {x : SessionStep β} {f : β → SessionStep α} (hx : Yields Q x)
    (hf : ∀ b, Q b → Yields P (f b)) : Yields P (x >>= f) := by
  intro c a hvalue
  rw [value_bind] at hvalue
  rcases hstep : (x c).value with ⟨between, e | b⟩
  · rw [hstep] at hvalue
    cases hvalue
  · rw [hstep] at hvalue
    exact hf b (hx c b (congrArg Prod.snd hstep)) between a hvalue

/-- A step that goes on whatever the one before it answers. -/
lemma next {x : SessionStep β} {f : β → SessionStep α} (hf : ∀ b, Yields P (f b)) :
    Yields P (x >>= f) :=
  (anything x).bind fun b _ => hf b

end Yields

end SessionStep

namespace Session

open SessionStep App

variable {settings : TableSettings} {a : App}

/-- Where a session goes on, its application is sound. -/
def SoundNext (settings : TableSettings) (next : Option App) : Prop :=
  ∀ a, next = some a → Sound settings a

lemma Sound.next (h : Sound settings a) : SoundNext settings (some a) :=
  fun _ ha => Option.some.inj ha ▸ h

lemma soundNext_none : SoundNext settings none := fun _ ha => absurd ha (by simp)

lemma yields_inputOutcome {α : Type} {P : α → Prop} {outcome : Except IoError α}
    (h : ∀ a, outcome = .ok a → P a) : Yields P (inputOutcome outcome) := by
  cases outcome with
  | ok a => exact .pure (h a rfl)
  | error e => exact .fail _

/-- Drawing keeps an application sound. -/
lemma yields_draw (h : Sound settings a) : Yields (Sound settings) (draw a) := by
  refine .next fun (width, height) => (Yields.ofLogged (h.prepare width height)).bind ?_
  refine fun prepared hprepared => .next fun _ => ?_
  have hlook : Yields (fun painted => Sound settings painted.1)
      (look fun c => prepared.paint c.display) := .look fun c => hprepared.paint c.display
  exact hlook.bind fun painted hpainted => .next fun _ => .pure hpainted

/-- So does handling an input event. -/
lemma yields_handle (h : Sound settings a) (input : Input) :
    Yields (SoundNext settings) (handle a input) := by
  cases input with
  | key key =>
    have hkey : Yields (fun handled => Sound settings handled.1) (ofLogged (a.handleKey key)) :=
      .ofLogged (h.handleKey key)
    refine hkey.bind fun (handled, quit) hhandled => ?_
    cases quit with
    | true => exact .pure soundNext_none
    | false => exact (yields_draw hhandled).bind fun drawn hdrawn => .pure (Sound.next hdrawn)
  | mouse mouse =>
    refine (Yields.ofLogged (h.handleMouse mouse)).bind fun handled hhandled => ?_
    exact (yields_draw hhandled).bind fun drawn hdrawn => .pure (Sound.next hdrawn)
  | resize width height =>
    refine .next fun _ => (Yields.ofLogged (h.resize width height)).bind fun laidOut hlaidOut => ?_
    exact (yields_draw hlaidOut).bind fun drawn hdrawn => .pure (Sound.next hdrawn)
  | other => exact .pure (Sound.next h)

/-- So does a tick. -/
lemma yields_tick (h : Sound settings a) (now : Int) : Yields (Sound settings) (tick a now) := by
  refine .next fun contents => ?_
  have hpoll : Yields (fun polled => Sound settings polled.1) (ofLogged (a.poll contents now)) :=
    .ofLogged (h.poll contents now)
  refine hpoll.bind fun (polled, outcome) hpolled => .next fun changed => ?_
  by_cases hshown : (changed || polled.blink.source.isLive) = true
  · simpa only [if_pos hshown] using yields_draw hpolled.blink
  · simpa only [if_neg hshown] using Yields.pure hpolled.blink

/-- So does every item of a script. -/
lemma yields_step (h : Sound settings a) (item : ScriptItem) :
    Yields (SoundNext settings) (step a item) := by
  refine .next fun _ => ?_
  cases item with
  | input input => exact yields_handle h input
  | tick now => exact (yields_tick h now).bind fun ticked hticked => .pure (Sound.next hticked)
  | failure text => exact .fail _
  | quietResize width height => exact .next fun _ => .pure (Sound.next h)
  | fileChange f => exact .next fun _ => .pure (Sound.next h)
  | breakage failures => exact .next fun _ => .pure (Sound.next h)

/-- So does a whole script. -/
lemma yields_advance (h : Sound settings a) (script : List ScriptItem) :
    Yields (SoundNext settings) (advance a script) := by
  induction script generalizing a with
  | nil => exact .pure (Sound.next h)
  | cons item script ih =>
    refine (yields_step h item).bind fun next hnext => ?_
    cases next with
    | some next => exact ih (hnext next rfl)
    | none => exact .pure soundNext_none

/-- A session starts with a sound application. -/
lemma yields_start (source : Capture.Source) (options : AppOptions) :
    Yields (Sound options.table) (start source options) := by
  refine .next fun _ => .next fun (width, height) => .next fun contents => ?_
  have hstart : Yields (fun outcome => ∀ a, outcome = .ok a → Sound options.table a)
      (ofLogged (App.start source options width height contents 0)) :=
    .ofLogged fun a ha => sound_start ha
  exact hstart.bind fun outcome houtcome => yields_inputOutcome houtcome

/-- **Consistency.**  Store, table and screen belong together in an application that has started,
whatever has happened to it since, and at every point of a session. -/
theorem whole_session_consistent (source : Capture.Source) (options : AppOptions) :
    (∀ (width height : Nat) (contents : FileState) (now : Int) (a : App),
      (App.start source options width height contents now).value = .ok a →
        ∀ events, (a.run events).Consistent) ∧
    ∀ (script : List ScriptItem) (c : Console) (a : App),
      ((do advance (← draw (← start source options)) script) c).value.2 = .ok (some a) →
        a.Consistent := by
  constructor
  · intro width height contents now a hstart events
    exact ((sound_start hstart).run events).consistent
  · intro script c a hreached
    have hyields : Yields (SoundNext options.table)
        (do advance (← draw (← start source options)) script) := by
      refine (yields_start source options).bind fun started hstarted => ?_
      exact (yields_draw hstarted).bind fun drawn hdrawn => yields_advance hdrawn script
    exact (hyields c (some a) hreached a rfl).consistent

/-- A frame is drawn where the terminal tells its size and takes frames. -/
lemma exists_draw_eq_ok (a : App) {c : Console} (hsize : c.failures.lookup "size" = none)
    (hdraw : c.failures.lookup "draw" = none) : ∃ drawn, (draw a c).value.2 = .ok drawn := by
  rw [draw, value_bind, value_size, hsize]
  simp only
  rw [value_bind, ofLogged]
  simp only
  rw [value_bind, operate, Console.write_frame, hdraw]
  exact ⟨_, rfl⟩

/-- A session over synthetic traffic, whose terminal shrinks after the first frame. -/
theorem whole_session_consistent_after_shrinking :
    let source : Capture.Source := .synthetic (.start 2 none)
    let options : AppOptions := ⟨.default, 250, .monochrome⟩
    let c : Console := ⟨.blank 40 10, [], .empty, "c", "", none, 0, #[]⟩
    let script : List ScriptItem := [.quietResize 20 3, .input .other]
    (∃ a, (App.start source options 40 10 .missing 0).value = .ok a ∧
      ∀ events, (a.run events).Consistent) ∧
    ∃ a, ((do advance (← draw (← start source options)) script) c).value.2 = .ok (some a) ∧
      a.Consistent := by
  intro source options c script
  have hconsistent := whole_session_consistent source options
  obtain ⟨begun, a, happ, hstart, hworks⟩ : ∃ begun a,
      (App.start source options 40 10 .missing 0).value = .ok a ∧
        (start source options c).value = (begun, .ok a) ∧ begun.failures = [] :=
    ⟨_, _, rfl, rfl, rfl⟩
  have hlookup (name : String) : begun.failures.lookup name = none := by
    rw [hworks]
    rfl
  obtain ⟨drawn, hdrawn⟩ := exists_draw_eq_ok a (hlookup "size") (hlookup "draw")
  have hdraw : (draw a begun).value = ((draw a begun).value.1, .ok drawn) := Prod.ext rfl hdrawn
  have hreached :
      ((do advance (← draw (← start source options)) script) c).value.2 = .ok (some drawn) := by
    rw [value_bind, hstart]
    simp only
    rw [value_bind, hdraw]
    rfl
  exact ⟨⟨a, happ, hconsistent.1 40 10 .missing 0 a happ⟩,
    ⟨drawn, hreached, hconsistent.2 script c drawn hreached⟩⟩

end Session

end FlowWatch
