import Mathlib
import FlowWatch.Capture.Synthetic
import FlowWatch.Proofs.Numerals
import FlowWatch.Proofs.StoreOrder

/-!
# The history of a synthetic stream

A store that is fed with everything a synthetic stream has delivered knows as much as the stream:
its flows carry the identities that the stream has given out, and its unanswered requests are the
ones that the stream is still going to answer (`History`).

The invariant is kept message by message.  An answer goes to the first flow that awaits one and
takes it out of the unanswered ones (`History.answer`); a new flow has an identity that no flow
before it had (`FlowId.sequential_injective`) and joins them if it is a request (`History.add`).
The initial batch is answered already but for its last request (`answerBatch_spec`).  A poll is made
of these.
-/

namespace FlowWatch

/-! ## Sequential identities -/

namespace FlowId

/-- A number with zeros in front, as a list of digits. -/
lemma toList_zeroPadded (n width : Nat) : (zeroPadded n width).toList = Stamp.padded n width := by
  have hpush (count : Nat) : ("".pushn '0' count).toList = List.replicate count '0' := by
    rw [String.pushn_eq_repeat_push]
    induction count with
    | zero => rfl
    | succ count ih => rw [Nat.repeat, String.toList_push, ih, List.replicate_succ']
  have hdigits : (toString n).toList = Nat.toDigits 10 n := by
    rw [Nat.toString_eq_ofList_toDigits, String.toList_ofList]
  have hlength : (toString n).length = (Nat.toDigits 10 n).length := by
    rw [← String.length_toList, hdigits]
  rw [zeroPadded, String.toList_append, hpush, hdigits, hlength, Stamp.padded]

/-- Different numbers give different identities, however many digits they have. -/
theorem sequential_injective (stem : String) : Function.Injective (sequential stem) := by
  intro n m h
  have htext := congrArg (fun id => id.text.toList) h
  simp only [sequential, String.toList_append, toList_zeroPadded] at htext
  have hpadded := List.append_cancel_left (List.append_cancel_left htext)
  have hvalue := congrArg (fun digits => Nat.ofDigitChars 10 digits 0) hpadded
  simpa only [Stamp.ofDigitChars_padded] using hvalue

end FlowId

/-- The flow is a request whose response has not been captured. -/
def Flow.awaitsResponse (f : Flow) : Bool := f.kind == .http && f.response.isNone

/-- Only a flow over HTTP has a request or a response. -/
def Flow.IsBare (f : Flow) : Prop := f.kind ≠ .http → f.request = none ∧ f.response = none

namespace Message

/-- The flows that a message brings for the first time. -/
def emitted : Message → List Flow
  | .add flow => [flow]
  | .reset flows => flows
  | _ => []

/-- The flow that a message answers, as it is from then on. -/
def answered : Message → List Flow
  | .update flow => [flow]
  | _ => []

end Message

/-- Putting a flow in the place of another one keeps the identities. -/
lemma Flow.ids_replace (flows : List Flow) (new : Flow) :
    (flows.map fun old => if old.id = new.id then new else old).map Flow.id =
      flows.map Flow.id := by
  rw [List.map_map]
  refine List.map_congr_left fun old _ => ?_
  rw [Function.comp_apply]
  split
  · exact Eq.symm ‹_›
  · rfl

/-- A flow that is put in the place of a request and has a response takes it out of the unanswered
ones. -/
lemma Flow.filter_awaitsResponse_replace (flows : List Flow) {answer : Flow}
    (h : answer.response.isSome = true) :
    (flows.map fun old => if old.id = answer.id then answer else old).filter awaitsResponse =
      (flows.filter awaitsResponse).filter fun old => old.id ≠ answer.id := by
  have hanswer : answer.awaitsResponse = false := by
    rw [awaitsResponse, Option.isNone_eq_false_iff.mpr h, Bool.and_false]
  induction flows with
  | nil => rfl
  | cons old flows ih =>
    rw [List.map_cons, List.filter_cons, List.filter_cons, ih]
    by_cases hid : old.id = answer.id
    · rw [if_pos hid, hanswer, if_neg Bool.false_ne_true]
      split
      · rw [List.filter_cons_of_neg (by simpa using hid)]
      · rfl
    · rw [if_neg hid]
      split
      · rw [List.filter_cons_of_pos (by simpa using hid)]
      · rfl

namespace FlowStore

/-- The store after messages that found it without flows. -/
def ofMessages (sent : List Message) : FlowStore := (empty.applyAll sent).value.1

lemma value_applyAll_append (s : FlowStore) (first second : List Message) :
    (s.applyAll (first ++ second)).value.1 =
      ((s.applyAll first).value.1.applyAll second).value.1 := by
  induction first generalizing s with
  | nil => rfl
  | cons m first ih =>
    rw [List.cons_append, value_applyAll_cons, value_applyAll_cons]
    exact ih _

/-- One more message is applied to what the others have led to. -/
lemma ofMessages_append_singleton (sent : List Message) (m : Message) :
    ofMessages (sent ++ [m]) = ((ofMessages sent).change m).1 :=
  value_applyAll_append empty sent [m]

/-- Flows of different identities are all kept. -/
lemma latest_of_nodup {flows : List Flow} (h : (flows.map Flow.id).Nodup) :
    latest flows = flows := by
  induction flows using List.reverseRecOn with
  | nil => rfl
  | append_singleton flows flow ih =>
    rw [List.map_append, List.map_singleton, List.nodup_append] at h
    obtain ⟨hflows, -, hnew⟩ := h
    rw [latest_append_singleton, ih hflows, put, if_neg]
    exact fun hmem => hnew _ hmem _ (List.mem_singleton_self _) rfl

end FlowStore

namespace Capture.Synthetic

open FlowStore

/-! ## What is drawn -/

/-- The identities of the first flows of a stream. -/
def identities (count : Nat) : List FlowId := (List.range count).map (.sequential "syn")

lemma nodup_identities (count : Nat) : (identities count).Nodup :=
  (List.nodup_range).map (FlowId.sequential_injective "syn")

lemma sequential_notMem_identities (count : Nat) : .sequential "syn" count ∉ identities count := by
  intro hmem
  obtain ⟨n, hn, hid⟩ := List.mem_map.mp hmem
  rw [FlowId.sequential_injective "syn" hid] at hn
  exact List.not_mem_range_self hn

lemma identities_succ (count : Nat) :
    identities (count + 1) = identities count ++ [.sequential "syn" count] := by
  rw [identities, List.range_succ, List.map_append, List.map_singleton, identities]

/-- Only over HTTP a request is drawn. -/
lemma request_drawPeer {kind : Kind} (hkind : kind ≠ .http) (d : Dice) (host : String) (n : Nat) :
    (drawPeer d kind host n).1.2 = none := by
  cases kind with
  | http => exact absurd rfl hkind
  | tcp => rfl
  | udp => rfl
  | dns => rfl

/-- A flow that is drawn, up to what the dice decide. -/
lemma exists_drawFlow_eq (d : Dice) (n : Nat) :
    ∃ (kind : Kind) (server host : String) (rest : Dice), (drawFlow d n).1 =
      { id := .sequential "syn" n, kind, timestamp := .afterMidnight epoch (n * 250),
        server := some server, request := (drawPeer rest kind host n).1.2, response := none } :=
  ⟨kindOf d.draw.1, _, _, _, rfl⟩

/-- The `n`th flow has the `n`th identity and no response yet, and a request only over HTTP. -/
lemma drawFlow_spec (d : Dice) (n : Nat) :
    (drawFlow d n).1.id = .sequential "syn" n ∧ (drawFlow d n).1.response = none ∧
      (drawFlow d n).1.IsBare := by
  obtain ⟨kind, server, host, rest, hflow⟩ := exists_drawFlow_eq d n
  rw [hflow]
  exact ⟨rfl, rfl, fun hkind => ⟨request_drawPeer hkind .., rfl⟩⟩

/-- Drawing the next flow uses up an identity and moves the dice. -/
lemma exists_nextFlow_eq (s : Synthetic) : ∃ (flow : Flow) (dice : Dice),
    s.nextFlow = (flow, { s with dice, generated := s.generated + 1 }) ∧
      flow.id = .sequential "syn" s.generated ∧ flow.response = none ∧ flow.IsBare :=
  ⟨(drawFlow s.dice s.generated).1, _, rfl, drawFlow_spec _ _⟩

/-- The next message brings the next flow, which from then on awaits a response if it is a
request. -/
lemma exists_nextMessage_eq (s : Synthetic) : ∃ (flow : Flow) (dice : Dice),
    s.nextMessage = (.add flow, { s with
      dice, generated := s.generated + 1
      awaiting := if flow.kind = .http then s.awaiting ++ [flow] else s.awaiting }) ∧
      flow.id = .sequential "syn" s.generated ∧ flow.response = none ∧ flow.IsBare := by
  obtain ⟨flow, dice, hnext, hspec⟩ := exists_nextFlow_eq s
  refine ⟨flow, dice, ?_, hspec⟩
  rw [nextMessage, hnext]
  split
  · rfl
  · rfl

/-- Flows that are drawn one after another go on with the identities. -/
lemma exists_nextFlows_eq (s : Synthetic) (count : Nat) : ∃ (flows : List Flow) (dice : Dice),
    s.nextFlows count = (flows, { s with dice, generated := s.generated + count }) ∧
      identities s.generated ++ flows.map Flow.id = identities (s.generated + count) ∧
      ∀ flow ∈ flows, flow.response = none ∧ flow.IsBare := by
  induction count generalizing s with
  | zero =>
    exact ⟨[], s.dice, rfl, List.append_nil _, fun _ hflow => absurd hflow List.not_mem_nil⟩
  | succ count ih =>
    obtain ⟨first, dice, hfirst, hid, hspec⟩ := exists_nextFlow_eq s
    obtain ⟨others, last, hothers, hids, hall⟩ :=
      ih { s with dice, generated := s.generated + 1 }
    refine ⟨first :: others, last, ?_, ?_, List.forall_mem_cons.mpr ⟨hspec, hall⟩⟩
    · rw [nextFlows, hfirst, hothers, Nat.add_right_comm, Nat.add_assoc]
    · rw [Nat.add_right_comm, Nat.add_assoc] at hids
      rw [← hids, identities_succ, List.map_cons, hid, List.append_assoc, List.singleton_append]

/-! ## The initial batch -/

/-- A request that another one follows in its batch is answered. -/
lemma exists_answerBatch_cons_eq (d : Dice) {flow : Flow} {flows : List Flow}
    (hkind : flow.kind = .http) (hlater : ∃ later ∈ flows, later.kind = .http) :
    ∃ (response : HttpResponse) (dice : Dice), answerBatch d (flow :: flows) =
      ({ flow with response := some response } :: (answerBatch dice flows).1,
        (answerBatch dice flows).2) := by
  have hany : flows.any (fun f => f.kind == .http) = true := by simpa using hlater
  refine ⟨(drawResponse d).1, (drawResponse d).2, ?_⟩
  rw [answerBatch, if_pos (by rw [hany, hkind]; rfl)]

/-- Any other flow of a batch stays as it is. -/
lemma answerBatch_cons_eq (d : Dice) {flow : Flow} {flows : List Flow}
    (h : flow.kind = .http → ∀ later ∈ flows, later.kind ≠ .http) :
    answerBatch d (flow :: flows) = (flow :: (answerBatch d flows).1,
      if flow.kind = .http then some flow else (answerBatch d flows).2.1,
      (answerBatch d flows).2.2) := by
  rw [answerBatch, if_neg]
  rw [Bool.and_eq_true, decide_eq_true_iff, List.any_eq_true]
  rintro ⟨hkind, later, hlater, hhttp⟩
  exact h hkind later hlater (beq_iff_eq.mp hhttp)

/-- Without a request in a batch none is left to answer. -/
lemma answerBatch_last_eq_none (d : Dice) {flows : List Flow}
    (h : ∀ flow ∈ flows, flow.kind ≠ .http) : (answerBatch d flows).2.1 = none := by
  induction flows generalizing d with
  | nil => rfl
  | cons flow flows ih =>
    rw [List.forall_mem_cons] at h
    rw [answerBatch_cons_eq d fun _ => h.2, if_neg h.1]
    exact ih d h.2

/-- Answering a batch keeps its identities, gives responses to requests only, and leaves the last
request, and no other one, without a response. -/
lemma answerBatch_spec (d : Dice) {flows : List Flow}
    (h : ∀ flow ∈ flows, flow.response = none ∧ flow.IsBare) :
    (answerBatch d flows).1.map Flow.id = flows.map Flow.id ∧
      (∀ flow ∈ (answerBatch d flows).1, flow.IsBare) ∧
      (answerBatch d flows).1.filter Flow.awaitsResponse = (answerBatch d flows).2.1.toList := by
  induction flows generalizing d with
  | nil => exact ⟨rfl, fun _ hflow => absurd hflow List.not_mem_nil, rfl⟩
  | cons flow flows ih =>
    rw [List.forall_mem_cons] at h
    by_cases hrequest : flow.kind = .http ∧ ∃ later ∈ flows, later.kind = .http
    · obtain ⟨response, dice, hbatch⟩ := exists_answerBatch_cons_eq d hrequest.1 hrequest.2
      obtain ⟨hids, hbare, hfilter⟩ := ih dice h.2
      rw [hbatch]
      refine ⟨?_, List.forall_mem_cons.mpr ⟨fun hkind => absurd hrequest.1 hkind, hbare⟩, ?_⟩
      · rw [List.map_cons, List.map_cons, hids]
      · rwa [List.filter_cons_of_neg (by simp [Flow.awaitsResponse])]
    · obtain ⟨hids, hbare, hfilter⟩ := ih d h.2
      have hlast : flow.kind = .http → ∀ later ∈ flows, later.kind ≠ .http :=
        fun hkind later hlater hhttp => hrequest ⟨hkind, later, hlater, hhttp⟩
      rw [answerBatch_cons_eq d hlast]
      refine ⟨?_, List.forall_mem_cons.mpr ⟨h.1.2, hbare⟩, ?_⟩
      · rw [List.map_cons, List.map_cons, hids]
      · by_cases hkind : flow.kind = .http
        · rw [List.filter_cons_of_pos (by simp [Flow.awaitsResponse, hkind, h.1.1]), hfilter,
            answerBatch_last_eq_none d (hlast hkind), if_pos hkind]
          rfl
        · rwa [List.filter_cons_of_neg (by simp [Flow.awaitsResponse, hkind]), if_neg hkind]

/-- Answering flows answers the first one first. -/
lemma exists_answerFlows_cons_eq (d : Dice) (flow : Flow) (flows : List Flow) :
    ∃ (response : HttpResponse) (dice : Dice), answerFlows d (flow :: flows) =
      (.update { flow with response := some response } :: (answerFlows dice flows).1,
        (answerFlows dice flows).2) :=
  ⟨_, _, rfl⟩

/-! ## The invariant -/

/-- What the messages of a stream have left in a store, when it has given out `count` identities and
is going to answer the flows of `awaiting`. -/
structure History (count : Nat) (awaiting : List Flow) (sent : List Message) : Prop where
  /-- The index of the store is exact. -/
  indexed : (ofMessages sent).Indexed
  /-- The stored flows have the identities that were given out, in their order. -/
  ids_eq : (ofMessages sent).toList.map Flow.id = identities count
  /-- So have the flows that were delivered for the first time. -/
  emitted_eq : (sent.flatMap Message.emitted).map Flow.id = identities count
  /-- The unanswered requests in the store are those that will be answered. -/
  awaiting_eq : (ofMessages sent).toList.filter Flow.awaitsResponse = awaiting
  /-- Only flows over HTTP have requests and responses. -/
  bare : ∀ flow ∈ (ofMessages sent).toList, flow.IsBare
  /-- What will be answered has been delivered as it is now. -/
  awaiting_emitted : ∀ flow ∈ awaiting, flow ∈ sent.flatMap Message.emitted
  /-- A flow that was answered is stored with its response. -/
  answered_stored : ∀ flow ∈ sent.flatMap Message.answered,
    flow ∈ (ofMessages sent).toList ∧ flow.response.isSome = true
  /-- No flow was answered twice. -/
  answered_nodup : ((sent.flatMap Message.answered).map Flow.id).Nodup

/-- Nothing has been delivered. -/
lemma history_nil : History 0 [] [] where
  indexed := indexed_empty
  ids_eq := rfl
  emitted_eq := rfl
  awaiting_eq := rfl
  bare := fun _ hflow => absurd hflow List.not_mem_nil
  awaiting_emitted := fun _ hflow => absurd hflow List.not_mem_nil
  answered_stored := fun _ hflow => absurd hflow List.not_mem_nil
  answered_nodup := List.nodup_nil

namespace History

variable {count : Nat} {awaiting : List Flow} {sent : List Message} {flow : Flow}

/-- A flow that awaits a response is stored as it is. -/
lemma mem_of_awaiting (h : History count awaiting sent) (hflow : flow ∈ awaiting) :
    flow ∈ (ofMessages sent).toList ∧ flow.kind = .http ∧ flow.response = none := by
  rw [← h.awaiting_eq, List.mem_filter] at hflow
  obtain ⟨hmem, hawaits⟩ := hflow
  exact ⟨hmem, by simpa [Flow.awaitsResponse] using hawaits⟩

/-- A flow of an identity that is stored is the stored one. -/
lemma eq_of_id_eq (h : History count awaiting sent) {other : Flow}
    (hflow : flow ∈ (ofMessages sent).toList) (hother : other ∈ (ofMessages sent).toList)
    (hid : flow.id = other.id) : flow = other :=
  List.inj_on_of_nodup_map h.indexed.nodup_ids hflow hother hid

/-- The identities of the flows that await a response are distinct. -/
lemma nodup_awaiting (h : History count awaiting sent) : (awaiting.map Flow.id).Nodup := by
  rw [← h.awaiting_eq]
  exact h.indexed.nodup_ids.sublist (List.filter_sublist.map Flow.id)

/-- The first flow that awaits a response is answered. -/
lemma answer (h : History count (flow :: awaiting) sent) (response : HttpResponse) :
    History count awaiting (sent ++ [.update { flow with response := some response }]) := by
  set answer : Flow := { flow with response := some response }
  have hsome : answer.response.isSome = true := rfl
  obtain ⟨hmem, hkind, hnone⟩ := h.mem_of_awaiting List.mem_cons_self
  have hknown : answer.id ∈ (ofMessages sent).toList.map Flow.id :=
    List.mem_map.mpr ⟨flow, hmem, rfl⟩
  have hlist : (ofMessages (sent ++ [.update answer])).toList =
      (ofMessages sent).toList.map fun old => if old.id = answer.id then answer else old := by
    rw [ofMessages_append_singleton]
    exact (h.indexed.toList_upsert answer).trans (if_pos hknown)
  have hanswered : (sent ++ [Message.update answer]).flatMap Message.answered =
      sent.flatMap Message.answered ++ [answer] := by
    rw [List.flatMap_append]
    rfl
  have hemitted : (sent ++ [Message.update answer]).flatMap Message.emitted =
      sent.flatMap Message.emitted :=
    List.flatMap_append.trans (List.append_nil _)
  -- a flow that was answered before has a response, so that it is not the one answered now
  have hother : ∀ old ∈ sent.flatMap Message.answered, old.id ≠ flow.id := by
    intro old hold hid
    obtain ⟨hstored, hsome⟩ := h.answered_stored old hold
    rw [h.eq_of_id_eq hstored hmem hid, hnone] at hsome
    cases hsome
  refine
    { indexed := ?_, ids_eq := ?_, emitted_eq := hemitted ▸ h.emitted_eq
      awaiting_eq := ?_, bare := ?_, awaiting_emitted := ?_, answered_stored := ?_
      answered_nodup := ?_ }
  · rw [ofMessages_append_singleton]
    exact h.indexed.change _
  · rw [hlist, Flow.ids_replace, h.ids_eq]
  · have hfilter := Flow.filter_awaitsResponse_replace (ofMessages sent).toList hsome
    have hnodup := h.nodup_awaiting
    rw [List.map_cons, List.nodup_cons] at hnodup
    rw [hlist, hfilter, h.awaiting_eq, List.filter_cons_of_neg (by simp [answer]),
      List.filter_eq_self]
    intro old hold
    exact decide_eq_true fun hid => hnodup.1 (hid ▸ List.mem_map_of_mem hold)
  · rw [hlist]
    intro old hold
    obtain ⟨before, hbefore, rfl⟩ := List.mem_map.mp hold
    split
    · exact fun hnot => absurd hkind hnot
    · exact h.bare before hbefore
  · rw [hemitted]
    exact fun old hold => h.awaiting_emitted old (List.mem_cons_of_mem _ hold)
  · rw [hanswered, hlist]
    intro old hold
    rcases List.mem_append.mp hold with hold | hold
    · obtain ⟨hstored, hsome⟩ := h.answered_stored old hold
      exact ⟨List.mem_map.mpr ⟨old, hstored, if_neg (hother old hold)⟩, hsome⟩
    · rw [List.mem_singleton.mp hold]
      exact ⟨List.mem_map.mpr ⟨flow, hmem, if_pos rfl⟩, rfl⟩
  · rw [hanswered, List.map_append, List.map_singleton, List.nodup_append]
    refine ⟨h.answered_nodup, List.nodup_singleton _, ?_⟩
    intro id hid other hotherid
    obtain ⟨old, hold, rfl⟩ := List.mem_map.mp hid
    rw [List.mem_singleton.mp hotherid]
    exact hother old hold

/-- A flow with the next identity is delivered. -/
lemma add (h : History count awaiting sent) (hid : flow.id = .sequential "syn" count)
    (hresponse : flow.response = none) (hbare : flow.IsBare) :
    History (count + 1) (if flow.kind = .http then awaiting ++ [flow] else awaiting)
      (sent ++ [.add flow]) := by
  have hnew : flow.id ∉ (ofMessages sent).toList.map Flow.id := by
    rw [h.ids_eq, hid]
    exact sequential_notMem_identities count
  have hlist : (ofMessages (sent ++ [.add flow])).toList = (ofMessages sent).toList ++ [flow] := by
    rw [ofMessages_append_singleton]
    exact (h.indexed.toList_upsert flow).trans (if_neg hnew)
  have hanswered : (sent ++ [Message.add flow]).flatMap Message.answered =
      sent.flatMap Message.answered :=
    List.flatMap_append.trans (List.append_nil _)
  have hemitted : (sent ++ [Message.add flow]).flatMap Message.emitted =
      sent.flatMap Message.emitted ++ [flow] := by
    rw [List.flatMap_append]
    rfl
  refine
    { indexed := ?_, ids_eq := ?_, emitted_eq := ?_, awaiting_eq := ?_, bare := ?_
      awaiting_emitted := ?_, answered_stored := ?_
      answered_nodup := hanswered ▸ h.answered_nodup }
  · rw [ofMessages_append_singleton]
    exact h.indexed.change _
  · rw [hlist, List.map_append, List.map_singleton, h.ids_eq, hid, identities_succ]
  · rw [hemitted, List.map_append, List.map_singleton, h.emitted_eq, hid, identities_succ]
  · rw [hlist, List.filter_append, h.awaiting_eq]
    by_cases hkind : flow.kind = .http
    · rw [if_pos hkind, List.filter_cons_of_pos (by simp [Flow.awaitsResponse, hkind, hresponse]),
        List.filter_nil]
    · rw [if_neg hkind, List.filter_cons_of_neg (by simp [Flow.awaitsResponse, hkind]),
        List.filter_nil, List.append_nil]
  · rw [hlist]
    intro old hold
    rcases List.mem_append.mp hold with hold | hold
    · exact h.bare old hold
    · rwa [List.mem_singleton.mp hold]
  · rw [hemitted]
    intro old hold
    split at hold
    · exact List.mem_append.mpr ((List.mem_append.mp hold).imp_left (h.awaiting_emitted old))
    · exact List.mem_append_left _ (h.awaiting_emitted old hold)
  · rw [hanswered, hlist]
    intro old hold
    obtain ⟨hstored, hsome⟩ := h.answered_stored old hold
    exact ⟨List.mem_append_left _ hstored, hsome⟩

/-- All flows that await a response are answered. -/
lemma answerFlows (h : History count awaiting sent) (d : Dice) :
    History count [] (sent ++ (answerFlows d awaiting).1) := by
  induction awaiting generalizing sent d with
  | nil => rwa [Synthetic.answerFlows, List.append_nil]
  | cons flow awaiting ih =>
    obtain ⟨response, dice, hanswers⟩ := exists_answerFlows_cons_eq d flow awaiting
    rw [hanswers, List.append_cons]
    exact ih (h.answer response) dice

/-- The next flows of the stream are delivered. -/
lemma nextMessages {s : Synthetic} (h : History s.generated s.awaiting sent) (due : Nat) :
    History (s.nextMessages due).2.generated (s.nextMessages due).2.awaiting
      (sent ++ (s.nextMessages due).1) := by
  induction due generalizing s sent with
  | zero => rwa [Synthetic.nextMessages, List.append_nil]
  | succ due ih =>
    obtain ⟨flow, dice, hnext, hid, hresponse, hbare⟩ := exists_nextMessage_eq s
    rw [Synthetic.nextMessages, hnext]
    dsimp only
    rw [List.append_cons sent]
    refine ih ?_
    exact h.add hid hresponse hbare

/-- The first message of a stream resets the store to the initial batch. -/
lemma reset {flows : List Flow} (hids : flows.map Flow.id = identities count)
    (hbare : ∀ flow ∈ flows, flow.IsBare) :
    History count (flows.filter Flow.awaitsResponse) [.reset flows] := by
  have hlist : (ofMessages [.reset flows]).toList = flows := by
    refine (ofFlows_spec flows).2.trans (latest_of_nodup ?_)
    rw [hids]
    exact nodup_identities count
  have hemitted : [Message.reset flows].flatMap Message.emitted = flows := List.append_nil flows
  refine
    { indexed := (ofFlows_spec flows).1, ids_eq := ?_, emitted_eq := ?_, awaiting_eq := ?_
      bare := ?_, awaiting_emitted := ?_
      answered_stored := fun _ hflow => absurd hflow List.not_mem_nil
      answered_nodup := List.nodup_nil }
  · rw [hlist, hids]
  · rw [hemitted, hids]
  · rw [hlist]
  · rw [hlist]
    exact hbare
  · rw [hemitted]
    exact fun flow hflow => List.mem_of_mem_filter hflow

/-- Without messages nothing was given out, and nothing awaits a response. -/
lemma eq_nil_of_nil (h : History count awaiting []) : count = 0 ∧ awaiting = [] := by
  have hcount := congrArg List.length h.ids_eq
  rw [List.length_map, identities, List.length_map, List.length_range] at hcount
  exact ⟨hcount.symm, h.awaiting_eq.symm⟩

end History

/-! ## Polls -/

/-- A stream has delivered these messages so far, and knows what they tell. -/
structure Told (s : Synthetic) (sent : List Message) : Prop where
  /-- The messages tell the identities given out and the flows that await a response. -/
  history : History s.generated s.awaiting sent
  /-- Nothing is delivered before the first poll. -/
  nothing : s.started = false → sent = []

/-- Of a stream that has been polled there is no more to know than its history. -/
lemma told_of_started {s : Synthetic} {sent : List Message}
    (h : History s.generated s.awaiting sent) (hstarted : s.started = true) : Told s sent where
  history := h
  nothing := fun hnot => absurd (hnot.symm.trans hstarted) Bool.false_ne_true

/-- The initial batch of a stream that has delivered nothing. -/
lemma told_initialBatch {s : Synthetic} (hgenerated : s.generated = 0) (hawaiting : s.awaiting = [])
    (hstarted : s.started = true) : Told s.initialBatch.2 s.initialBatch.1 := by
  obtain ⟨flows, dice, hflows, hids, hspec⟩ := exists_nextFlows_eq s s.initialCount
  obtain ⟨hbatch, hbare, hfilter⟩ := answerBatch_spec dice hspec
  rw [hgenerated, Nat.zero_add] at hids
  have hhistory := History.reset (hbatch.trans hids) hbare
  rw [hfilter] at hhistory
  rw [initialBatch, hflows]
  dsimp only
  rw [hawaiting, hgenerated, Nat.zero_add, List.nil_append]
  exact told_of_started hhistory hstarted

/-- The initial batch changes nothing of a stream but its dice and what it has given out. -/
lemma exists_initialBatch_eq (s : Synthetic) :
    ∃ (generated : Nat) (dice : Dice) (awaiting : List Flow),
      s.initialBatch.2 = { s with generated, dice, awaiting } := by
  obtain ⟨flows, dice, hflows, -⟩ := exists_nextFlows_eq s s.initialCount
  rw [initialBatch, hflows]
  exact ⟨_, _, _, rfl⟩

/-- Emitting flows changes nothing of a stream but its dice and what it has given out. -/
lemma exists_nextMessages_eq (s : Synthetic) (due : Nat) :
    ∃ (generated : Nat) (dice : Dice) (awaiting : List Flow),
      (s.nextMessages due).2 = { s with generated, dice, awaiting } := by
  induction due generalizing s with
  | zero => exact ⟨_, _, _, rfl⟩
  | succ due ih =>
    obtain ⟨flow, dice, hnext, -⟩ := exists_nextMessage_eq s
    rw [nextMessages, hnext]
    exact ih _

/-- What a poll does: the first one emits the initial batch; after it, a stream without period
answers what awaits a response, and a stream with one answers and emits when a flow is due, and
moves its reference time on. -/
lemma pollAt_cases (s : Synthetic) (now : Int) :
    (s.started = false ∧ s.pollAt now = { s with started := true, lastTick := now }.initialBatch) ∨
    (s.started = true ∧ s.rate = none ∧ s.pollAt now = s.answerPending) ∨
    (s.started = true ∧ ∃ rate, s.rate = some rate ∧ s.dueAt rate now = 0 ∧
      s.pollAt now = ([], s)) ∨
    (s.started = true ∧ ∃ rate, s.rate = some rate ∧ s.dueAt rate now ≠ 0 ∧ s.pollAt now =
      let answers := { s with lastTick := s.tickAfter rate (s.dueAt rate now) }.answerPending
      let flows := answers.2.nextMessages (s.dueAt rate now)
      (answers.1 ++ flows.1, flows.2)) := by
  rw [pollAt]
  cases hstarted : s.started with
  | false => exact .inl ⟨rfl, rfl⟩
  | true =>
    cases hrate : s.rate with
    | none => exact .inr (.inl ⟨rfl, rfl, rfl⟩)
    | some rate =>
      by_cases hdue : s.dueAt rate now = 0
      · exact .inr (.inr (.inl ⟨rfl, rate, rfl, hdue, if_pos hdue⟩))
      · exact .inr (.inr (.inr ⟨rfl, rate, rfl, hdue, if_neg hdue⟩))

/-- Answering what awaits a response empties it. -/
lemma exists_answerPending_eq (s : Synthetic) : ∃ dice : Dice,
    s.answerPending = ((answerFlows s.dice s.awaiting).1, { s with dice, awaiting := [] }) :=
  ⟨_, rfl⟩

/-- Every poll goes on telling what the stream knows. -/
lemma Told.pollAt {s : Synthetic} {sent : List Message} (h : Told s sent) (now : Int) :
    Told (s.pollAt now).2 (sent ++ (s.pollAt now).1) := by
  rcases pollAt_cases s now with ⟨hstarted, hpoll⟩ | ⟨hstarted, -, hpoll⟩ | ⟨-, -, -, -, hpoll⟩ |
    ⟨hstarted, rate, -, -, hpoll⟩
  · rw [hpoll]
    have hhistory := h.history
    rw [h.nothing hstarted] at hhistory ⊢
    obtain ⟨hgenerated, hawaiting⟩ := hhistory.eq_nil_of_nil
    exact told_initialBatch hgenerated hawaiting rfl
  · obtain ⟨dice, hanswers⟩ := exists_answerPending_eq s
    rw [hpoll, hanswers]
    exact told_of_started (h.history.answerFlows s.dice) hstarted
  · rw [hpoll, List.append_nil]
    exact h
  · generalize s.tickAfter rate (s.dueAt rate now) = tick at hpoll
    generalize s.dueAt rate now = due at hpoll
    obtain ⟨dice, hanswers⟩ := exists_answerPending_eq { s with lastTick := tick }
    rw [hpoll, hanswers]
    dsimp only
    obtain ⟨generated, last, awaiting, hafter⟩ :=
      exists_nextMessages_eq { s with lastTick := tick, dice, awaiting := [] } due
    have hhistory := (h.history.answerFlows s.dice).nextMessages
      (s := { s with lastTick := tick, dice, awaiting := [] }) due
    rw [List.append_assoc] at hhistory
    apply told_of_started hhistory
    rw [hafter]
    exact hstarted

/-- The stream after polls at some times. -/
def after (s : Synthetic) (times : List Int) : Synthetic :=
  times.foldl (fun s now => (s.pollAt now).2) s

/-- What polls at some times deliver, poll by poll. -/
def deliveries (s : Synthetic) : List Int → List (List Message)
  | [] => []
  | now :: times => (s.pollAt now).1 :: (s.pollAt now).2.deliveries times

/-- One more poll comes after the others. -/
lemma deliveries_append_singleton (s : Synthetic) (times : List Int) (now : Int) :
    s.deliveries (times ++ [now]) = s.deliveries times ++ [((s.after times).pollAt now).1] := by
  induction times generalizing s with
  | nil => rfl
  | cons first times ih =>
    rw [List.cons_append, deliveries, deliveries, List.cons_append, ih]
    rfl

/-- Whatever a stream has delivered since its start tells what it knows. -/
lemma told_after (initialCount : Nat) (rate : Option Nat) (times : List Int) :
    Told ((start initialCount rate).after times)
      ((start initialCount rate).deliveries times).flatten := by
  induction times using List.reverseRecOn with
  | nil => exact ⟨history_nil, fun _ => rfl⟩
  | append_singleton times now ih =>
    rw [deliveries_append_singleton, List.flatten_append, List.flatten_singleton, after,
      List.foldl_append]
    exact ih.pollAt now

/-! ## Answers -/

/-- An answer changes nothing of a flow but its response. -/
lemma exists_of_update_mem_answerFlows {d : Dice} {flows : List Flow} {flow : Flow}
    (h : .update flow ∈ (answerFlows d flows).1) :
    ∃ asked ∈ flows, ∃ response, flow = { asked with response := some response } := by
  induction flows generalizing d with
  | nil => exact absurd h List.not_mem_nil
  | cons first flows ih =>
    obtain ⟨response, dice, hanswers⟩ := exists_answerFlows_cons_eq d first flows
    rw [hanswers] at h
    rcases List.mem_cons.mp h with hfirst | hrest
    · exact ⟨first, List.mem_cons_self, response, Message.update.inj hfirst⟩
    · obtain ⟨asked, hasked, hflow⟩ := ih hrest
      exact ⟨asked, List.mem_cons_of_mem _ hasked, hflow⟩

/-- Emitting flows answers none. -/
lemma update_notMem_nextMessages (s : Synthetic) (due : Nat) (flow : Flow) :
    .update flow ∉ (s.nextMessages due).1 := by
  induction due generalizing s with
  | zero => exact List.not_mem_nil
  | succ due ih =>
    obtain ⟨next, dice, hnext, -⟩ := exists_nextMessage_eq s
    rw [nextMessages, hnext]
    exact List.not_mem_cons_of_ne_of_not_mem nofun (ih _)

/-- A poll answers only flows that awaited a response before it. -/
lemma exists_of_update_mem_pollAt {s : Synthetic} {now : Int} {flow : Flow}
    (h : .update flow ∈ (s.pollAt now).1) :
    ∃ asked ∈ s.awaiting, ∃ response, flow = { asked with response := some response } := by
  rcases pollAt_cases s now with ⟨-, hpoll⟩ | ⟨-, -, hpoll⟩ | ⟨-, -, -, -, hpoll⟩ |
    ⟨-, rate, -, -, hpoll⟩
  · rw [hpoll, initialBatch] at h
    cases List.mem_singleton.mp h
  · rw [hpoll] at h
    exact exists_of_update_mem_answerFlows h
  · rw [hpoll] at h
    exact absurd h List.not_mem_nil
  · rw [hpoll] at h
    rcases List.mem_append.mp h with hanswer | hadd
    · exact exists_of_update_mem_answerFlows hanswer
    · exact absurd hadd (update_notMem_nextMessages _ _ flow)

/-- A stream that is not live delivers nothing and stays as it is. -/
lemma pollAt_eq_of_not_isLive {s : Synthetic} (h : s.isLive = false) (now : Int) :
    s.pollAt now = ([], s) := by
  obtain ⟨dice, generated, initialCount, started, rate, lastTick, awaiting⟩ := s
  simp only [isLive, Bool.or_eq_false_iff, Bool.not_eq_false', Option.isSome_eq_false_iff,
    Option.isNone_iff_eq_none, List.isEmpty_iff] at h
  obtain ⟨⟨rfl, rfl⟩, rfl⟩ := h
  rfl

/-- Nothing follows once a stream is not live. -/
lemma eq_nil_of_mem_deliveries {s : Synthetic} (h : s.isLive = false) (times : List Int) :
    ∀ batch ∈ s.deliveries times, batch = [] := by
  induction times with
  | nil => exact fun _ hbatch => absurd hbatch List.not_mem_nil
  | cons now times ih =>
    rw [deliveries, pollAt_eq_of_not_isLive h]
    exact List.forall_mem_cons.mpr ⟨rfl, ih⟩

/-- **A synthetic stream is a well-formed history.**  Take a store that was fed, in order, with
everything that polls at any times have delivered.  It holds the flows that were emitted, each
identity once and in the order in which they were given out.  Its requests without a response are
those that the stream is still going to answer, in order, and a flow of another kind has neither
request nor response.  Whatever the next poll answers was emitted by an earlier poll and is stored
without a response; the answer adds the response and changes nothing else, and over the whole run no
flow is answered twice.  Once the stream is not live, no later poll delivers anything. -/
theorem stream_well_formed (initialCount : Nat) (rate : Option Nat) (times : List Int) :
    let s : Synthetic := (start initialCount rate).after times
    let sent := (start initialCount rate).deliveries times
    let store := ofMessages sent.flatten
    ((identities s.generated).Nodup ∧
      (sent.flatten.flatMap Message.emitted).map Flow.id = identities s.generated ∧
      store.toList.map Flow.id = identities s.generated) ∧
    (store.toList.filter Flow.awaitsResponse = s.awaiting ∧
      ∀ flow ∈ store.toList, flow.kind ≠ .http → flow.request = none ∧ flow.response = none) ∧
    ((∀ now flow, .update flow ∈ (s.pollAt now).1 →
        ∃ asked ∈ s.awaiting, (∃ earlier ∈ sent, asked ∈ earlier.flatMap Message.emitted) ∧
          store.get? flow.id = some asked ∧ asked.kind = .http ∧ asked.response = none ∧
          ∃ response, flow = { asked with response := some response }) ∧
      ((sent.flatten.flatMap Message.answered).map Flow.id).Nodup) ∧
    (s.isLive = false → ∀ later, ∀ batch ∈ s.deliveries later, batch = []) := by
  intro s sent store
  have hhistory : History s.generated s.awaiting sent.flatten :=
    (told_after initialCount rate times).history
  refine ⟨⟨nodup_identities _, hhistory.emitted_eq, hhistory.ids_eq⟩,
    ⟨hhistory.awaiting_eq, hhistory.bare⟩, ⟨?_, hhistory.answered_nodup⟩, ?_⟩
  · intro now flow hflow
    obtain ⟨asked, hasked, response, rfl⟩ := exists_of_update_mem_pollAt hflow
    obtain ⟨hmem, hkind, hnone⟩ := hhistory.mem_of_awaiting hasked
    obtain ⟨m, hm, hemitted⟩ := List.mem_flatMap.mp (hhistory.awaiting_emitted asked hasked)
    obtain ⟨earlier, hearlier, hm⟩ := List.mem_flatten.mp hm
    exact ⟨asked, hasked, ⟨earlier, hearlier, List.mem_flatMap.mpr ⟨m, hm, hemitted⟩⟩,
      hhistory.indexed.get?_eq_some_iff.mpr ⟨hmem, rfl⟩, hkind, hnone, response, rfl⟩
  · exact fun hlive later => eq_nil_of_mem_deliveries hlive later

end Capture.Synthetic

end FlowWatch
