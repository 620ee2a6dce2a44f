import Mathlib
import FlowWatch.Store

/-!
# The store as an ordered map

A store keeps its flows twice: in an array by arrival, and in a hash map from identities to places
in that array.  What it stands for is the sequence alone (`toList`), in which flows are told apart by
identity.  `Effect` says what a message does to such a sequence and what is reported of it, without
any index; `latest` is what is left of flows that are stored one after another.

The two parts of a store belong together as long as the map sends exactly the stored identities to
their places (`Indexed`).  Every message keeps that, removals included, where all later places move
up by one; everything else follows from it.
-/

namespace FlowWatch

/-- The flow that a message brings, if it brings a single one. -/
def Message.arrival : Message → Option Flow
  | .add flow => some flow
  | .update flow => some flow
  | .remove _ => none
  | .reset _ => none

namespace FlowStore

/-- The flows of a store in order of arrival. -/
def toList (s : FlowStore) : List Flow := s.flows.toList

lemma toList_set (s : FlowStore) (index : Std.HashMap FlowId Nat) (i : Nat) (flow : Flow) :
    toList ⟨s.flows.setIfInBounds i flow, index⟩ = s.toList.set i flow :=
  Array.toList_setIfInBounds ..

lemma toList_push (s : FlowStore) (index : Std.HashMap FlowId Nat) (flow : Flow) :
    toList ⟨s.flows.push flow, index⟩ = s.toList ++ [flow] :=
  Array.toList_push

lemma toList_erase (s : FlowStore) (index : Std.HashMap FlowId Nat) (place : Nat) :
    toList ⟨s.flows.eraseIdxIfInBounds place, index⟩ = s.toList.eraseIdx place :=
  Array.toList_eraseIdxIfInBounds

/-! ## Sequences of flows -/

/-- The last flow of an identity. -/
def lastOf (flows : List Flow) (id : FlowId) : Option Flow :=
  flows.reverse.find? fun flow => flow.id = id

/-- One flow for each identity, the last one, in order of the first ones. -/
def latest (flows : List Flow) : List Flow :=
  (flows.map Flow.id).eraseDups.filterMap (lastOf flows)

/-- A flow takes the place of the flow of the same identity, or comes last. -/
def put (flows : List Flow) (flow : Flow) : List Flow :=
  if flow.id ∈ flows.map Flow.id then
    flows.map fun old => if old.id = flow.id then flow else old
  else flows ++ [flow]

/-- What a message does to a sequence of flows, and what is reported of it. -/
inductive Effect : List Flow → Message → StoreChange → List Flow → Prop
  /-- A flow of a new identity comes last. -/
  | added {flows : List Flow} {m : Message} {flow : Flow} (hm : m.arrival = some flow)
      (hnew : ∀ old ∈ flows, old.id ≠ flow.id) : Effect flows m .added (flows ++ [flow])
  /-- A flow takes the place of another one of its identity. -/
  | updated {before after : List Flow} {old : Flow} {m : Message} {flow : Flow}
      (hm : m.arrival = some flow) (hid : old.id = flow.id) (hne : old ≠ flow) :
      Effect (before ++ old :: after) m .updated (before ++ flow :: after)
  /-- A flow that is there already changes nothing. -/
  | present {flows : List Flow} {m : Message} {flow : Flow} (hm : m.arrival = some flow)
      (hmem : flow ∈ flows) : Effect flows m .unchanged flows
  /-- The flow of an identity is taken out. -/
  | removed {before after : List Flow} {old : Flow} :
      Effect (before ++ old :: after) (.remove old.id) .removed (before ++ after)
  /-- Without a flow of the identity nothing is taken out. -/
  | absent {flows : List Flow} {id : FlowId} (hnew : ∀ old ∈ flows, old.id ≠ id) :
      Effect flows (.remove id) .unchanged flows
  /-- Other flows take the place of all. -/
  | reset {flows new : List Flow} : Effect flows (.reset new) .reset (latest new)

/-- What is reported as no change has changed nothing. -/
lemma Effect.eq_of_not_isChange {flows after : List Flow} {m : Message} {change : StoreChange}
    (h : Effect flows m change after) (hchange : change.isChange = false) : after = flows := by
  cases h with
  | added => cases hchange
  | updated => cases hchange
  | present => rfl
  | removed => cases hchange
  | absent => rfl
  | reset => cases hchange

/-- One more flow is the last one of its identity. -/
lemma lastOf_append_singleton (flows : List Flow) (flow : Flow) (id : FlowId) :
    lastOf (flows ++ [flow]) id = if flow.id = id then some flow else lastOf flows id := by
  rw [lastOf, List.reverse_append, List.reverse_singleton, List.singleton_append, List.find?_cons]
  by_cases h : flow.id = id
  · simp [h]
  · simp [h, lastOf]

/-- The last flow of an identity has that identity. -/
lemma id_of_lastOf {flows : List Flow} {id : FlowId} {flow : Flow}
    (h : lastOf flows id = some flow) : flow.id = id := by
  simpa using List.find?_some h

/-- Every identity of a sequence has a last flow. -/
lemma exists_lastOf {flows : List Flow} {id : FlowId} (h : id ∈ flows.map Flow.id) :
    ∃ flow, lastOf flows id = some flow := by
  obtain ⟨flow, hmem, hid⟩ := List.mem_map.mp h
  rw [← Option.isSome_iff_exists, lastOf, List.find?_isSome]
  exact ⟨flow, List.mem_reverse.mpr hmem, decide_eq_true hid⟩

/-- The identities of the latest flows are those of all. -/
lemma mem_ids_latest {flows : List Flow} {id : FlowId} :
    id ∈ (latest flows).map Flow.id ↔ id ∈ flows.map Flow.id := by
  rw [List.mem_map]
  constructor
  · rintro ⟨flow, hmem, rfl⟩
    obtain ⟨id, hid, hlast⟩ := List.mem_filterMap.mp hmem
    rw [id_of_lastOf hlast]
    exact List.mem_eraseDups.mp hid
  · intro h
    obtain ⟨flow, hlast⟩ := exists_lastOf h
    exact ⟨flow, List.mem_filterMap.mpr ⟨id, List.mem_eraseDups.mpr h, hlast⟩, id_of_lastOf hlast⟩

/-- One more flow is put into what is left of the ones before it. -/
lemma latest_append_singleton (flows : List Flow) (flow : Flow) :
    latest (flows ++ [flow]) = put (latest flows) flow := by
  have hlast := lastOf_append_singleton flows flow
  rw [put]
  simp only [mem_ids_latest]
  rw [latest, List.map_append, List.map_singleton, List.eraseDups_append]
  split
  · rename_i hknown
    have hnone : [flow.id].removeAll (flows.map Flow.id) = [] := by
      simp [List.removeAll, List.mem_map.mp hknown]
    rw [hnone, List.eraseDups_nil, List.append_nil, latest, List.map_filterMap]
    apply List.filterMap_congr
    intro id hid
    obtain ⟨old, hold⟩ := exists_lastOf (List.mem_eraseDups.mp hid)
    rw [hlast, hold, Option.map_some, id_of_lastOf hold]
    by_cases h : flow.id = id
    · rw [if_pos h, if_pos h.symm]
    · rw [if_neg h, if_neg (Ne.symm h)]
  · rename_i hnew
    have hone : [flow.id].removeAll (flows.map Flow.id) = [flow.id] := by
      simpa [List.removeAll] using hnew
    have hold :
        (flows.map Flow.id).eraseDups.filterMap (lastOf (flows ++ [flow])) = latest flows := by
      apply List.filterMap_congr
      intro id hid
      rw [hlast, if_neg]
      rintro rfl
      exact hnew (List.mem_eraseDups.mp hid)
    rw [hone, List.filterMap_append, hold]
    simp [hlast, List.eraseDups_cons]

/-! ## The index of a store -/

/-- The index sends exactly the stored identities to their places. -/
def Indexed (s : FlowStore) : Prop :=
  ∀ (id : FlowId) (i : Nat),
    s.index[id]? = some i ↔ ∃ flow : Flow, s.toList[i]? = some flow ∧ flow.id = id

variable {s : FlowStore}

/-- A store without flows has an empty index. -/
lemma indexed_empty : empty.Indexed := by
  intro id i
  simp [empty, toList]

namespace Indexed

/-- Flows at different places have different identities. -/
lemma place_eq (h : s.Indexed) {i j : Nat} {a b : Flow} (ha : s.toList[i]? = some a)
    (hb : s.toList[j]? = some b) (hid : a.id = b.id) : i = j := by
  have hi : s.index[b.id]? = some i := (h _ _).mpr ⟨a, ha, hid⟩
  have hj : s.index[b.id]? = some j := (h _ _).mpr ⟨b, hb, rfl⟩
  rw [hi] at hj
  exact Option.some.inj hj

/-- The identities of the stored flows are distinct. -/
lemma nodup_ids (h : s.Indexed) : (s.toList.map Flow.id).Nodup := by
  rw [List.nodup_iff_getElem?_ne_getElem?]
  intro i j hij hj heq
  have hj' : j < s.toList.length := by simpa using hj
  rw [List.getElem?_map, List.getElem?_map, List.getElem?_eq_getElem hj',
    List.getElem?_eq_getElem (hij.trans hj')] at heq
  exact hij.ne (h.place_eq (List.getElem?_eq_getElem _) (List.getElem?_eq_getElem _)
    (Option.some.inj heq))

/-- An identity has no place exactly if no stored flow has it. -/
lemma index_eq_none_iff (h : s.Indexed) {id : FlowId} :
    s.index[id]? = none ↔ ∀ flow ∈ s.toList, flow.id ≠ id := by
  constructor
  · rintro hnone flow hmem rfl
    obtain ⟨i, hi⟩ := List.mem_iff_getElem?.mp hmem
    rw [(h _ _).mpr ⟨flow, hi, rfl⟩] at hnone
    cases hnone
  · intro hnew
    rw [Option.eq_none_iff_forall_ne_some]
    intro i hi
    obtain ⟨flow, hflow, hid⟩ := (h _ _).mp hi
    exact hnew flow (List.mem_of_getElem? hflow) hid

/-- Looking an identity up gives the one stored flow that has it. -/
lemma get?_eq_some_iff (h : s.Indexed) {id : FlowId} {flow : Flow} :
    s.get? id = some flow ↔ flow ∈ s.toList ∧ flow.id = id := by
  have hget : ∀ i, s.flows[i]? = s.toList[i]? := fun i => Array.getElem?_toList.symm
  rw [get?, Option.bind_eq_some_iff]
  simp only [hget]
  constructor
  · rintro ⟨i, hi, hflow⟩
    obtain ⟨found, hfound, hid⟩ := (h _ _).mp hi
    rw [hflow] at hfound
    cases hfound
    exact ⟨List.mem_of_getElem? hflow, hid⟩
  · rintro ⟨hmem, hid⟩
    obtain ⟨i, hi⟩ := List.mem_iff_getElem?.mp hmem
    exact ⟨i, (h _ _).mpr ⟨flow, hi, hid⟩, hi⟩

/-- An identity is there exactly if a stored flow has it. -/
lemma contains_iff (h : s.Indexed) {id : FlowId} :
    s.contains id = true ↔ ∃ flow ∈ s.toList, flow.id = id := by
  rw [contains, Std.HashMap.contains_eq_isSome_getElem?, ← not_iff_not, Bool.not_eq_true,
    Option.isSome_eq_false_iff, Option.isNone_iff_eq_none, h.index_eq_none_iff]
  push Not
  rfl

end Indexed

/-! ## One message -/

/-- What storing a flow does: the flow is there already, takes the place of another one of its
identity, or comes last. -/
lemma upsert_cases (h : s.Indexed) (flow : Flow) :
    (flow ∈ s.toList ∧ s.upsert flow = (s, .unchanged)) ∨
    (∃ i old, s.toList[i]? = some old ∧ old.id = flow.id ∧ old ≠ flow ∧
      s.upsert flow = (⟨s.flows.setIfInBounds i flow, s.index⟩, .updated)) ∨
    ((∀ old ∈ s.toList, old.id ≠ flow.id) ∧
      s.upsert flow = (⟨s.flows.push flow, s.index.insert flow.id s.flows.size⟩, .added)) := by
  unfold upsert
  cases hplace : s.index[flow.id]? with
  | none => exact .inr (.inr ⟨h.index_eq_none_iff.mp hplace, rfl⟩)
  | some i =>
    obtain ⟨old, hold, hid⟩ := (h _ _).mp hplace
    have hget : s.flows[i]? = some old := by
      rw [← Array.getElem?_toList]
      exact hold
    simp only [hget]
    by_cases hsame : old = flow
    · subst hsame
      exact .inl ⟨List.mem_of_getElem? hold, if_pos rfl⟩
    · exact .inr (.inl ⟨i, old, hold, hid, hsame, if_neg (mt Option.some.inj hsame)⟩)

/-- What removing an identity does: the flow at its place is taken out, or there is none. -/
lemma remove_cases (h : s.Indexed) (id : FlowId) :
    (∃ place old, s.toList[place]? = some old ∧ old.id = id ∧
      s.remove id = (⟨s.flows.eraseIdxIfInBounds place,
        (s.index.erase id).map fun _ i => if place < i then i - 1 else i⟩, .removed)) ∨
    ((∀ old ∈ s.toList, old.id ≠ id) ∧ s.remove id = (s, .unchanged)) := by
  unfold remove
  cases hplace : s.index[id]? with
  | none => exact .inr ⟨h.index_eq_none_iff.mp hplace, rfl⟩
  | some place =>
    obtain ⟨old, hold, hid⟩ := (h _ _).mp hplace
    exact .inl ⟨place, old, hold, hid, rfl⟩

/-- Replacing a flow by one of its identity leaves the identities where they are. -/
lemma indexed_set (h : s.Indexed) {i : Nat} {old flow : Flow} (hold : s.toList[i]? = some old)
    (hid : old.id = flow.id) : Indexed ⟨s.flows.setIfInBounds i flow, s.index⟩ := by
  intro id j
  have hi : i < s.toList.length := (List.getElem?_eq_some_iff.mp hold).1
  rw [toList_set, List.getElem?_set]
  refine (h id j).trans ?_
  by_cases hj : i = j
  · subst hj
    rw [if_pos rfl, if_pos hi, hold]
    simp [hid]
  · rw [if_neg hj]

/-- The places of a sequence with one more flow. -/
lemma getElem?_append_singleton_eq_some_iff {flows : List Flow} {flow found : Flow} {i : Nat} :
    (flows ++ [flow])[i]? = some found ↔
      flows[i]? = some found ∨ i = flows.length ∧ flow = found := by
  rcases lt_trichotomy i flows.length with hlt | rfl | hgt
  · rw [List.getElem?_append_left hlt]
    simp [hlt.ne]
  · simp
  · rw [List.getElem?_eq_none (by simpa using hgt), List.getElem?_eq_none hgt.le]
    simp [hgt.ne']

/-- A flow of a new identity gets the place after the last one. -/
lemma indexed_push (h : s.Indexed) {flow : Flow} (hnew : ∀ old ∈ s.toList, old.id ≠ flow.id) :
    Indexed ⟨s.flows.push flow, s.index.insert flow.id s.flows.size⟩ := by
  intro id i
  have hsize : s.flows.size = s.toList.length := Array.length_toList.symm
  rw [toList_push, Std.HashMap.getElem?_insert, hsize]
  simp only [getElem?_append_singleton_eq_some_iff, beq_iff_eq]
  by_cases hid : flow.id = id
  · rw [if_pos hid, Option.some.injEq]
    constructor
    · rintro rfl
      exact ⟨flow, .inr ⟨rfl, rfl⟩, hid⟩
    · rintro ⟨found, hold | ⟨rfl, -⟩, hfound⟩
      · exact absurd (hfound.trans hid.symm) (hnew found (List.mem_of_getElem? hold))
      · rfl
  · rw [if_neg hid, h id i]
    constructor
    · rintro ⟨found, hold, hfound⟩
      exact ⟨found, .inl hold, hfound⟩
    · rintro ⟨found, hold | ⟨-, rfl⟩, hfound⟩
      · exact ⟨found, hold, hfound⟩
      · exact absurd hfound hid

/-- When a flow is taken out, those after it move up by one place, and so do their places in the
index. -/
lemma indexed_erase (h : s.Indexed) {place : Nat} {old : Flow}
    (hold : s.toList[place]? = some old) :
    Indexed ⟨s.flows.eraseIdxIfInBounds place,
      (s.index.erase old.id).map fun _ i => if place < i then i - 1 else i⟩ := by
  intro id i
  rw [toList_erase, List.getElem?_eraseIdx, Std.HashMap.getElem?_map, Std.HashMap.getElem?_erase]
  by_cases hid : old.id = id
  · -- the identity is gone from the index, and no other flow had it
    rw [if_pos (beq_iff_eq.mpr hid), Option.map_none]
    refine iff_of_false (by simp) ?_
    rintro ⟨found, hfound, rfl⟩
    split at hfound
    · have hplace := h.place_eq hold hfound hid
      omega
    · have hplace := h.place_eq hold hfound hid
      omega
  · rw [if_neg (by simpa using hid), Option.map_eq_some_iff]
    constructor
    · rintro ⟨j, hj, rfl⟩
      obtain ⟨found, hfound, hfid⟩ := (h id j).mp hj
      have hne : j ≠ place := by
        rintro rfl
        rw [hold] at hfound
        cases hfound
        exact hid hfid
      refine ⟨found, ?_, hfid⟩
      split
      · rw [if_neg (by omega), Nat.sub_add_cancel (by omega)]
        exact hfound
      · rw [if_pos (by omega)]
        exact hfound
    · rintro ⟨found, hfound, hfid⟩
      split at hfound
      · exact ⟨i, (h id i).mpr ⟨found, hfound, hfid⟩, if_neg (by omega)⟩
      · exact ⟨i + 1, (h id (i + 1)).mpr ⟨found, hfound, hfid⟩, if_pos (by omega)⟩

/-- Storing a flow keeps the index exact. -/
lemma Indexed.upsert (h : s.Indexed) (flow : Flow) : (s.upsert flow).1.Indexed := by
  obtain ⟨-, heq⟩ | ⟨i, old, hold, hid, -, heq⟩ | ⟨hnew, heq⟩ := upsert_cases h flow
  · rwa [heq]
  · rw [heq]
    exact indexed_set h hold hid
  · rw [heq]
    exact indexed_push h hnew

/-- Removing an identity keeps the index exact. -/
lemma Indexed.remove (h : s.Indexed) (id : FlowId) : (s.remove id).1.Indexed := by
  obtain ⟨place, old, hold, rfl, heq⟩ | ⟨-, heq⟩ := remove_cases h id
  · rw [heq]
    exact indexed_erase h hold
  · rwa [heq]

/-- Storing a flow puts it into the sequence. -/
lemma Indexed.toList_upsert (h : s.Indexed) (flow : Flow) :
    (s.upsert flow).1.toList = put s.toList flow := by
  rw [put]
  obtain ⟨hmem, heq⟩ | ⟨i, old, hold, hid, -, heq⟩ | ⟨hnew, heq⟩ := upsert_cases h flow
  · rw [heq, if_pos (List.mem_map_of_mem hmem)]
    symm
    refine (List.map_congr_left fun old hold => ?_).trans (List.map_id _)
    split
    · rename_i hid
      have hflow := h.get?_eq_some_iff.mpr ⟨hmem, rfl⟩
      rw [h.get?_eq_some_iff.mpr ⟨hold, hid⟩] at hflow
      exact (Option.some.inj hflow).symm
    · rfl
  · have hi : i < s.toList.length := (List.getElem?_eq_some_iff.mp hold).1
    rw [heq, if_pos (List.mem_map.mpr ⟨old, List.mem_of_getElem? hold, hid⟩), toList_set]
    apply List.ext_getElem?
    intro j
    rw [List.getElem?_set, List.getElem?_map]
    by_cases hj : i = j
    · subst hj
      rw [if_pos rfl, if_pos hi, hold, Option.map_some, if_pos hid]
    · rw [if_neg hj]
      cases hother : s.toList[j]? with
      | none => rfl
      | some other =>
        have hne : other.id ≠ flow.id := fun hsame =>
          hj (h.place_eq hold hother (hid.trans hsame.symm))
        rw [Option.map_some, if_neg hne]
  · rw [heq, if_neg]
    · exact toList_push ..
    · rintro hmem
      obtain ⟨old, hold, hid⟩ := List.mem_map.mp hmem
      exact hnew old hold hid

/-- Flows that are stored one after another leave the latest of each identity and an exact
index. -/
lemma ofFlows_spec (flows : List Flow) :
    (ofFlows flows).Indexed ∧ (ofFlows flows).toList = latest flows := by
  induction flows using List.reverseRecOn with
  | nil => exact ⟨indexed_empty, rfl⟩
  | append_singleton flows flow ih =>
    obtain ⟨hindexed, hlist⟩ := ih
    have hstep : ofFlows (flows ++ [flow]) = ((ofFlows flows).upsert flow).1 :=
      List.foldl_append
    rw [hstep, latest_append_singleton, ← hlist]
    exact ⟨hindexed.upsert flow, hindexed.toList_upsert flow⟩

/-- Every message keeps the index exact. -/
lemma Indexed.change (h : s.Indexed) (m : Message) : (s.change m).1.Indexed := by
  cases m with
  | add flow => exact h.upsert flow
  | update flow => exact h.upsert flow
  | remove id => exact h.remove id
  | reset flows => exact (ofFlows_spec flows).1

/-- Storing a flow has the effect of a message that brings it. -/
lemma upsert_effect (h : s.Indexed) {m : Message} {flow : Flow} (hm : m.arrival = some flow) :
    Effect s.toList m (s.upsert flow).2 (s.upsert flow).1.toList := by
  obtain ⟨hmem, heq⟩ | ⟨i, old, hold, hid, hne, heq⟩ | ⟨hnew, heq⟩ := upsert_cases h flow
  · rw [heq]
    exact .present hm hmem
  · obtain ⟨hi, hget⟩ := List.getElem?_eq_some_iff.mp hold
    have hsplit : s.toList = s.toList.take i ++ old :: s.toList.drop (i + 1) := by
      rw [← hget, List.getElem_cons_drop, List.take_append_drop]
    have heffect : Effect (s.toList.take i ++ old :: s.toList.drop (i + 1)) m .updated
        (s.toList.take i ++ flow :: s.toList.drop (i + 1)) := .updated hm hid hne
    rw [heq, toList_set, List.set_eq_take_append_cons_drop, if_pos hi]
    rwa [← hsplit] at heffect
  · rw [heq, toList_push]
    exact .added hm hnew

/-- Removing an identity has the effect of the message that asks for it. -/
lemma remove_effect (h : s.Indexed) (id : FlowId) :
    Effect s.toList (.remove id) (s.remove id).2 (s.remove id).1.toList := by
  obtain ⟨place, old, hold, rfl, heq⟩ | ⟨hnew, heq⟩ := remove_cases h id
  · obtain ⟨hplace, hget⟩ := List.getElem?_eq_some_iff.mp hold
    have hsplit : s.toList = s.toList.take place ++ old :: s.toList.drop (place + 1) := by
      rw [← hget, List.getElem_cons_drop, List.take_append_drop]
    have heffect : Effect (s.toList.take place ++ old :: s.toList.drop (place + 1))
        (.remove old.id) .removed (s.toList.take place ++ s.toList.drop (place + 1)) := .removed
    rw [heq, toList_erase, List.eraseIdx_eq_take_drop_succ]
    rwa [← hsplit] at heffect
  · rw [heq]
    exact .absent hnew

/-- Every message has the effect that is reported of it. -/
lemma change_effect (h : s.Indexed) (m : Message) :
    Effect s.toList m (s.change m).2 (s.change m).1.toList := by
  cases m with
  | add flow => exact upsert_effect h rfl
  | update flow => exact upsert_effect h rfl
  | remove id => exact remove_effect h id
  | reset flows =>
    have hlist : (s.change (.reset flows)).1.toList = latest flows := (ofFlows_spec flows).2
    rw [hlist]
    exact .reset

/-- Messages applied one after another keep the index exact, and if none of them is reported as a
change the sequence is the one there was. -/
lemma applyAll_spec (h : s.Indexed) (messages : List Message) :
    (s.applyAll messages).value.1.Indexed ∧
      ((s.applyAll messages).value.2 = false →
        (s.applyAll messages).value.1.toList = s.toList) := by
  induction messages generalizing s with
  | nil => exact ⟨h, fun _ => rfl⟩
  | cons m messages ih =>
    obtain ⟨hindexed, hsame⟩ := ih (h.change m)
    rw [value_applyAll_cons]
    refine ⟨hindexed, fun hchanged => ?_⟩
    obtain ⟨hfirst, hrest⟩ := Bool.or_eq_false_iff.mp hchanged
    exact (hsame hrest).trans ((change_effect h m).eq_of_not_isChange hfirst)

/-! ## A run -/

/-- One call on a store. -/
inductive Call where
  | apply (message : Message)
  | applyAll (messages : List Message)

/-- The store after a call. -/
def step (s : FlowStore) : Call → FlowStore
  | .apply message => (s.apply message).value.1
  | .applyAll messages => (s.applyAll messages).value.1

/-- The store after a sequence of calls. -/
def run (s : FlowStore) (calls : List Call) : FlowStore := calls.foldl step s

/-- After any sequence of calls the index is exact. -/
lemma indexed_run (h : s.Indexed) (calls : List Call) : (s.run calls).Indexed := by
  induction calls generalizing s with
  | nil => exact h
  | cons call calls ih =>
    apply ih
    cases call with
    | apply message => exact h.change message
    | applyAll messages => exact (applyAll_spec h messages).1

/-- **Arrival order.**  After any sequence of calls on a store of any flows, identities are stored
once, the index sends exactly them to their places, so that an identity is looked up to the one flow
that has it, and every message has the effect on the sequence that is reported of it.  Messages of
which none is reported as a change leave the sequence as it is. -/
theorem store_keeps_arrival_order (flows : List Flow) (calls : List Call) :
    let s := (ofFlows flows).run calls
    (ofFlows flows).toList = latest flows ∧
    (s.toList.map Flow.id).Nodup ∧
    (∀ (id : FlowId) (i : Nat),
      s.index[id]? = some i ↔ ∃ flow : Flow, s.toList[i]? = some flow ∧ flow.id = id) ∧
    (∀ (id : FlowId) (flow : Flow), s.get? id = some flow ↔ flow ∈ s.toList ∧ flow.id = id) ∧
    (∀ id : FlowId, s.contains id = true ↔ ∃ flow ∈ s.toList, flow.id = id) ∧
    (∀ m : Message, Effect s.toList m (s.apply m).value.2 (s.apply m).value.1.toList) ∧
    ∀ messages : List Message, (s.applyAll messages).value.2 = false →
      (s.applyAll messages).value.1.toList = s.toList := by
  intro s
  obtain ⟨hstart, hlist⟩ := ofFlows_spec flows
  have h : s.Indexed := indexed_run hstart calls
  exact ⟨hlist, h.nodup_ids, h, fun id flow => h.get?_eq_some_iff, fun id => h.contains_iff,
    change_effect h, fun messages => (applyAll_spec h messages).2⟩

end FlowStore

end FlowWatch
