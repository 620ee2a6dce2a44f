import Mathlib
import FlowWatch.Proofs.SyntheticHistory

/-!
# Synthetic flows keep pace with the clock

How many flows a synthetic stream has emitted depends on how far the clock has come since the first
poll, and not on when the polls in between were made.  Comparing one schedule with another directly
leads nowhere, as the remainders that a poll leaves behind differ from one schedule to the other.
Instead the state after any schedule is computed from its latest time alone (`Paced`): the reference
time has moved on by the whole periods that have passed since the first poll, and as many flows have
been emitted.

One poll keeps this because the periods that have passed since the reference time are those that
have passed since the first poll, less the ones counted already (`dueAt_eq`); after a clock that has
gone back there are none.  Only 32 bits of the number of periods move the reference time on, so
fewer may be due at a time.
-/

namespace FlowWatch

/-- The message brings one new flow. -/
def Message.isAdd : Message → Bool
  | .add _ => true
  | _ => false

namespace Capture.Synthetic

/-! ## What a poll emits -/

/-- Emitting flows brings as many as are asked for. -/
lemma countP_isAdd_nextMessages (s : Synthetic) (due : Nat) :
    (s.nextMessages due).1.countP Message.isAdd = due := by
  induction due generalizing s with
  | zero => rfl
  | succ due ih =>
    obtain ⟨flow, dice, hnext, -⟩ := exists_nextMessage_eq s
    rw [nextMessages, hnext, List.countP_cons_of_pos rfl, ih]

/-- Answers bring no new flow. -/
lemma countP_isAdd_answerFlows (d : Dice) (flows : List Flow) :
    (answerFlows d flows).1.countP Message.isAdd = 0 := by
  induction flows generalizing d with
  | nil => rfl
  | cons flow flows ih =>
    obtain ⟨response, dice, hanswers⟩ := exists_answerFlows_cons_eq d flow flows
    rw [hanswers, List.countP_cons_of_neg Bool.false_ne_true, ih]

/-- After the first poll a stream of a period emits a flow for each period that is due, and moves
its reference time on; nothing comes from a poll when none is due. -/
lemma pollAt_of_rate {s : Synthetic} {rate : Nat} (hstarted : s.started = true)
    (hrate : s.rate = some rate) (now : Int) :
    ((s.pollAt now).2.started = true ∧ (s.pollAt now).2.rate = some rate ∧
      (s.pollAt now).2.lastTick = s.tickAfter rate (s.dueAt rate now)) ∧
    (s.pollAt now).1.countP Message.isAdd = s.dueAt rate now ∧
    (s.dueAt rate now = 0 → (s.pollAt now).1 = []) := by
  rcases pollAt_cases s now with ⟨hnot, -⟩ | ⟨-, hnone, -⟩ | ⟨-, rate', hrate', hdue, hpoll⟩ |
    ⟨-, rate', hrate', hdue, hpoll⟩
  · exact absurd (hnot.symm.trans hstarted) Bool.false_ne_true
  · exact absurd (hnone.symm.trans hrate) (Option.some_ne_none rate).symm
  · obtain rfl : rate = rate' := Option.some.inj (hrate.symm.trans hrate')
    rw [hpoll, hdue]
    exact ⟨⟨hstarted, hrate, (Int.add_zero _).symm⟩, rfl, fun _ => rfl⟩
  · obtain rfl : rate = rate' := Option.some.inj (hrate.symm.trans hrate')
    rw [hpoll]
    generalize s.dueAt rate now = due at hdue ⊢
    obtain ⟨dice, hanswers⟩ := exists_answerPending_eq { s with lastTick := s.tickAfter rate due }
    rw [hanswers]
    dsimp only
    obtain ⟨generated, last, awaiting, hafter⟩ :=
      exists_nextMessages_eq { s with lastTick := s.tickAfter rate due, dice, awaiting := [] } due
    rw [hafter, List.countP_append, countP_isAdd_answerFlows, countP_isAdd_nextMessages,
      Nat.zero_add]
    exact ⟨⟨hstarted, hrate, rfl⟩, rfl, fun hnone => absurd hnone hdue⟩

/-! ## Periods -/

/-- The latest of some times, of which the first is given apart. -/
def latest (first : Int) (times : List Int) : Int := times.foldl max first

/-- The whole periods between a first poll and the latest one. -/
def periods (rate : Nat) (first : Int) (times : List Int) : Nat :=
  (latest first times - first).toNat / rate

lemma latest_append_singleton (first : Int) (times : List Int) (now : Int) :
    latest first (times ++ [now]) = max (latest first times) now :=
  List.foldl_append

/-- No time after the first one is needed for it to be no later than the latest. -/
lemma first_le_latest (first : Int) (times : List Int) : first ≤ latest first times := by
  induction times using List.reverseRecOn with
  | nil => exact le_rfl
  | append_singleton times now ih =>
    rw [latest_append_singleton]
    exact ih.trans (le_max_left ..)

/-- A poll adds the periods until it that have not passed before. -/
lemma periods_append_singleton (rate : Nat) (first : Int) (times : List Int) (now : Int) :
    periods rate first (times ++ [now]) =
      max (periods rate first times) ((now - first).toNat / rate) := by
  have hmax : (max (latest first times) now - first).toNat =
      max (latest first times - first).toNat (now - first).toNat := by omega
  have hmono : Monotone fun time : Nat => time / rate := fun _ _ hle => Nat.div_le_div_right hle
  rw [periods, latest_append_singleton, hmax]
  exact hmono.map_max

/-- A poll at a time before the latest one adds none. -/
lemma periods_append_of_le (rate : Nat) {first : Int} {times : List Int} {now : Int}
    (h : now ≤ latest first times) :
    periods rate first (times ++ [now]) = periods rate first times := by
  rw [periods, latest_append_singleton, max_eq_left h, periods]

/-! ## The pace of a stream -/

/-- A stream that was polled at a first time and then at others has emitted one flow for every whole
period between the first and the latest of them, and its reference time has moved on by as many. -/
structure Paced (rate : Nat) (first : Int) (times : List Int) (s : Synthetic)
    (sent : List Message) : Prop where
  /-- The stream has been polled. -/
  started : s.started = true
  /-- Its period does not change. -/
  rate_eq : s.rate = some rate
  /-- The periods that have passed are counted. -/
  lastTick_eq : s.lastTick = first + (rate * periods rate first times : Nat)
  /-- A flow has been emitted for each of them. -/
  countP_eq : sent.countP Message.isAdd = periods rate first times

namespace Paced

variable {rate : Nat} {first : Int} {times : List Int} {s : Synthetic} {sent : List Message}

/-- The periods that are due at a poll are those that it adds, if 64 bits hold them. -/
lemma dueAt_eq (h : Paced rate first times s sent) (hrate : 0 < rate) (now : Int)
    (hfew : periods rate first (times ++ [now]) < periods rate first times + 2 ^ 64) :
    s.dueAt rate now = periods rate first (times ++ [now]) - periods rate first times := by
  rw [periods_append_singleton] at hfew ⊢
  have hsince : (now - s.lastTick).toNat =
      (now - first).toNat - rate * periods rate first times := by
    rw [h.lastTick_eq]
    omega
  rw [dueAt, if_neg hrate.ne', hsince, Nat.sub_mul_div, Nat.mod_eq_of_lt (by omega)]
  omega

/-- One poll keeps the pace, if fewer periods are due than 32 bits hold. -/
lemma pollAt (h : Paced rate first times s sent) (hrate : 0 < rate) {now : Int}
    (hfew : periods rate first (times ++ [now]) < periods rate first times + 2 ^ 32) :
    Paced rate first (times ++ [now]) (s.pollAt now).2 (sent ++ (s.pollAt now).1) := by
  obtain ⟨⟨hstarted, hkept, htick⟩, hcount, -⟩ := pollAt_of_rate h.started h.rate_eq now
  have hdue := h.dueAt_eq hrate now (by omega)
  have hmore : periods rate first times ≤ periods rate first (times ++ [now]) := by
    rw [periods_append_singleton]
    exact le_max_left ..
  refine ⟨hstarted, hkept, ?_, ?_⟩
  · rw [htick, tickAfter, h.lastTick_eq, hdue, Nat.mod_eq_of_lt (by omega), Int.add_assoc,
      ← Nat.cast_add, ← Nat.mul_add, Nat.add_sub_cancel' hmore]
  · rw [List.countP_append, h.countP_eq, hcount, hdue, Nat.add_sub_cancel' hmore]

/-- Nothing comes from a poll at a time before the latest one. -/
lemma pollAt_of_le (h : Paced rate first times s sent) (hrate : 0 < rate) {now : Int}
    (hback : now ≤ latest first times) : (s.pollAt now).1 = [] := by
  have hsame := periods_append_of_le rate hback
  obtain ⟨-, -, hnothing⟩ := pollAt_of_rate h.started h.rate_eq now
  apply hnothing
  rw [h.dueAt_eq hrate now (by omega), hsame, Nat.sub_self]

end Paced

/-- The first poll of a stream sets its pace. -/
lemma paced_start (initialCount rate : Nat) (first : Int) :
    Paced rate first [] ((start initialCount (some rate)).pollAt first).2
      ((start initialCount (some rate)).pollAt first).1 := by
  obtain ⟨generated, dice, awaiting, hbatch⟩ := exists_initialBatch_eq
    { start initialCount (some rate) with started := true, lastTick := first }
  have hpoll : (start initialCount (some rate)).pollAt first =
    { start initialCount (some rate) with started := true, lastTick := first }.initialBatch := rfl
  have hnone : periods rate first [] = 0 := by
    rw [periods, latest, List.foldl_nil, Int.sub_self, Int.toNat_zero, Nat.zero_div]
  rw [hpoll, hbatch]
  exact ⟨rfl, rfl, by rw [hnone]; exact (Int.add_zero _).symm, hnone.symm⟩

/-- A stream keeps the pace through polls at any times. -/
lemma paced_after (initialCount : Nat) {rate : Nat} (hrate : 0 < rate) (first : Int)
    (times : List Int)
    (hfew : ∀ n < times.length, periods rate first (times.take (n + 1)) <
      periods rate first (times.take n) + 2 ^ 32) :
    Paced rate first times ((start initialCount (some rate)).after (first :: times))
      ((start initialCount (some rate)).deliveries (first :: times)).flatten := by
  induction times using List.reverseRecOn with
  | nil =>
    have hpaced := paced_start initialCount rate first
    rwa [deliveries, deliveries, List.flatten_singleton]
  | append_singleton times now ih =>
    have hbefore (n : Nat) (hn : n < times.length) : periods rate first (times.take (n + 1)) <
        periods rate first (times.take n) + 2 ^ 32 := by
      have hprefix := hfew n (by rw [List.length_append]; omega)
      rwa [List.take_append_of_le_length hn, List.take_append_of_le_length hn.le] at hprefix
    have hlast := hfew times.length (by rw [List.length_append]; exact Nat.lt_succ_self _)
    rw [List.take_left, List.take_of_length_le (by rw [List.length_append]; rfl)] at hlast
    rw [← List.cons_append, deliveries_append_singleton, List.flatten_append,
      List.flatten_singleton, after, List.foldl_append]
    exact (ih hbefore).pollAt hrate hlast

/-- **Pacing does not depend on the schedule.**  Let a stream with a period be polled at a first
time and then at any others, in any order, with fewer periods due at each poll than 32 bits hold.
All polls together have emitted as many new flows as whole periods lie between the first and the
latest time.  A poll at a time that is not after the latest one delivers nothing. -/
theorem pacing_ignores_schedule (initialCount rate : Nat) (first : Int) (times : List Int)
    (hrate : 0 < rate)
    (hfew : ∀ n < times.length, periods rate first (times.take (n + 1)) <
      periods rate first (times.take n) + 2 ^ 32) :
    let s : Synthetic := start initialCount (some rate)
    (((s.deliveries (first :: times)).flatten.countP Message.isAdd : Nat) : Int) =
      (latest first times - first) / rate ∧
    ∀ now ≤ latest first times, ((s.after (first :: times)).pollAt now).1 = [] := by
  intro s
  have hpaced := paced_after initialCount hrate first times hfew
  refine ⟨?_, fun now hback => hpaced.pollAt_of_le hrate hback⟩
  rw [hpaced.countP_eq, periods, Int.natCast_div,
    Int.toNat_of_nonneg (Int.sub_nonneg_of_le (first_le_latest first times))]

/-- Polls at a period of ten units: too early, late, at the same time again, at a time that has
passed, just before a period is over and at its end. -/
theorem pacing_ignores_schedule_back_and_forth :
    (0 < 10 ∧ ∀ n < [104, 127, 127, 90, 139, 140].length,
      periods 10 100 ([104, 127, 127, 90, 139, 140].take (n + 1)) <
        periods 10 100 ([104, 127, 127, 90, 139, 140].take n) + 2 ^ 32) ∧
    let s : Synthetic := start 3 (some 10)
    (s.deliveries [100, 104, 127, 127, 90, 139, 140]).flatten.countP Message.isAdd = 4 ∧
      ((s.after [100, 104, 127, 127, 90, 139, 140]).pollAt 135).1 = [] := by
  have hfew : ∀ n < [104, 127, 127, 90, 139, 140].length,
      periods 10 100 ([104, 127, 127, 90, 139, 140].take (n + 1)) <
        periods 10 100 ([104, 127, 127, 90, 139, 140].take n) + 2 ^ 32 := by
    decide
  obtain ⟨hcount, hback⟩ := pacing_ignores_schedule 3 10 100 [104, 127, 127, 90, 139, 140]
    (by decide) hfew
  exact ⟨⟨by decide, hfew⟩, Int.ofNat_inj.mp hcount, hback 135 (by decide)⟩

end Capture.Synthetic

end FlowWatch
