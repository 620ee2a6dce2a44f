import Mathlib
import FlowWatch.Table.OrderedView

/-!
# The rows of a derived view

A view is derived by one pass over the captured sequence that appends a row for every flow the
filter lets through.  Here its rows are described as a whole: they are the admitted flows with their
positions, in the order of the sequence (`admittedRows`).  From that a row of the view is read off
without going back to the pass.

The rows of identities are the one thing that the list does not tell, as an identity that comes
again takes the row of the earlier one over.  Of them the pass keeps two things: the row of an
identity shows it (`idAt_of_indexOf_derive`), and every identity that is shown has a row
(`exists_indexOf_derive`).  Where identities are distinct this leaves no choice.
-/

namespace FlowWatch

namespace OrderedView

/-- The flows that a filter lets through, with their positions in the captured sequence. -/
def admittedRows (flows : Array Flow) (spec : FilterSpec) : List (Flow × Nat) :=
  flows.toList.zipIdx.filter fun row => spec.admits row.1

variable {flows : Array Flow} {spec : FilterSpec}

/-- The admitted rows are the admitted flows at their positions. -/
lemma mem_admittedRows {flow : Flow} {position : Nat} :
    (flow, position) ∈ admittedRows flows spec ↔
      flows[position]? = some flow ∧ spec.admits flow = true := by
  rw [admittedRows, List.mem_filter, List.mk_mem_zipIdx_iff_getElem?, Array.getElem?_toList]

/-- A pass over some flows appends the admitted ones to a view. -/
lemma foldl_push (spec : FilterSpec) (rows : List (Flow × Nat)) (view : OrderedView) :
    let passed := rows.foldl (fun view (flow, position) =>
      if spec.admits flow then view.push position flow.id else view) view
    let admitted := rows.filter fun row => spec.admits row.1
    passed.positions.toList = view.positions.toList ++ admitted.map (fun row => row.2) ∧
      passed.ids.toList = view.ids.toList ++ admitted.map (fun row => row.1.id) := by
  induction rows generalizing view with
  | nil => simp
  | cons row rows ih =>
    obtain ⟨hpositions, hids⟩ := ih (if spec.admits row.1 then view.push row.2 row.1.id else view)
    simp only [List.foldl_cons, List.filter_cons]
    rw [hpositions, hids]
    by_cases hadmits : spec.admits row.1 = true
    · simp [hadmits, push]
    · simp [hadmits]

/-- The positions of a derived view are those of the admitted flows. -/
theorem positions_derive (flows : Array Flow) (spec : FilterSpec) :
    (derive flows spec).positions.toList =
      (admittedRows flows spec).map (fun row => row.2) := by
  obtain ⟨hpositions, -⟩ := foldl_push spec flows.toList.zipIdx empty
  exact hpositions

/-- The identities of a derived view are those of the admitted flows. -/
theorem ids_derive (flows : Array Flow) (spec : FilterSpec) :
    (derive flows spec).ids.toList =
      (admittedRows flows spec).map (fun row => row.1.id) := by
  obtain ⟨-, hids⟩ := foldl_push spec flows.toList.zipIdx empty
  exact hids

/-- A derived view has one row for every admitted flow. -/
theorem len_derive (flows : Array Flow) (spec : FilterSpec) :
    (derive flows spec).len = (admittedRows flows spec).length := by
  rw [len, ← Array.length_toList, ids_derive, List.length_map]

/-- Flows that are appended to the captured sequence leave the admitted rows before them. -/
lemma admittedRows_initial_append (flows more : Array Flow) (spec : FilterSpec) :
    admittedRows flows spec <+: admittedRows (flows ++ more) spec := by
  rw [admittedRows, admittedRows, Array.toList_append, List.zipIdx_append, List.filter_append]
  exact List.prefix_append ..

/-- A longer captured sequence has a view that is at least as long. -/
lemma len_derive_append_le (flows more : Array Flow) (spec : FilterSpec) :
    (derive flows spec).len ≤ (derive (flows ++ more) spec).len := by
  rw [len_derive, len_derive]
  exact (admittedRows_initial_append flows more spec).length_le

/-- The position in a row of a derived view. -/
lemma positionAt_derive (flows : Array Flow) (spec : FilterSpec) (index : Nat) :
    (derive flows spec).positionAt index =
      (admittedRows flows spec)[index]?.map (fun row => row.2) := by
  rw [positionAt, ← Array.getElem?_toList, positions_derive, List.getElem?_map]

/-- The identity in a row of a derived view. -/
lemma idAt_derive (flows : Array Flow) (spec : FilterSpec) (index : Nat) :
    (derive flows spec).idAt index =
      (admittedRows flows spec)[index]?.map (fun row => row.1.id) := by
  rw [idAt, ← Array.getElem?_toList, ids_derive, List.getElem?_map]

/-- What holds of the empty view, and goes on holding when a row is appended, holds of a derived
view. -/
lemma derive_induction {P : OrderedView → Prop} (hempty : P empty)
    (hpush : ∀ view position id, P view → P (view.push position id)) (flows : Array Flow)
    (spec : FilterSpec) : P (derive flows spec) := by
  refine List.foldlRecOn _ _ hempty fun view hview row _ => ?_
  dsimp only
  split
  · exact hpush view row.2 row.1.id hview
  · exact hview

/-- The row of an identity in a derived view shows it. -/
theorem idAt_of_indexOf_derive {id : FlowId} {index : Nat}
    (h : (derive flows spec).indexOf id = some index) :
    (derive flows spec).idAt index = some id := by
  refine derive_induction
    (P := fun view => ∀ id index, view.indexOf id = some index → view.idAt index = some id)
    (fun id index hnone => ?_) (fun view position new hview shown place hplace => ?_) flows spec
    id index h
  · simp [indexOf, empty] at hnone
  · rw [indexOf, push, Std.HashMap.getElem?_insert] at hplace
    rw [idAt, push, Array.getElem?_push]
    split at hplace
    · rename_i hnew
      rw [if_pos (Option.some.inj hplace).symm, eq_of_beq hnew]
    · have hold : view.ids[place]? = some shown := hview shown place hplace
      have hlt : place < view.ids.size := (Array.getElem?_eq_some_iff.mp hold).1
      rw [if_neg hlt.ne, hold]

/-- The row of an identity in a derived view is one of its rows. -/
lemma lt_len_of_indexOf_derive {id : FlowId} {index : Nat}
    (h : (derive flows spec).indexOf id = some index) : index < (derive flows spec).len :=
  (Array.getElem?_eq_some_iff.mp (idAt_of_indexOf_derive h)).1

/-- An identity that a derived view shows has a row in it. -/
lemma exists_indexOf_derive {id : FlowId} (h : id ∈ (derive flows spec).ids) :
    ∃ index, (derive flows spec).indexOf id = some index := by
  have hmem : id ∈ (derive flows spec).rowOf := by
    refine derive_induction (P := fun view => ∀ id ∈ view.ids, id ∈ view.rowOf)
      (fun id hnone => absurd hnone (Array.not_mem_empty id))
      (fun view position new hview shown hshown => ?_) flows spec id h
    rw [push, Std.HashMap.mem_insert, beq_iff_eq]
    rcases Array.mem_push.mp hshown with hold | hnew
    · exact .inr (hview shown hold)
    · exact .inl hnew.symm
  exact ⟨_, Std.HashMap.getElem?_eq_some_getElem hmem⟩

/-- An identity has no row exactly if no row shows it. -/
lemma indexOf_derive_eq_none_iff {id : FlowId} :
    (derive flows spec).indexOf id = none ↔ id ∉ (derive flows spec).ids := by
  constructor
  · intro hnone hmem
    obtain ⟨index, hindex⟩ := exists_indexOf_derive hmem
    rw [hnone] at hindex
    cases hindex
  · intro hmem
    rw [Option.eq_none_iff_forall_ne_some]
    intro index hindex
    exact hmem (Array.mem_of_getElem? (idAt_of_indexOf_derive hindex))

/-- Flows of distinct identities are shown with distinct identities. -/
lemma nodup_ids_derive (h : (flows.toList.map Flow.id).Nodup) (spec : FilterSpec) :
    (derive flows spec).ids.toList.Nodup := by
  have hsublist : (derive flows spec).ids.toList.Sublist (flows.toList.map Flow.id) := by
    rw [ids_derive, ← List.zipIdx_map_fst 0 flows.toList, List.map_map]
    exact List.filter_sublist.map _
  exact h.sublist hsublist

/-- Of distinct identities, the row of one is the one that shows it. -/
theorem indexOf_derive_eq_some_iff (h : (flows.toList.map Flow.id).Nodup) {id : FlowId}
    {index : Nat} :
    (derive flows spec).indexOf id = some index ↔ (derive flows spec).idAt index = some id := by
  refine ⟨idAt_of_indexOf_derive, fun hid => ?_⟩
  obtain ⟨row, hrow⟩ := exists_indexOf_derive (Array.mem_of_getElem? hid)
  have hshown := idAt_of_indexOf_derive hrow
  rw [idAt, ← Array.getElem?_toList] at hid hshown
  have hlt : row < (derive flows spec).ids.toList.length :=
    (List.getElem?_eq_some_iff.mp hshown).1
  have hsame : row = index :=
    (List.getElem?_inj hlt (nodup_ids_derive h spec)).mp (hshown.trans hid.symm)
  rw [hrow, hsame]

/-- The records of a derived view are its rows in the range, each with the flow it was derived
from. -/
theorem mem_records_derive {start stop index : Nat} {flow : Flow} :
    (index, flow) ∈ (derive flows spec).records flows start stop ↔
      (start ≤ index ∧ index < stop) ∧
        ∃ position, (admittedRows flows spec)[index]? = some (flow, position) := by
  simp only [records, List.mem_filterMap, List.mem_range'_1, positionAt_derive, len_derive]
  constructor
  · rintro ⟨row, hrange, hrow⟩
    cases hadmitted : (admittedRows flows spec)[row]? with
    | none => simp [hadmitted] at hrow
    | some admitted =>
      obtain ⟨found, position⟩ := admitted
      obtain ⟨hfound, -⟩ := mem_admittedRows.mp (List.mem_of_getElem? hadmitted)
      have hsame : row = index ∧ found = flow := by simpa [hadmitted, hfound] using hrow
      obtain ⟨rfl, rfl⟩ := hsame
      exact ⟨by omega, position, hadmitted⟩
  · rintro ⟨hrange, position, hadmitted⟩
    obtain ⟨hfound, -⟩ := mem_admittedRows.mp (List.mem_of_getElem? hadmitted)
    obtain ⟨hlen, -⟩ := List.getElem?_eq_some_iff.mp hadmitted
    exact ⟨index, by omega, by simp [hadmitted, hfound]⟩

/-- The records of a derived view are the flows of its rows in the range, in order. -/
theorem records_derive {start stop : Nat} (hstop : stop ≤ (derive flows spec).len) :
    (derive flows spec).records flows start stop =
      (List.range' start (stop - start)).filterMap fun index =>
        (admittedRows flows spec)[index]?.map fun row => (index, row.1) := by
  rw [records, min_eq_left hstop]
  apply List.filterMap_congr
  intro index _
  rw [positionAt_derive]
  cases hadmitted : (admittedRows flows spec)[index]? with
  | none => rfl
  | some row =>
    obtain ⟨hfound, -⟩ := mem_admittedRows.mp (List.mem_of_getElem? hadmitted)
    simp [hfound]

/-- Every row of a derived view in the range is among its records. -/
theorem exists_mem_records_derive {start stop index : Nat}
    (hindex : index < (derive flows spec).len) :
    (∃ flow, (index, flow) ∈ (derive flows spec).records flows start stop) ↔
      start ≤ index ∧ index < stop := by
  rw [len_derive] at hindex
  simp only [mem_records_derive]
  constructor
  · rintro ⟨flow, hrange, -⟩
    exact hrange
  · intro hrange
    exact ⟨_, hrange, _, List.getElem?_eq_getElem hindex⟩

/-! ## The filtered sequence -/

/-- The positions of a derived view grow with the row. -/
lemma pairwise_positions_derive (flows : Array Flow) (spec : FilterSpec) :
    (derive flows spec).positions.toList.Pairwise (· < ·) := by
  have hsublist : (derive flows spec).positions.toList.Sublist (List.range' 0 flows.size) := by
    rw [positions_derive, ← Array.length_toList, ← List.zipIdx_map_snd]
    exact List.filter_sublist.map _
  exact List.Pairwise.sublist hsublist List.pairwise_lt_range'

/-- The positions of a derived view are those of the flows that the filter lets through. -/
lemma mem_positions_derive {position : Nat} :
    position ∈ (derive flows spec).positions ↔
      ∃ flow, flows[position]? = some flow ∧ spec.admits flow = true := by
  rw [← Array.mem_toList_iff, positions_derive, List.mem_map]
  constructor
  · rintro ⟨⟨flow, place⟩, hrow, rfl⟩
    exact ⟨flow, mem_admittedRows.mp hrow⟩
  · rintro ⟨flow, hflow⟩
    exact ⟨(flow, position), mem_admittedRows.mpr hflow, rfl⟩

/-- A row shows the identity of the flow at its position. -/
lemma idAt_derive_eq_bind (flows : Array Flow) (spec : FilterSpec) (index : Nat) :
    (derive flows spec).idAt index =
      ((derive flows spec).positionAt index).bind fun position => flows[position]?.map Flow.id := by
  rw [idAt_derive, positionAt_derive]
  cases hrow : (admittedRows flows spec)[index]? with
  | none => rfl
  | some row =>
    obtain ⟨hflow, -⟩ := mem_admittedRows.mp (List.mem_of_getElem? hrow)
    simp [hflow]

/-- Looked up in order, the positions of a derived view give the filtered flows. -/
lemma map_positions_derive (flows : Array Flow) (spec : FilterSpec) :
    (derive flows spec).positions.toList.map (fun position => flows[position]?) =
      (spec.apply flows).toList.map some := by
  have hfiltered : (spec.apply flows).toList = (admittedRows flows spec).map Prod.fst := by
    conv_lhs => rw [FilterSpec.apply, Array.toList_filter, ← List.zipIdx_map_fst 0 flows.toList]
    exact List.filter_map
  rw [positions_derive, hfiltered, List.map_map, List.map_map]
  apply List.map_congr_left
  intro row hrow
  exact (mem_admittedRows.mp hrow).1

/-- The records of a range are those of its rows that the view has, in order. -/
lemma map_fst_records_derive (flows : Array Flow) (spec : FilterSpec) (start stop : Nat) :
    ((derive flows spec).records flows start stop).map Prod.fst =
      List.Ico start (min stop (derive flows spec).len) := by
  have hcut : (derive flows spec).records flows start stop =
      (derive flows spec).records flows start (min stop (derive flows spec).len) := by
    rw [records, records, min_assoc, min_self]
  rw [hcut, records_derive (min_le_right ..), List.map_filterMap]
  -- none of the rows is lost, as each of them is a row of the view
  refine Eq.trans (List.filterMap_congr fun index hindex => ?_) List.filterMap_some
  have hlt : index < min stop (derive flows spec).len := (List.Ico.mem.mp hindex).2
  have hrow : index < (admittedRows flows spec).length := by
    rw [← len_derive]
    exact hlt.trans_le (min_le_right ..)
  rw [List.getElem?_eq_getElem hrow]
  rfl

/-- Every record is the flow at the position that the view has in its row. -/
lemma positionAt_of_mem_records_derive {start stop index : Nat} {flow : Flow}
    (h : (index, flow) ∈ (derive flows spec).records flows start stop) :
    ∃ position, (derive flows spec).positionAt index = some position ∧
      flows[position]? = some flow := by
  obtain ⟨-, position, hrow⟩ := mem_records_derive.mp h
  refine ⟨position, ?_, (mem_admittedRows.mp (List.mem_of_getElem? hrow)).1⟩
  rw [positionAt_derive, hrow]
  rfl

/-- A row of a view is a row of the view of any longer sequence, and shows the same identity. -/
lemma idAt_derive_append {index : Nat} {id : FlowId} (more : Array Flow)
    (h : (derive flows spec).idAt index = some id) :
    (derive (flows ++ more) spec).idAt index = some id := by
  obtain ⟨rest, hrest⟩ := admittedRows_initial_append flows more spec
  rw [idAt_derive] at h ⊢
  obtain ⟨row, hrow, rfl⟩ := Option.map_eq_some_iff.mp h
  rw [← hrest, List.getElem?_append_left (List.getElem?_eq_some_iff.mp hrow).1, hrow]
  rfl

/-- **A derived view is the filtered sequence.**  The positions of its rows grow and are exactly
those of the flows that the filter lets through; every row shows the identity found at its position,
and looked up in order the positions give what filtering the sequence gives.  The records of a range
are those of its rows that the view has, in order, whatever the ends of the range, each with the
flow at the position of its row.  If the flows have distinct identities, the row of an identity is
the one that shows it, and only an identity that is not shown has none.  Flows that are appended to
the sequence leave the rows of the view as they are and where they are. -/
theorem derived_view_is_filtered_sequence (flows : Array Flow) (spec : FilterSpec) :
    let view := derive flows spec
    (view.positions.toList.Pairwise (· < ·) ∧
      (∀ position, position ∈ view.positions ↔
        ∃ flow, flows[position]? = some flow ∧ spec.admits flow = true) ∧
      (∀ index, view.idAt index =
        (view.positionAt index).bind fun position => flows[position]?.map Flow.id) ∧
      view.positions.toList.map (fun position => flows[position]?) =
        (spec.apply flows).toList.map some) ∧
    (∀ start stop,
      (view.records flows start stop).map Prod.fst = List.Ico start (min stop view.len) ∧
      ∀ record ∈ view.records flows start stop, ∃ position,
        view.positionAt record.1 = some position ∧ flows[position]? = some record.2) ∧
    ((flows.toList.map Flow.id).Nodup → ∀ id,
      (∀ index, view.indexOf id = some index ↔ view.idAt index = some id) ∧
      (view.indexOf id = none ↔ id ∉ view.ids)) ∧
    ∀ more,
      let longer := derive (flows ++ more) spec
      view.positions.toList <+: longer.positions.toList ∧
      view.ids.toList <+: longer.ids.toList ∧
      (((flows ++ more).toList.map Flow.id).Nodup →
        ∀ id ∈ view.ids, longer.indexOf id = view.indexOf id) := by
  intro view
  refine ⟨⟨pairwise_positions_derive flows spec, fun _ => mem_positions_derive,
      idAt_derive_eq_bind flows spec, map_positions_derive flows spec⟩,
    fun start stop => ⟨map_fst_records_derive flows spec start stop,
      fun _ hrecord => positionAt_of_mem_records_derive hrecord⟩,
    fun hdistinct id => ⟨fun _ => indexOf_derive_eq_some_iff hdistinct,
      indexOf_derive_eq_none_iff⟩, ?_⟩
  intro more longer
  have hprefix := admittedRows_initial_append flows more spec
  refine ⟨?_, ?_, fun hdistinct id hid => ?_⟩
  · rw [positions_derive, positions_derive]
    exact hprefix.map _
  · rw [ids_derive, ids_derive]
    exact hprefix.map _
  · obtain ⟨index, hindex⟩ := exists_indexOf_derive hid
    have hrow := idAt_derive_append more (idAt_of_indexOf_derive hindex)
    rw [hindex]
    exact (indexOf_derive_eq_some_iff hdistinct).mpr hrow

/-- An answered request, a connection, a look-up of a name and an open request, of which the
outbound ones without look-ups are shown.  A range that goes beyond the view ends with it, and one
more open request leaves the rows before it. -/
theorem derived_view_is_filtered_sequence_outbound :
    let request : HttpRequest := ⟨"GET", "cdn.example.net", "/"⟩
    let flow (n : Nat) (kind : Kind) (request : Option HttpRequest)
        (response : Option HttpResponse) : Flow :=
      ⟨.sequential "tcp" n, kind, .midnight ⟨2025, 1, 1⟩, none, request, response⟩
    let flows := #[flow 0 .http request (some ⟨200, none⟩), flow 1 .tcp none none,
      flow 2 .dns none none, flow 3 .http request none]
    let more := #[flow 4 .http request none]
    let spec : FilterSpec := ⟨true, true, true, false, .outbound⟩
    let view := derive flows spec
    (((flows ++ more).toList.map Flow.id).Nodup ∧ (flows.toList.map Flow.id).Nodup) ∧
    view.positions = #[1, 3] ∧
    (view.records flows 1 9).map Prod.fst = [1] ∧
    view.indexOf (.sequential "tcp" 3) = some 1 ∧ view.indexOf (.sequential "tcp" 0) = none ∧
    (derive (flows ++ more) spec).indexOf (.sequential "tcp" 3) = some 1 := by
  intro request flow flows more spec view
  obtain ⟨-, hrecords, hindex, hlonger⟩ := derived_view_is_filtered_sequence flows spec
  have hdistinct : (flows.toList.map Flow.id).Nodup := by decide +kernel
  have hdistinct' : ((flows ++ more).toList.map Flow.id).Nodup := by decide +kernel
  have hrow : view.indexOf (.sequential "tcp" 3) = some 1 :=
    ((hindex hdistinct _).1 1).mpr (by decide +kernel)
  have hkept := (hlonger more).2.2 hdistinct' (.sequential "tcp" 3) (by decide +kernel)
  refine ⟨⟨hdistinct', hdistinct⟩, by decide +kernel, (hrecords 1 9).1.trans (by decide +kernel),
    hrow, (hindex hdistinct _).2.mpr (by decide +kernel), hkept.trans hrow⟩

/-! ## Records of any view -/

variable {view : OrderedView} {start stop : Nat}

/-- A record stands for the row that it was looked up for. -/
lemma fst_of_record {index : Nat} {record : Nat × Flow}
    (h : (do
      let position ← view.positionAt index
      let flow ← flows[position]?
      return (index, flow)) = some record) : record.1 = index := by
  obtain ⟨position, -, hposition⟩ := Option.bind_eq_some_iff.mp h
  obtain ⟨flow, -, hflow⟩ := Option.bind_eq_some_iff.mp hposition
  cases hflow
  rfl

/-- The records of a range of rows are rows of the view. -/
lemma lt_len_of_mem_records {record : Nat × Flow} (h : record ∈ view.records flows start stop) :
    record.1 < view.len := by
  obtain ⟨index, hindex, hrecord⟩ := List.mem_filterMap.mp h
  have hrange := List.mem_range'_1.mp hindex
  rw [fst_of_record hrecord]
  omega

/-- The records of a range of rows are of different rows. -/
lemma pairwise_records :
    (view.records flows start stop).Pairwise fun record record' => record.1 ≠ record'.1 := by
  refine List.Pairwise.filterMap _ ?_ List.nodup_range'
  intro index index' hne record hrecord record' hrecord'
  rwa [fst_of_record hrecord, fst_of_record hrecord']

end OrderedView

end FlowWatch
