import Mathlib
import FlowWatch.Capture.Line
import FlowWatch.Proofs.JsonRoundTrip
import FlowWatch.Proofs.StampRoundTrip

/-!
# Messages that are read back

A message is written as an object, and the object is read back from its text with its members in the
order of their keys (`Json.read_render`).  In whatever order they come, each member is read by the
field of its name into its own place (`readMembers_cons`), so that a record is read back once each of
its values is: from the time stamp and the numbers, which have to fit what messages can say
(`Flow.Fits`), up to the whole message (`message_arranged`).  A line may have blanks around the
object, since neither of its braces is one (`parseLine_object`).

That everything fits is no condition on messages that have been read: each field keeps what is read
of the others and reads no more than fits (`readRecord_keeps`), so every message that is read fits
(`fits_of_message`) and can be written and read again (`parseLine_of_parseLine`).
-/

namespace FlowWatch

/-! ## What messages can hold -/

/-- What messages can say of a response: its numbers fit 16 and 64 bits. -/
structure HttpResponse.Fits (r : HttpResponse) : Prop where
  statusCode : r.statusCode ≤ 65535
  contentLength : ∀ n ∈ r.contentLength, n ≤ JsonNumber.maxNatural

/-- What messages can say of a flow: its time stamp exists, and its response fits. -/
structure Flow.Fits (f : Flow) : Prop where
  timestamp : f.timestamp.isValid = true
  response : ∀ r ∈ f.response, r.Fits

/-- Everything in the message fits. -/
def Message.Fits : Message → Prop
  | .add f => f.Fits
  | .update f => f.Fits
  | .remove _ => True
  | .reset fs => ∀ f ∈ fs, f.Fits

namespace Wire

open Json

/-! ## Values that are read back -/

lemma arranged_request (r : HttpRequest) : arranged (ofRequest r) =
    .object [("host", .string r.host), ("method", .string r.method), ("path", .string r.path)] := by
  rfl

lemma arranged_response (r : HttpResponse) : arranged (ofResponse r) =
    .object [("content_length", arranged (ofOptional (fun n => .number (.natural n)) r.contentLength)),
      ("status_code", .number (.natural r.statusCode))] := by
  rfl

lemma arranged_flow (f : Flow) : arranged (ofFlow f) =
    .object [("id", .string f.id.text), ("request", arranged (ofOptional ofRequest f.request)),
      ("response", arranged (ofOptional ofResponse f.response)),
      ("server", arranged (ofOptional .string f.server)),
      ("timestamp", .string f.timestamp.text), ("type", .string f.kind.wireName)] := by
  rfl

/-- A value that may be absent is read back if it is when it is there. -/
lemma optional_arranged {α : Type} {read : Json → Except Error α} {write : α → Json} {a : Option α}
    (h : ∀ b ∈ a, arranged (write b) ≠ .null ∧ read (arranged (write b)) = .ok b) :
    optional read (arranged (ofOptional write a)) = .ok a := by
  cases a with
  | none => rfl
  | some b =>
    obtain ⟨hnull, hread⟩ := h b rfl
    rw [ofOptional, optional, hread]
    · rfl
    · exact hnull

/-- What is read is put into the record under construction. -/
lemma bind_pure_of_ok {α β : Type} {read : Except Error α} {a : α} (h : read = .ok a) (f : α → β) :
    (read >>= fun a => pure (f a)) = .ok (f a) := by
  rw [h]
  rfl

/-- A member of a known name is read as its field says. -/
lemma readMembers_cons {ρ : Type} {fields : List (Field ρ)} {f : Field ρ} {key : String}
    {value : Json} {members : List (String × Json)} {r r' : ρ}
    (hfield : (fields.find? fun f => f.name == key) = some f) (hread : f.read value r = .ok r') :
    readMembers fields ((key, value) :: members) r = readMembers fields members r' := by
  rw [readMembers, List.foldlM_cons]
  simp only [hfield, hread, ok_bind]
  rfl

/-- A request is read back. -/
lemma request_arranged (place : Place) (r : HttpRequest) :
    request place (arranged (ofRequest r)) = .ok r := by
  rfl

/-- A length that fits is read back. -/
lemma contentLength_arranged {length : Option Nat}
    (h : ∀ n ∈ length, n ≤ JsonNumber.maxNatural) :
    optional contentLength (arranged (ofOptional (fun n => .number (.natural n)) length)) =
      .ok length := by
  apply optional_arranged
  intro n hn
  refine ⟨by simp [arranged], ?_⟩
  exact if_pos (h n hn)

/-- A status code that fits is read back. -/
lemma statusCode_natural {code : Nat} (h : code ≤ 65535) :
    statusCode (.number (.natural code)) = .ok code :=
  if_pos h

/-- A response is read back. -/
lemma response_arranged (place : Place) {r : HttpResponse} (h : r.Fits) :
    response place (arranged (ofResponse r)) = .ok r := by
  have hreadCode := statusCode_natural h.statusCode
  have hreadLength := contentLength_arranged h.contentLength
  rw [arranged_response, response, readRecord,
    readMembers_cons rfl (bind_pure_of_ok hreadLength _),
    readMembers_cons rfl (bind_pure_of_ok hreadCode _)]
  rfl

/-- A kind is read back. -/
lemma kind_wireName (place : Place) (k : Kind) : kind place (.string k.wireName) = .ok k := by
  cases k <;> rfl

/-- An identity is read back. -/
lemma flowId_text (id : FlowId) : flowId (.string id.text) = .ok id := by
  have htext : FlowId.ofText? id.text = some id := FlowId.ofText?_eq_some_iff.mpr rfl
  simp only [flowId, string, ok_bind, htext]
  rfl

/-- A flow is read back. -/
lemma flow_arranged (place : Place) {f : Flow} (h : f.Fits) :
    flow place (arranged (ofFlow f)) = .ok f := by
  have hrequest : optional (request place) (arranged (ofOptional ofRequest f.request)) =
      .ok f.request := by
    apply optional_arranged
    intro r hr
    exact ⟨by simp [arranged_request], request_arranged place r⟩
  have hresponse : optional (response place) (arranged (ofOptional ofResponse f.response)) =
      .ok f.response := by
    apply optional_arranged
    intro r hr
    exact ⟨by simp [arranged_response], response_arranged place (h.response r hr)⟩
  have hserver : optional string (arranged (ofOptional .string f.server)) = .ok f.server := by
    apply optional_arranged
    intro s hs
    exact ⟨by simp [arranged], rfl⟩
  have hstamp : stamp (.string f.timestamp.text) = .ok f.timestamp := by
    rw [stamp, Stamp.text, String.toList_ofList, Stamp.read_render h.timestamp]
    rfl
  rw [arranged_flow, flow, readRecord, readMembers_cons rfl (bind_pure_of_ok (flowId_text f.id) _),
    readMembers_cons rfl (bind_pure_of_ok hrequest _),
    readMembers_cons rfl (bind_pure_of_ok hresponse _),
    readMembers_cons rfl (bind_pure_of_ok hserver _),
    readMembers_cons rfl (bind_pure_of_ok hstamp _),
    readMembers_cons rfl (bind_pure_of_ok (kind_wireName place f.kind) _)]
  rfl

/-- Flows are read back. -/
lemma flows_arranged {fs : List Flow} (h : ∀ f ∈ fs, f.Fits) :
    flows (.array (arrangedItems (fs.map ofFlow))) = .ok fs := by
  rw [flows]
  induction fs with
  | nil => rfl
  | cons f fs ih =>
    obtain ⟨hfirst, hrest⟩ := List.forall_mem_cons.mp h
    rw [List.map_cons, arrangedItems, List.mapM_cons, flow_arranged .inside hfirst, ok_bind,
      ih hrest]
    rfl

/-- A message is read back. -/
lemma message_arranged {m : Message} (h : m.Fits) : message (arranged (ofMessage m)) = .ok m := by
  cases m with
  | add f =>
    have hmessage : message (arranged (ofMessage (.add f))) =
        .add <$> flow .inside (arranged (ofFlow f)) := rfl
    rw [hmessage, flow_arranged .inside h]
    rfl
  | update f =>
    have hmessage : message (arranged (ofMessage (.update f))) =
        .update <$> flow .inside (arranged (ofFlow f)) := rfl
    rw [hmessage, flow_arranged .inside h]
    rfl
  | remove id =>
    have hmessage : message (arranged (ofMessage (.remove id))) =
        .remove <$> flowId (.string id.text) := rfl
    rw [hmessage, flowId_text]
    rfl
  | reset fs =>
    have hmessage : message (arranged (ofMessage (.reset fs))) =
        .reset <$> flows (.array (arrangedItems (fs.map ofFlow))) := rfl
    rw [hmessage, flows_arranged h]
    rfl

/-- A bare flow is read as its addition. -/
lemma message_arranged_flow {f : Flow} (h : f.Fits) :
    message (arranged (ofFlow f)) = .ok (.add f) := by
  have hmessage : message (arranged (ofFlow f)) = .add <$> flow .alone (arranged (ofFlow f)) := rfl
  rw [hmessage, flow_arranged .alone h]
  rfl

/-! ## What is written can be read -/

lemma readable_ofOptional {α : Type} {write : α → Json} {a : Option α} {depth : Nat}
    (h : ∀ b ∈ a, Readable depth (write b)) : Readable depth (ofOptional write a) := by
  cases a with
  | none => exact .null depth
  | some b => exact h b rfl

lemma readable_request (depth : Nat) (r : HttpRequest) : Readable (depth + 1) (ofRequest r) := by
  refine .object ?_
  simp only [List.forall_mem_cons]
  exact ⟨.string .., .string .., .string .., by simp⟩

lemma readable_response (depth : Nat) {r : HttpResponse} (h : r.Fits) :
    Readable (depth + 1) (ofResponse r) := by
  have hcode : r.statusCode ≤ JsonNumber.maxNatural := h.statusCode.trans (by decide)
  refine .object ?_
  simp only [List.forall_mem_cons]
  exact ⟨.natural _ hcode, readable_ofOptional fun n hn => .natural _ (h.contentLength n hn),
    by simp⟩

/-- A flow is an object of two levels. -/
lemma readable_flow (depth : Nat) {f : Flow} (h : f.Fits) : Readable (depth + 2) (ofFlow f) := by
  refine .object ?_
  simp only [List.forall_mem_cons]
  exact ⟨.string .., .string .., .string .., readable_ofOptional fun s _ => .string ..,
    readable_ofOptional fun r _ => readable_request _ r,
    readable_ofOptional fun r hr => readable_response _ (h.response r hr), by simp⟩

/-- A message is an object of four levels at most. -/
lemma readable_message (depth : Nat) {m : Message} (h : m.Fits) :
    Readable (depth + 4) (ofMessage m) := by
  cases m with
  | add f =>
    refine .object ?_
    simp only [List.forall_mem_cons]
    exact ⟨.string .., readable_flow _ h, by simp⟩
  | update f =>
    refine .object ?_
    simp only [List.forall_mem_cons]
    exact ⟨.string .., readable_flow _ h, by simp⟩
  | remove id =>
    refine .object ?_
    simp only [List.forall_mem_cons]
    exact ⟨.string .., .string .., by simp⟩
  | reset fs =>
    have hflows : Readable (depth + 3) (.array (fs.map ofFlow)) := by
      refine .array fun item hitem => ?_
      obtain ⟨f, hf, rfl⟩ := List.mem_map.mp hitem
      exact readable_flow _ (h f hf)
    refine .object ?_
    simp only [List.forall_mem_cons]
    exact ⟨.string .., hflows, by simp⟩

/-! ## What is read fits -/

/-- A success that is turned into another value comes from a success. -/
lemma exists_of_map_eq_ok {α β : Type} {read : Except Error α} {f : α → β} {b : β}
    (h : f <$> read = .ok b) : ∃ a, read = .ok a ∧ f a = b := by
  cases read with
  | error e => cases h
  | ok a =>
    cases h
    exact ⟨a, rfl, rfl⟩

section Records

variable {ρ : Type} {P : ρ → Prop} {fields : List (Field ρ)}

/-- What every field keeps, members keep. -/
lemma readMembers_keeps
    (hfields : ∀ f ∈ fields, ∀ v r r', P r → f.read v r = .ok r' → P r')
    {members : List (String × Json)} {r r' : ρ} (hr : P r)
    (h : readMembers fields members r = .ok r') : P r' := by
  induction members generalizing r with
  | nil =>
    cases h
    exact hr
  | cons member members ih =>
    obtain ⟨middle, hmember, hmembers⟩ := exists_of_bind_eq_ok h
    refine ih ?_ hmembers
    simp only at hmember
    split at hmember
    · rename_i f hf
      exact hfields f (List.mem_of_find?_eq_some hf) _ r middle hr hmember
    · cases hmember
      exact hr

/-- What every field keeps, items keep. -/
lemma readItems_keeps {record : Expected} {count : Nat}
    (hfields : ∀ f ∈ fields, ∀ v r r', P r → f.read v r = .ok r' → P r')
    {items : List Json} {done : Nat} {r r' : ρ} (hr : P r)
    (h : readItems record count fields items done r = .ok r') : P r' := by
  induction fields generalizing items done r with
  | nil =>
    rw [readItems] at h
    cases h
    exact hr
  | cons f fields ih =>
    obtain ⟨hf, hfields⟩ := List.forall_mem_cons.mp hfields
    cases items with
    | nil =>
      rw [readItems] at h
      split at h
      · exact ih hfields hr h
      · cases h
    | cons item items =>
      rw [readItems] at h
      obtain ⟨middle, hitem, hitems⟩ := exists_of_bind_eq_ok h
      exact ih hfields (hf item r middle hr hitem) hitems

/-- What every field keeps, a record keeps. -/
lemma readRecord_keeps {place : Place} {record : Expected}
    (hfields : ∀ f ∈ fields, ∀ v r r', P r → f.read v r = .ok r' → P r') {start r : ρ}
    (hstart : P start) {v : Json} (h : readRecord place record fields start v = .ok r) : P r := by
  cases v with
  | object members => exact readMembers_keeps hfields hstart h
  | array items =>
    obtain ⟨read, hitems, h⟩ := exists_of_bind_eq_ok h
    obtain ⟨_, -, h⟩ := exists_of_bind_eq_ok h
    cases h
    exact readItems_keeps hfields hstart hitems
  | _ => cases h

end Records

/-- A number that is read is within its bound. -/
lemma number_le {max n : Nat} {expected : Expected} {v : Json}
    (h : number max expected v = .ok n) : n ≤ max := by
  rw [number.eq_def] at h
  split at h
  · split at h
    · cases h
      assumption
    · cases h
  · cases h
  · cases h

/-- A value that is there has been read. -/
lemma exists_of_optional {α : Type} {read : Json → Except Error α} {v : Json} {a : Option α}
    (h : optional read v = .ok a) {b : α} (hb : b ∈ a) : ∃ w, read w = .ok b := by
  rw [optional.eq_def] at h
  split at h
  · cases h
    cases hb
  · obtain ⟨c, hread, rfl⟩ := exists_of_map_eq_ok h
    cases hb
    exact ⟨v, hread⟩

/-- A field that has to have a value has the one that is read. -/
lemma mem_of_required {α : Type} {name : String} {a : Option α} {b : α}
    (h : required name a = .ok b) : b ∈ a := by
  cases a with
  | none => cases h
  | some c =>
    cases h
    rfl

/-- A time stamp that is read exists. -/
lemma isValid_of_stamp {v : Json} {s : Stamp} (h : stamp v = .ok s) : s.isValid = true := by
  cases v with
  | string text =>
    rw [stamp] at h
    cases hread : Stamp.read text.toList with
    | error e =>
      rw [hread] at h
      cases h
    | ok s' =>
      rw [hread] at h
      cases h
      exact Stamp.isValid_of_read hread
  | _ => cases h

/-- What has been read of a response fits. -/
structure PartialResponse.Fits (p : PartialResponse) : Prop where
  statusCode : ∀ n ∈ p.statusCode, n ≤ 65535
  contentLength : ∀ n ∈ p.contentLength, n ≤ JsonNumber.maxNatural

/-- Every field of a response keeps it fitting. -/
lemma responseFields_keep : ∀ f ∈ responseFields, ∀ v (p p' : PartialResponse), p.Fits →
    f.read v p = .ok p' → p'.Fits := by
  simp only [responseFields, List.forall_mem_cons]
  refine ⟨?_, ?_, by simp⟩
  · intro v p p' hp h
    obtain ⟨n, hread, h⟩ := exists_of_bind_eq_ok h
    cases h
    refine ⟨?_, hp.contentLength⟩
    rintro _ ⟨⟩
    exact number_le hread
  · intro v p p' hp h
    obtain ⟨length, hread, h⟩ := exists_of_bind_eq_ok h
    cases h
    refine ⟨hp.statusCode, fun n hn => ?_⟩
    obtain ⟨w, hw⟩ := exists_of_optional hread hn
    exact number_le hw

/-- A response that is read fits. -/
lemma fits_of_response {place : Place} {v : Json} {r : HttpResponse}
    (h : response place v = .ok r) : r.Fits := by
  obtain ⟨p, hp, h⟩ := exists_of_bind_eq_ok h
  obtain ⟨code, hcode, h⟩ := exists_of_bind_eq_ok h
  cases h
  have hstart : PartialResponse.Fits ⟨none, none⟩ := ⟨by simp, by simp⟩
  have hfits := readRecord_keeps responseFields_keep hstart hp
  exact ⟨hfits.statusCode code (mem_of_required hcode), hfits.contentLength⟩

/-- What has been read of a flow fits. -/
structure PartialFlow.Fits (p : PartialFlow) : Prop where
  timestamp : ∀ s ∈ p.timestamp, s.isValid = true
  response : ∀ r ∈ p.response, r.Fits

/-- Every field of a flow keeps it fitting. -/
lemma flowFields_keep (place : Place) : ∀ f ∈ flowFields place, ∀ v (p p' : PartialFlow), p.Fits →
    f.read v p = .ok p' → p'.Fits := by
  simp only [flowFields, List.forall_mem_cons]
  refine ⟨?_, ?_, ?_, ?_, ?_, ?_, by simp⟩
  · intro v p p' hp h
    obtain ⟨id, -, h⟩ := exists_of_bind_eq_ok h
    cases h
    exact ⟨hp.timestamp, hp.response⟩
  · intro v p p' hp h
    obtain ⟨kind, -, h⟩ := exists_of_bind_eq_ok h
    cases h
    exact ⟨hp.timestamp, hp.response⟩
  · intro v p p' hp h
    obtain ⟨s, hread, h⟩ := exists_of_bind_eq_ok h
    cases h
    refine ⟨?_, hp.response⟩
    rintro _ ⟨⟩
    exact isValid_of_stamp hread
  · intro v p p' hp h
    obtain ⟨server, -, h⟩ := exists_of_bind_eq_ok h
    cases h
    exact ⟨hp.timestamp, hp.response⟩
  · intro v p p' hp h
    obtain ⟨request, -, h⟩ := exists_of_bind_eq_ok h
    cases h
    exact ⟨hp.timestamp, hp.response⟩
  · intro v p p' hp h
    obtain ⟨response, hread, h⟩ := exists_of_bind_eq_ok h
    cases h
    refine ⟨hp.timestamp, fun r hr => ?_⟩
    obtain ⟨w, hw⟩ := exists_of_optional hread hr
    exact fits_of_response hw

/-- A flow that is read fits. -/
lemma fits_of_flow {place : Place} {v : Json} {f : Flow} (h : flow place v = .ok f) : f.Fits := by
  obtain ⟨p, hp, h⟩ := exists_of_bind_eq_ok h
  obtain ⟨id, -, h⟩ := exists_of_bind_eq_ok h
  obtain ⟨kind, -, h⟩ := exists_of_bind_eq_ok h
  obtain ⟨s, hstamp, h⟩ := exists_of_bind_eq_ok h
  cases h
  have hstart : PartialFlow.Fits ⟨none, none, none, none, none, none⟩ := ⟨by simp, by simp⟩
  have hfits := readRecord_keeps (flowFields_keep place) hstart hp
  exact ⟨hfits.timestamp s (mem_of_required hstamp), hfits.response⟩

/-- Flows that are read fit. -/
lemma fits_of_flows {v : Json} {fs : List Flow} (h : flows v = .ok fs) : ∀ f ∈ fs, f.Fits := by
  cases v with
  | array items =>
    rw [flows] at h
    induction items generalizing fs with
    | nil =>
      cases h
      simp
    | cons item items ih =>
      rw [List.mapM_cons] at h
      obtain ⟨f, hf, h⟩ := exists_of_bind_eq_ok h
      obtain ⟨rest, hrest, h⟩ := exists_of_bind_eq_ok h
      cases h
      exact List.forall_mem_cons.mpr ⟨fits_of_flow hf, ih hrest⟩
  | _ => cases h

/-- What is read for a command comes from one of the members. -/
lemma exists_of_payload {α : Type} {name : String} {read : Json → Except Error α}
    {members : List (String × Json)} {a : α} (h : payload name read members = .ok a) :
    ∃ v, read v = .ok a := by
  rw [payload] at h
  split at h
  · exact ⟨_, h⟩
  · cases h

/-- A message that is read fits. -/
theorem fits_of_message {v : Json} {m : Message} (h : message v = .ok m) : m.Fits := by
  rw [message.eq_def] at h
  split at h
  · rename_i members tag htag
    obtain ⟨command, -, h⟩ := exists_of_bind_eq_ok h
    cases command with
    | add =>
      obtain ⟨f, hf, rfl⟩ := exists_of_map_eq_ok h
      obtain ⟨w, hw⟩ := exists_of_payload hf
      exact fits_of_flow hw
    | update =>
      obtain ⟨f, hf, rfl⟩ := exists_of_map_eq_ok h
      obtain ⟨w, hw⟩ := exists_of_payload hf
      exact fits_of_flow hw
    | remove =>
      obtain ⟨id, -, rfl⟩ := exists_of_map_eq_ok h
      trivial
    | reset =>
      obtain ⟨fs, hfs, rfl⟩ := exists_of_map_eq_ok h
      obtain ⟨w, hw⟩ := exists_of_payload hfs
      exact fits_of_flows hw
  · obtain ⟨f, hf, rfl⟩ := exists_of_map_eq_ok h
    exact fits_of_flow hf

end Wire

/-! ## Lines -/

namespace Capture

/-- An object is what is left of its text between blanks. -/
lemma trim_object {before after : List Char} (members : List (String × Json))
    (hbefore : ∀ c ∈ before, Text.isBlank c = true) (hafter : ∀ c ∈ after, Text.isBlank c = true) :
    Text.trim (before ++ (Json.object members).render ++ after) = (Json.object members).render := by
  have hrender : (Json.object members).render =
      '\x7b' :: (Json.renderMembers members ++ ['\x7d']) := by rw [Json.render]
  have hopening : ∀ cs, Text.trimStart ('\x7b' :: cs) = '\x7b' :: cs := fun _ => rfl
  have hclosing : ∀ cs, Text.trimEnd (cs ++ ['\x7d']) = cs ++ ['\x7d'] := fun cs =>
    List.rdropWhile_concat_neg _ _ _ (by decide)
  rw [hrender, List.append_assoc, Text.trim, Text.trimStart_append_of_blank hbefore,
    List.cons_append, hopening, ← List.cons_append, Text.trimEnd_append_of_blank hafter,
    ← List.cons_append, hclosing]

/-- An object is a line of its own, also between blanks. -/
lemma parseLine_object {before after : List Char} {members : List (String × Json)} {m : Message}
    (hbefore : ∀ c ∈ before, Text.isBlank c = true) (hafter : ∀ c ∈ after, Text.isBlank c = true)
    (hreadable : Json.Readable Json.maxDepth (.object members))
    (hmessage : Wire.message (Json.arranged (.object members)) = .ok m) (line : Nat) :
    parseLine (before ++ (Json.object members).render ++ after) line = .ok (some m) := by
  have hopens : (Json.object members).render.isEmpty = false := rfl
  rw [parseLine, trim_object members hbefore hafter]
  simp only [hopens, Json.read_render hreadable, hmessage]
  rfl

/-- A message is written without line breaks. -/
lemma newline_notMem_renderMessage {m : Message} (h : m.Fits) :
    '\n' ∉ renderMessage m ∧ '\r' ∉ renderMessage m := by
  have hprintable := Json.le_toNat_of_mem_render (Wire.readable_message 0 h)
  exact ⟨fun hmem => absurd (hprintable _ hmem) (by decide),
    fun hmem => absurd (hprintable _ hmem) (by decide)⟩

/-- A message is read back from its line. -/
lemma parseLine_message {m : Message} (h : m.Fits) {before after : List Char}
    (hbefore : ∀ c ∈ before, Text.isBlank c = true) (hafter : ∀ c ∈ after, Text.isBlank c = true)
    (line : Nat) : parseLine (before ++ renderMessage m ++ after) line = .ok (some m) := by
  have hreadable : Json.Readable Json.maxDepth (Wire.ofMessage m) := Wire.readable_message 123 h
  have hmessage := Wire.message_arranged h
  obtain ⟨members, hmembers⟩ : ∃ members, Wire.ofMessage m = .object members := by
    cases m <;> exact ⟨_, rfl⟩
  rw [hmembers] at hreadable hmessage
  rw [renderMessage, hmembers]
  exact parseLine_object hbefore hafter hreadable hmessage line

/-- What a line says can be written on a line that says the same. -/
theorem parseLine_of_parseLine {raw : List Char} {n : Nat} {m : Message}
    (h : parseLine raw n = .ok (some m)) (line : Nat) :
    parseLine (renderMessage m) line = .ok (some m) := by
  have hm : m.Fits := by
    simp only [parseLine] at h
    split at h
    · cases h
    · split at h
      · cases h
      · split at h
        · rename_i message hread
          cases h
          exact Wire.fits_of_message hread
        · cases h
  have hnone : ∀ c ∈ ([] : List Char), Text.isBlank c = true := by simp
  simpa using parseLine_message hm hnone hnone line

/-- **Messages and their lines.**  Every message is written on one line, and from this line, with any
blanks around it and under any number, it is read back.  A bare flow is read as its addition. -/
theorem parseLine_renderMessage {m : Message} {f : Flow} (hm : m.Fits) (hf : f.Fits)
    {before after : List Char} (hbefore : ∀ c ∈ before, Text.isBlank c = true)
    (hafter : ∀ c ∈ after, Text.isBlank c = true) (line : Nat) :
    ('\n' ∉ renderMessage m ∧ '\r' ∉ renderMessage m) ∧
      parseLine (before ++ renderMessage m ++ after) line = .ok (some m) ∧
      parseLine (before ++ renderFlow f ++ after) line = .ok (some (.add f)) := by
  refine ⟨newline_notMem_renderMessage hm, parseLine_message hm hbefore hafter line, ?_⟩
  exact parseLine_object hbefore hafter (Wire.readable_flow 125 hf) (Wire.message_arranged_flow hf)
    line

/-- A flow of the first supported year that began in a leap second, and one of the last. -/
theorem parseLine_renderMessage_leap_second :
    let early : Flow := ⟨⟨"\"a\\\n", by decide⟩, .http, ⟨⟨-262143, 1, 1⟩, 23, 59, 60, 1000000⟩, none,
      some ⟨"GET", "é.example", "/\x01"⟩, some ⟨65535, some (2 ^ 64 - 1)⟩⟩
    let late : Flow := ⟨⟨"b", by decide⟩, .udp, ⟨⟨262142, 12, 31⟩, 0, 0, 0, 1⟩, some "", none, none⟩
    let m : Message := .reset [early, late]
    m.Fits ∧ late.Fits ∧ (∀ c ∈ ['\t', '\u3000'], Text.isBlank c = true) ∧
      (∀ c ∈ ['\r'], Text.isBlank c = true) ∧
      early.timestamp.text = "-262143-01-01T23:59:60.001Z" ∧
      String.ofList (renderFlow late) = "\x7b\"id\":\"b\",\"type\":\"udp\"," ++
        "\"timestamp\":\"+262142-12-31T00:00:00.000000001Z\",\"server\":\"\"," ++
        "\"request\":null,\"response\":null\x7d" ∧
      '\n' ∉ renderMessage m ∧
      parseLine (['\t', '\u3000'] ++ renderMessage m ++ ['\r']) 7 = .ok (some m) ∧
      parseLine (['\t', '\u3000'] ++ renderFlow late ++ ['\r']) 7 = .ok (some (.add late)) := by
  intro early late m
  have hresponse : ∀ r ∈ early.response, r.Fits := by
    rintro r ⟨⟩
    exact ⟨by decide, by simp [JsonNumber.maxNatural]⟩
  have hearly : early.Fits := ⟨by decide, hresponse⟩
  have hlate : late.Fits := ⟨by decide, by simp [late]⟩
  have hm : m.Fits := List.forall_mem_cons.mpr ⟨hearly, List.forall_mem_singleton.mpr hlate⟩
  have hbefore : ∀ c ∈ ['\t', '\u3000'], Text.isBlank c = true := by simp [Text.isBlank]
  have hafter : ∀ c ∈ ['\r'], Text.isBlank c = true := by simp [Text.isBlank]
  obtain ⟨⟨hline, -⟩, hmessage, hflow⟩ := parseLine_renderMessage hm hlate hbefore hafter 7
  exact ⟨hm, hlate, hbefore, hafter, by decide +kernel, by decide +kernel, hline, hmessage, hflow⟩

end Capture

end FlowWatch
