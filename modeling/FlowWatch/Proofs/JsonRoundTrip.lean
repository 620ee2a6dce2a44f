import Mathlib
import FlowWatch.Json.Printer
import FlowWatch.Json.Reader
import FlowWatch.Proofs.Numerals

/-!
# JSON that is read back

What `Json.render` writes, `Json.read` reads: the same value, but for the order of the members of its
objects, which a reader lists by their keys (`read_render`).

The text of a value is followed by the end or by a character that goes on with what is around it, and
so is the text of everything inside of it.  The induction is on the value: one lemma for each step of
the reader says what it makes of the text at hand, and a value takes no more than two steps for each
of its characters (`ReadBack`).  The text holds no control characters, as strings escape them
(`le_toNat_of_mem_render`).
-/

namespace FlowWatch.Json

/-! ## Strings -/

/-- A hexadecimal digit is read back. -/
lemma hexValue?_hexDigit {n : Nat} (h : n < 16) : hexValue? (hexDigit n) = some n := by
  decide +revert

/-- The two digits of an escaped control character give its code. -/
lemma hexUnit?_hexDigit {n : Nat} (h : n < 0x20) :
    hexUnit? '0' '0' (hexDigit (n / 16)) (hexDigit (n % 16)) = some n := by
  have hzero : hexValue? '0' = some 0 := by decide
  have hhigh := hexValue?_hexDigit (show n / 16 < 16 by omega)
  have hlow := hexValue?_hexDigit (Nat.mod_lt n (show 0 < 16 by decide))
  simp only [hexUnit?, hzero, hhigh, hlow, Option.bind_eq_bind, Option.bind_some,
    Option.pure_def, Option.some.injEq]
  omega

/-- An escape of one letter is read as the character it stands for. -/
lemma readString_simple {e c : Char} {cs s rest : List Char} (hescape : simpleEscape? e = some c)
    (h : readString cs = some (s, rest)) : readString ('\\' :: e :: cs) = some (c :: s, rest) := by
  have hletter : e ≠ 'u' := by
    rintro rfl
    cases hescape
  rw [readString.eq_4 e cs fun _ _ _ _ _ hu _ => hletter hu, hescape, h]
  rfl

/-- An escape by a code is read as the control character of that code. -/
lemma readString_unit {c : Char} {cs s rest : List Char} (hc : c.toNat < 0x20)
    (h : readString cs = some (s, rest)) :
    readString (['\\', 'u', '0', '0', hexDigit (c.toNat / 16), hexDigit (c.toNat % 16)] ++ cs) =
      some (c :: s, rest) := by
  have hhigh : isHighSurrogate c.toNat = false := by simp [isHighSurrogate]; omega
  have hlow : isLowSurrogate c.toNat = false := by simp [isLowSurrogate]; omega
  simp only [List.cons_append, List.nil_append]
  rw [readString.eq_3, hexUnit?_hexDigit hc]
  simp [hhigh, hlow, h]

/-- A character that needs no escape is read as itself. -/
lemma readString_plain {c : Char} {cs s rest : List Char} (hc : ¬ c.toNat < 0x20) (hquote : c ≠ '"')
    (hslash : c ≠ '\\') (h : readString cs = some (s, rest)) :
    readString (c :: cs) = some (c :: s, rest) := by
  rw [readString.eq_5 c cs hquote (fun _ _ _ _ _ hc _ => hslash hc) fun _ _ hc _ => hslash hc, h]
  simp [hc, hslash]

/-- A character is read back as it stands in a string. -/
lemma readString_escape (c : Char) {cs s rest : List Char} (h : readString cs = some (s, rest)) :
    readString (escape c ++ cs) = some (c :: s, rest) := by
  rw [escape]
  split_ifs with hquote hslash hback hfeed hline hreturn htab hcontrol
  · exact readString_simple (by rw [hquote]; rfl) h
  · exact readString_simple (by rw [hslash]; rfl) h
  · exact readString_simple (by rw [hback]; rfl) h
  · exact readString_simple (by rw [hfeed]; rfl) h
  · exact readString_simple (by rw [hline]; rfl) h
  · exact readString_simple (by rw [hreturn]; rfl) h
  · exact readString_simple (by rw [htab]; rfl) h
  · exact readString_unit hcontrol h
  · exact readString_plain hcontrol hquote hslash h

/-- A string is read back up to its closing quote. -/
lemma readString_flatMap (s rest : List Char) :
    readString (s.flatMap escape ++ '"' :: rest) = some (s, rest) := by
  induction s with
  | nil => rfl
  | cons c s ih =>
    rw [List.flatMap_cons, List.append_assoc]
    exact readString_escape c ih

/-! ## Values -/

/-- A value that can be read back if `depth` levels may be opened: its numbers are whole ones of 64
bits, and arrays and objects are not nested deeper. -/
inductive Readable : Nat → Json → Prop
  | null (depth : Nat) : Readable depth .null
  | bool (depth : Nat) (b : Bool) : Readable depth (.bool b)
  | natural (depth : Nat) {n : Nat} (h : n ≤ JsonNumber.maxNatural) :
    Readable depth (.number (.natural n))
  | string (depth : Nat) (s : String) : Readable depth (.string s)
  | array {depth : Nat} {items : List Json} (h : ∀ item ∈ items, Readable depth item) :
    Readable (depth + 1) (.array items)
  | object {depth : Nat} {members : List (String × Json)}
    (h : ∀ member ∈ members, Readable depth member.2) : Readable (depth + 1) (.object members)

mutual

/-- A value with the members of its objects in the order in which a reader lists them. -/
def arranged : Json → Json
  | .array items => .array (arrangedItems items)
  | .object members => ofMembers (arrangedMembers members)
  | v => v

/-- The same for items. -/
def arrangedItems : List Json → List Json
  | [] => []
  | item :: items => arranged item :: arrangedItems items

/-- The same for members. -/
def arrangedMembers : List (String × Json) → List (String × Json)
  | [] => []
  | (key, value) :: members => (key, arranged value) :: arrangedMembers members

end

lemma skipSpace_cons {c : Char} (h : isSpace c = false) (cs : List Char) :
    skipSpace (c :: cs) = c :: cs := by
  rw [skipSpace, List.dropWhile_cons_of_neg (by simp [h])]

/-- A digit is none of the other characters. -/
lemma ne_of_isDigit {c d : Char} (hc : JsonNumber.isDigit c = true)
    (hd : JsonNumber.isDigit d = false) : c ≠ d := by
  rintro rfl
  rw [hc] at hd
  cases hd

/-- A digit is no white space. -/
lemma isSpace_eq_false {c : Char} (h : JsonNumber.isDigit c = true) : isSpace c = false := by
  have hblank : c ≠ ' ' := ne_of_isDigit h rfl
  have htab : c ≠ '\t' := ne_of_isDigit h rfl
  have hline : c ≠ '\n' := ne_of_isDigit h rfl
  have hreturn : c ≠ '\r' := ne_of_isDigit h rfl
  simp [isSpace, hblank, htab, hline, hreturn]

/-- The text begins with a character that is no white space and closes no array. -/
def Opens (text : List Char) : Prop := ∃ c cs, text = c :: cs ∧ isSpace c = false ∧ c ≠ ']'

lemma Opens.append {text : List Char} (h : Opens text) (more : List Char) :
    Opens (text ++ more) := by
  obtain ⟨c, cs, rfl, hspace, hclosing⟩ := h
  exact ⟨c, cs ++ more, rfl, hspace, hclosing⟩

/-- Every value begins like this. -/
lemma opens_render {depth : Nat} {v : Json} (h : Readable depth v) : Opens (render v) := by
  cases h with
  | null => exact ⟨'n', _, rfl, rfl, by decide⟩
  | bool depth b =>
    cases b
    · exact ⟨'f', _, rfl, rfl, by decide⟩
    · exact ⟨'t', _, rfl, rfl, by decide⟩
  | natural depth h =>
    obtain ⟨c, cs, hwrite, hdigit⟩ := JsonNumber.exists_write_eq_cons _
    exact ⟨c, cs, hwrite, isSpace_eq_false hdigit, ne_of_isDigit hdigit rfl⟩
  | string depth s => exact ⟨'"', _, rfl, rfl, by decide⟩
  | array h => exact ⟨'[', _, rfl, rfl, by decide⟩
  | object h => exact ⟨'\x7b', _, rfl, rfl, by decide⟩

/-! ### Steps of the reader -/

section Steps

variable {steps depth : Nat} {text more rest : List Char}

lemma readValue_string (s : String) (rest : List Char) :
    readValue (steps + 1) depth (renderString s ++ rest) = some (.string s, rest) := by
  have hread : readString (s.toList.flatMap escape ++ ['"'] ++ rest) = some (s.toList, rest) := by
    rw [List.append_assoc]
    exact readString_flatMap s.toList rest
  rw [renderString, List.cons_append, readValue.eq_2, skipSpace_cons rfl]
  simp only [hread, Option.bind_eq_bind, Option.bind_some, String.ofList_toList]
  rfl

lemma readValue_natural {n : Nat} (h : n ≤ JsonNumber.maxNatural) (hrest : JsonNumber.Closed rest) :
    readValue (steps + 1) depth ((JsonNumber.natural n).write.toList ++ rest) =
      some (.number (.natural n), rest) := by
  have hread := JsonNumber.read_natural h hrest
  obtain ⟨c, cs, hwrite, hdigit⟩ := JsonNumber.exists_write_eq_cons n
  rw [hwrite, List.cons_append] at hread ⊢
  rw [readValue.eq_2, skipSpace_cons (isSpace_eq_false hdigit)]
  have hne : ∀ d ds, JsonNumber.isDigit d = false → c :: (cs ++ rest) ≠ d :: ds := by
    intro d ds hd heq
    exact ne_of_isDigit hdigit hd (List.cons.inj heq).1
  -- the other sorts of values begin with characters that are no digits
  split
  · exact absurd ‹_› (hne 'n' _ rfl)
  · exact absurd ‹_› (hne 't' _ rfl)
  · exact absurd ‹_› (hne 'f' _ rfl)
  · exact absurd ‹_› (hne '"' _ rfl)
  · exact absurd ‹_› (hne '[' _ rfl)
  · exact absurd ‹_› (hne '\x7b' _ rfl)
  · rw [hread]
    rfl

lemma readValue_array {items : List Json} (hopens : Opens text)
    (h : readItems steps depth text = some (items, rest)) :
    readValue (steps + 1) (depth + 1) ('[' :: text) = some (.array items, rest) := by
  obtain ⟨c, cs, rfl, hspace, hclosing⟩ := hopens
  rw [readValue.eq_2, skipSpace_cons rfl]
  simp only [skipSpace_cons hspace, Nat.succ_ne_zero, if_false]
  split
  · rename_i heq
    cases heq
    exact absurd rfl hclosing
  · rw [Nat.add_sub_cancel, h]
    rfl

lemma readValue_object {members : List (String × Json)} {cs : List Char}
    (h : readMembers steps depth ('"' :: cs) = some (members, rest)) :
    readValue (steps + 1) (depth + 1) ('\x7b' :: '"' :: cs) = some (ofMembers members, rest) := by
  rw [readValue.eq_2, skipSpace_cons rfl]
  simp only [skipSpace_cons (show isSpace '"' = false from rfl), Nat.succ_ne_zero, if_false]
  split
  · rename_i heq
    cases heq
  · rw [Nat.add_sub_cancel, h]
    rfl

lemma readItems_last {item : Json} (h : readValue steps depth text = some (item, ']' :: rest)) :
    readItems (steps + 1) depth text = some ([item], rest) := by
  rw [readItems.eq_2, h]
  rfl

lemma readItems_cons {item : Json} {items : List Json}
    (h : readValue steps depth text = some (item, ',' :: more))
    (hmore : readItems steps depth more = some (items, rest)) :
    readItems (steps + 1) depth text = some (item :: items, rest) := by
  rw [readItems.eq_2, h]
  simp [skipSpace_cons (show isSpace ',' = false from rfl), hmore]

/-- A key is read back, up to the colon after it. -/
lemma readString_key (key : String) (text : List Char) :
    readString (key.toList.flatMap escape ++ ['"'] ++ ':' :: text) =
      some (key.toList, ':' :: text) := by
  rw [List.append_assoc]
  exact readString_flatMap key.toList (':' :: text)

lemma readMembers_last {key : String} {value : Json}
    (h : readValue steps depth text = some (value, '\x7d' :: rest)) :
    readMembers (steps + 1) depth (renderString key ++ ':' :: text) =
      some ([(key, value)], rest) := by
  rw [renderString, List.cons_append, readMembers.eq_2, skipSpace_cons rfl]
  simp only [readString_key, skipSpace_cons (show isSpace ':' = false from rfl), h,
    skipSpace_cons (show isSpace '\x7d' = false from rfl), Option.bind_eq_bind, Option.bind_some,
    String.ofList_toList]
  rfl

lemma readMembers_cons {key : String} {value : Json} {members : List (String × Json)}
    (h : readValue steps depth text = some (value, ',' :: more))
    (hmore : readMembers steps depth more = some (members, rest)) :
    readMembers (steps + 1) depth (renderString key ++ ':' :: text) =
      some ((key, value) :: members, rest) := by
  rw [renderString, List.cons_append, readMembers.eq_2, skipSpace_cons rfl]
  simp only [readString_key, skipSpace_cons (show isSpace ':' = false from rfl), h,
    skipSpace_cons (show isSpace ',' = false from rfl), hmore, Option.bind_eq_bind,
    Option.bind_some, String.ofList_toList]
  rfl

end Steps

/-! ### Whole values -/

/-- The value is read back from its text, given as many steps as that takes at most. -/
def ReadBack (depth : Nat) (v : Json) : Prop :=
  ∀ steps rest, 2 * (render v).length ≤ steps → JsonNumber.Closed rest →
    readValue steps depth (render v ++ rest) = some (arranged v, rest)

/-- Items that are read back make up an array that is. -/
lemma readItems_render {depth : Nat} {items : List Json} (hne : items ≠ [])
    (hitems : ∀ item ∈ items, ReadBack depth item) {steps : Nat}
    (hsteps : 2 * (renderItems items).length + 1 ≤ steps) (rest : List Char) :
    readItems steps depth (renderItems items ++ ']' :: rest) =
      some (arrangedItems items, rest) := by
  induction items generalizing steps with
  | nil => exact absurd rfl hne
  | cons item items ih =>
    obtain ⟨hitem, hitems⟩ := List.forall_mem_cons.mp hitems
    obtain ⟨steps, rfl⟩ := Nat.exists_eq_add_of_le' (Nat.one_le_of_lt hsteps)
    cases items with
    | nil =>
      rw [renderItems] at hsteps ⊢
      exact readItems_last (hitem steps _ (by omega) (.inr (.inl rfl)))
    | cons next items =>
      have htext : renderItems (item :: next :: items) =
          render item ++ ',' :: renderItems (next :: items) := rfl
      rw [htext, List.length_append, List.length_cons] at hsteps
      rw [htext, List.append_assoc, List.cons_append]
      exact readItems_cons (hitem steps _ (by omega) (.inl rfl))
        (ih (List.cons_ne_nil _ _) hitems (by omega))

/-- Members with values that are read back make up an object that is. -/
lemma readMembers_render {depth : Nat} {members : List (String × Json)} (hne : members ≠ [])
    (hmembers : ∀ member ∈ members, ReadBack depth member.2) {steps : Nat}
    (hsteps : 2 * (renderMembers members).length + 1 ≤ steps) (rest : List Char) :
    readMembers steps depth (renderMembers members ++ '\x7d' :: rest) =
      some (arrangedMembers members, rest) := by
  induction members generalizing steps with
  | nil => exact absurd rfl hne
  | cons member members ih =>
    obtain ⟨key, value⟩ := member
    obtain ⟨hmember, hmembers⟩ := List.forall_mem_cons.mp hmembers
    have hvalue : ReadBack depth value := hmember
    obtain ⟨steps, rfl⟩ := Nat.exists_eq_add_of_le' (Nat.one_le_of_lt hsteps)
    cases members with
    | nil =>
      have htext : renderMembers [(key, value)] = renderString key ++ ':' :: render value := rfl
      rw [htext, List.length_append, List.length_cons] at hsteps
      rw [htext, List.append_assoc, List.cons_append]
      exact readMembers_last (hvalue steps _ (by omega) (.inr (.inr rfl)))
    | cons next members =>
      have htext : renderMembers ((key, value) :: next :: members) =
          renderString key ++ ':' :: (render value ++ ',' :: renderMembers (next :: members)) := rfl
      rw [htext, List.length_append, List.length_cons, List.length_append,
        List.length_cons] at hsteps
      rw [htext, List.append_assoc, List.cons_append, List.append_assoc, List.cons_append]
      exact readMembers_cons (hvalue steps _ (by omega) (.inl rfl))
        (ih (List.cons_ne_nil _ _) hmembers (by omega))

/-- Every readable value is read back. -/
lemma readBack_of_readable {depth : Nat} {v : Json} (h : Readable depth v) : ReadBack depth v := by
  induction h with
  | null depth =>
    intro steps rest hsteps hrest
    obtain ⟨steps, rfl⟩ := Nat.exists_eq_add_of_le' (Nat.one_le_of_lt hsteps)
    rfl
  | bool depth b =>
    intro steps rest hsteps hrest
    cases b
    · obtain ⟨steps, rfl⟩ := Nat.exists_eq_add_of_le' (Nat.one_le_of_lt hsteps)
      rfl
    · obtain ⟨steps, rfl⟩ := Nat.exists_eq_add_of_le' (Nat.one_le_of_lt hsteps)
      rfl
  | @natural depth n hn =>
    intro steps rest hsteps hrest
    obtain ⟨c, cs, hwrite, -⟩ := JsonNumber.exists_write_eq_cons n
    rw [render, hwrite, List.length_cons] at hsteps
    obtain ⟨steps, rfl⟩ := Nat.exists_eq_add_of_le' (show 1 ≤ steps by omega)
    rw [render]
    exact readValue_natural hn hrest
  | string depth s =>
    intro steps rest hsteps hrest
    rw [render, renderString, List.length_cons] at hsteps
    obtain ⟨steps, rfl⟩ := Nat.exists_eq_add_of_le' (show 1 ≤ steps by omega)
    rw [render]
    exact readValue_string s rest
  | @array depth items hitems ih =>
    intro steps rest hsteps hrest
    rw [render, List.length_cons, List.length_append] at hsteps
    obtain ⟨steps, rfl⟩ := Nat.exists_eq_add_of_le' (show 1 ≤ steps by omega)
    cases items with
    | nil => rfl
    | cons item items =>
      have hread := readItems_render (List.cons_ne_nil item items) ih
        (show 2 * (renderItems (item :: items)).length + 1 ≤ steps by omega) rest
      have hopens : Opens (renderItems (item :: items)) := by
        have hitem := opens_render (hitems item List.mem_cons_self)
        cases items with
        | nil => exact hitem
        | cons next items => exact hitem.append _
      rw [render, List.cons_append, List.append_assoc]
      exact readValue_array (hopens.append _) hread
  | @object depth members hmembers ih =>
    intro steps rest hsteps hrest
    rw [render, List.length_cons, List.length_append] at hsteps
    obtain ⟨steps, rfl⟩ := Nat.exists_eq_add_of_le' (show 1 ≤ steps by omega)
    cases members with
    | nil => rfl
    | cons member members =>
      have hread := readMembers_render (List.cons_ne_nil member members) ih
        (show 2 * (renderMembers (member :: members)).length + 1 ≤ steps by omega) rest
      obtain ⟨cs, hkey⟩ : ∃ cs, renderMembers (member :: members) = '"' :: cs := by
        cases members <;> exact ⟨_, rfl⟩
      rw [hkey, List.cons_append] at hread
      rw [render, hkey, List.cons_append, List.append_assoc, List.cons_append]
      exact readValue_object hread

/-- **A value is read back from its text**, but for the order of the members of its objects. -/
theorem read_render {v : Json} (h : Readable maxDepth v) : read (render v) = some (arranged v) := by
  have hread := readBack_of_readable h (2 * (render v).length + 2) [] (by omega) trivial
  rw [List.append_nil] at hread
  rw [read, hread]
  rfl

/-! ## Texts on one line -/

/-- A character is escaped without control characters. -/
lemma le_toNat_of_mem_escape (c : Char) : ∀ d ∈ escape c, 0x20 ≤ d.toNat := by
  have hhex : ∀ n < 16, 0x20 ≤ (hexDigit n).toNat := by decide
  rw [escape]
  split_ifs with hquote hslash hback hfeed hline hreturn htab hcontrol
  · simp
  · simp
  · simp
  · simp
  · simp
  · simp
  · simp
  · simp only [List.forall_mem_cons]
    exact ⟨by decide, by decide, by decide, by decide, hhex _ (by omega),
      hhex _ (Nat.mod_lt _ (by decide)), by simp⟩
  · rw [List.forall_mem_singleton]
    exact Nat.not_lt.mp hcontrol

/-- A string is written without control characters. -/
lemma le_toNat_of_mem_renderString {s : String} {c : Char} (h : c ∈ renderString s) :
    0x20 ≤ c.toNat := by
  rw [renderString, List.mem_cons, List.mem_append, List.mem_singleton, List.mem_flatMap] at h
  rcases h with rfl | ⟨d, -, hc⟩ | rfl
  · decide
  · exact le_toNat_of_mem_escape d c hc
  · decide

lemma mem_renderItems {items : List Json} {c : Char} (h : c ∈ renderItems items) :
    c = ',' ∨ ∃ item ∈ items, c ∈ render item := by
  induction items with
  | nil => cases h
  | cons item items ih =>
    cases items with
    | nil => exact .inr ⟨item, List.mem_cons_self, h⟩
    | cons next items =>
      have htext : renderItems (item :: next :: items) =
          render item ++ ',' :: renderItems (next :: items) := rfl
      rw [htext, List.mem_append, List.mem_cons] at h
      rcases h with hc | rfl | hc
      · exact .inr ⟨item, List.mem_cons_self, hc⟩
      · exact .inl rfl
      · exact (ih hc).imp_right fun ⟨other, hother, hc⟩ => ⟨other, List.mem_cons_of_mem _ hother, hc⟩

lemma mem_renderMembers {members : List (String × Json)} {c : Char}
    (h : c ∈ renderMembers members) :
    c = ',' ∨ c = ':' ∨ ∃ member ∈ members, c ∈ renderString member.1 ∨ c ∈ render member.2 := by
  induction members with
  | nil => cases h
  | cons member members ih =>
    obtain ⟨key, value⟩ := member
    cases members with
    | nil =>
      have htext : renderMembers [(key, value)] = renderString key ++ ':' :: render value := rfl
      rw [htext, List.mem_append, List.mem_cons] at h
      rcases h with hc | rfl | hc
      · exact .inr (.inr ⟨_, List.mem_cons_self, .inl hc⟩)
      · exact .inr (.inl rfl)
      · exact .inr (.inr ⟨_, List.mem_cons_self, .inr hc⟩)
    | cons next members =>
      have htext : renderMembers ((key, value) :: next :: members) =
          renderString key ++ ':' :: (render value ++ ',' :: renderMembers (next :: members)) := rfl
      rw [htext, List.mem_append, List.mem_cons, List.mem_append, List.mem_cons] at h
      rcases h with hc | rfl | hc | rfl | hc
      · exact .inr (.inr ⟨_, List.mem_cons_self, .inl hc⟩)
      · exact .inr (.inl rfl)
      · exact .inr (.inr ⟨_, List.mem_cons_self, .inr hc⟩)
      · exact .inl rfl
      · exact (ih hc).imp_right <| Or.imp_right fun ⟨other, hother, hc⟩ =>
          ⟨other, List.mem_cons_of_mem _ hother, hc⟩

/-- A value is written without control characters, so without line breaks. -/
theorem le_toNat_of_mem_render {depth : Nat} {v : Json} (h : Readable depth v) :
    ∀ c ∈ render v, 0x20 ≤ c.toNat := by
  induction h with
  | null depth =>
    have hnull : ∀ c ∈ ['n', 'u', 'l', 'l'], 0x20 ≤ c.toNat := by simp
    exact hnull
  | bool depth b =>
    have htrue : ∀ c ∈ ['t', 'r', 'u', 'e'], 0x20 ≤ c.toNat := by simp
    have hfalse : ∀ c ∈ ['f', 'a', 'l', 's', 'e'], 0x20 ≤ c.toNat := by simp
    cases b
    · exact hfalse
    · exact htrue
  | @natural depth n hn =>
    intro c hc
    rw [render, JsonNumber.toList_write_natural] at hc
    have hdigit := Nat.isDigit_of_mem_toDigits (by decide) (by decide) hc
    simp only [Char.isDigit, ge_iff_le, Bool.and_eq_true, decide_eq_true_eq,
      UInt32.le_iff_toNat_le] at hdigit
    exact le_trans (by decide) hdigit.1
  | string depth s =>
    intro c hc
    rw [render] at hc
    exact le_toNat_of_mem_renderString hc
  | @array depth items hitems ih =>
    intro c hc
    rw [render, List.mem_cons, List.mem_append, List.mem_singleton] at hc
    rcases hc with rfl | hc | rfl
    · decide
    · rcases mem_renderItems hc with rfl | ⟨item, hitem, hc⟩
      · decide
      · exact ih item hitem c hc
    · decide
  | @object depth members hmembers ih =>
    intro c hc
    rw [render, List.mem_cons, List.mem_append, List.mem_singleton] at hc
    rcases hc with rfl | hc | rfl
    · decide
    · rcases mem_renderMembers hc with rfl | rfl | ⟨member, hmember, hc | hc⟩
      · decide
      · decide
      · exact le_toNat_of_mem_renderString hc
      · exact ih member hmember c hc
    · decide

end FlowWatch.Json
