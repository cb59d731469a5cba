import MarkdownSections.Proofs.Json.Scalar

/-!
# Written values are read back

The one-line text of a value is read as that value (`ReadsBack.read_compact`), and so is its text
spread over lines, if the value is put together from scalars that are written exactly, lists, and
maps whose keys differ, and its nesting is admitted.

Both forms are one form with blanks in different places (`Layout`). The items of a list and the
entries of a map are read one after the other, with fuel for the length of their text
(`readItems_further`, `readEntries_further`).
-/

set_option autoImplicit false

namespace MarkdownSections.Json

/-! ## Values with a text behind them -/

/-- A text that is read as a value, whatever stands behind it that is no part of a numeral, where
`room` more collections may stand inside. -/
structure ReadsAs (rules : ReadRules) (room : Nat) (text : List Char) (v : Json) : Prop where
  starts : ∃ c cs, text = c :: cs ∧ c ∉ blanks ∧ c ≠ ']'
  reads : ∀ fuel rest, EndsNumeral rest → text.length ≤ fuel →
    readValue rules fuel room (text ++ rest) = .ok (v, rest)

/-- A value whose compact text is read back as the value. -/
abbrev ReadsBack (rules : ReadRules) (room : Nat) (v : Json) : Prop :=
  ReadsAs rules room (compact v) v

section Values

variable {rules : ReadRules} {room : Nat} {text : List Char} {v : Json}

theorem ReadsAs.skipBlanks_front (h : ReadsAs rules room text v) {front : List Char}
    (hfront : front ⊆ blanks) (rest : List Char) :
    skipBlanks (front ++ (text ++ rest)) = text ++ rest := by
  obtain ⟨c, cs, rfl, hblank, -⟩ := h.starts
  rw [skipBlanks_append hfront]
  exact skipBlanks_cons hblank _

theorem ReadsAs.skipBlanks_space (h : ReadsAs rules room text v) (rest : List Char) :
    skipBlanks ([' '] ++ (text ++ rest)) = text ++ rest :=
  h.skipBlanks_front (by decide) rest

/-- A text that is no collection is read by its first character. -/
theorem readsAs_of_readScalar {c : Char} {cs : List Char} (hblank : c ∉ blanks)
    (hopens : c ∉ ['"', '[', '\x7b', ']'])
    (h : ∀ rest, EndsNumeral rest → readScalar rules (c :: cs ++ rest) = .ok (v, rest)) :
    ReadsAs rules room (c :: cs) v := by
  simp only [List.mem_cons, List.not_mem_nil, or_false, not_or] at hopens
  obtain ⟨hquote, hbracket, hbrace, hclose⟩ := hopens
  refine ⟨⟨c, cs, rfl, hblank, hclose⟩, fun fuel rest hrest hfuel => ?_⟩
  obtain ⟨fuel, rfl⟩ : ∃ k, fuel = k + 1 := ⟨fuel - 1, by simp at hfuel; omega⟩
  have hvalue : readValue rules (fuel + 1) room (c :: cs ++ rest) =
      readScalar rules (c :: cs ++ rest) :=
    readValue.eq_9 rules room _ fuel (fun _ heq => hquote (List.cons.inj heq).1)
      (fun _ heq => hbracket (List.cons.inj heq).1) (fun _ heq => hbrace (List.cons.inj heq).1)
  exact hvalue.trans (h rest hrest)

theorem readsAs_null : ReadsAs rules room "null".toList .null :=
  readsAs_of_readScalar (by decide) (by decide) fun _ _ => rfl

/-- A whole number that is written at all is read back. -/
theorem readsAs_int {i : Int} (h : Text.isWritable i = true) :
    ReadsAs rules room (Text.showInt i).toList (.int i) := by
  unfold Text.isWritable at h
  rw [decide_eq_true_eq] at h
  -- A number without a sign is known by its first digit, one with a sign by the sign.
  cases i with
  | ofNat n =>
      change ReadsAs rules room (String.ofList (Text.natDigits n)).toList _
      rw [String.toList_ofList]
      obtain ⟨c, cs, hdigits, hc⟩ := Text.exists_natDigits_eq_cons n
      rw [hdigits]
      refine readsAs_of_readScalar (not_mem_of_isDigit hc rfl)
        (not_mem_of_isDigit hc rfl) fun rest hrest => ?_
      rw [List.cons_append, readScalar_of_isDigit hc, ← List.cons_append, ← hdigits]
      exact readNumeral_natDigits rules false h hrest
  | negSucc n =>
      change ReadsAs rules room (String.ofList ('-' :: Text.natDigits (n + 1))).toList _
      rw [String.toList_ofList]
      refine readsAs_of_readScalar (by decide) (by decide) fun rest hrest => ?_
      rw [List.cons_append, readScalar_minus_natDigits]
      exact readNumeral_natDigits rules true h hrest

/-- A text between quotes is read as the text. -/
theorem readsBack_text (rules : ReadRules) (room : Nat) (s : String) :
    ReadsBack rules room (.text s) := by
  refine ⟨⟨'"', s.toList.flatMap escapeChar ++ ['"'], rfl, by decide, by decide⟩, ?_⟩
  intro fuel rest _ hfuel
  change (quote s.toList).length ≤ fuel at hfuel
  obtain ⟨fuel, rfl⟩ : ∃ k, fuel = k + 1 := ⟨fuel - 1, by simp [quote] at hfuel; omega⟩
  change readValue rules (fuel + 1) room (quote s.toList ++ rest) = _
  rw [readValue_quote, String.ofList_toList]

/-- A value that may be left open is written as null where it is. -/
theorem readsAs_optional {α : Type} {make : α → Json} {write : Json → List Char} {o : Option α}
    (hnull : write .null = "null".toList)
    (h : ∀ a ∈ o, ReadsAs rules room (write (make a)) (make a)) :
    ReadsAs rules room (write ((o.map make).getD .null)) ((o.map make).getD .null) := by
  cases o with
  | none =>
      change ReadsAs rules room (write .null) .null
      rw [hnull]
      exact readsAs_null
  | some a => exact h a rfl

end Values

/-! ## Layouts -/

/-- Where the blanks of a collection stand: behind its opening bracket, behind commas, and in front
of its closing bracket. -/
structure Layout where
  opening : List Char
  between : List Char
  closing : List Char
  opening_blank : opening ⊆ blanks := by decide
  between_blank : between ⊆ blanks := by decide
  closing_blank : closing ⊆ blanks := by decide

namespace Layout

/-- The further items of a collection and its closing bracket. -/
def further (l : Layout) (close : Char) : List (List Char) → List Char
  | [] => l.closing ++ [close]
  | item :: items => ',' :: l.between ++ item ++ l.further close items

/-- A collection of items between brackets. -/
def collection (l : Layout) (opens close : Char) : List (List Char) → List Char
  | [] => [opens, close]
  | item :: items => opens :: l.opening ++ item ++ l.further close items

/-- One line, with a blank behind every comma. -/
def line : Layout where
  opening := []
  between := [' ']
  closing := []

theorem newLine_subset_blanks (depth : Nat) : newLine depth ⊆ blanks := by
  intro c hc
  rcases List.mem_cons.mp hc with rfl | hc
  · decide
  · obtain ⟨-, rfl⟩ := List.mem_replicate.mp hc
    decide

/-- Every item on a line of its own. -/
def lines (depth : Nat) : Layout where
  opening := newLine (depth + 1)
  between := newLine (depth + 1)
  closing := newLine depth
  opening_blank := newLine_subset_blanks (depth + 1)
  between_blank := newLine_subset_blanks (depth + 1)
  closing_blank := newLine_subset_blanks depth

variable (l : Layout) (close : Char) (item : List Char) (items : List (List Char))
  (rest : List Char)

theorem further_nil_append : l.further close [] ++ rest = l.closing ++ close :: rest := by
  simp [further]

theorem further_cons_append : l.further close (item :: items) ++ rest =
    ',' :: (l.between ++ (item ++ (l.further close items ++ rest))) := by
  simp [further]

theorem collection_cons_append (opens : Char) : l.collection opens close (item :: items) ++ rest =
    opens :: (l.opening ++ (item ++ (l.further close items ++ rest))) := by
  simp [collection]

theorem length_further_cons : (l.further close (item :: items)).length =
    l.between.length + item.length + (l.further close items).length + 1 := by
  simp [further]
  omega

theorem length_collection_cons (opens : Char) :
    (l.collection opens close (item :: items)).length =
      l.opening.length + item.length + (l.further close items).length + 1 := by
  simp [collection]
  omega

theorem length_further_pos : 0 < (l.further close items).length := by
  cases items <;> simp [further]

/-- Behind an item there is a blank, a comma or the closing bracket. -/
theorem endsNumeral_further (hdigit : close.isDigit = false) (hmark : close ∉ ['.', 'e', 'E']) :
    EndsNumeral (l.further close items ++ rest) := by
  cases items with
  | cons item items =>
      rw [further_cons_append]
      exact endsNumeral_cons (by decide) (by decide) _
  | nil =>
      rw [further_nil_append]
      have hclosing := l.closing_blank
      cases hblanks : l.closing with
      | nil => exact endsNumeral_cons hdigit hmark rest
      | cons c cs =>
          have hc : c ∈ blanks := hclosing (hblanks ▸ List.mem_cons_self)
          simp only [blanks, List.mem_cons, List.not_mem_nil, or_false] at hc
          rcases hc with rfl | rfl | rfl | rfl <;> exact endsNumeral_cons rfl (by decide) _

end Layout

theorem compactItems_eq (vs : List Json) :
    compactItems vs = Layout.line.further ']' (vs.map compact) := by
  induction vs with
  | nil => rfl
  | cons v vs ih => rw [compactItems, ih]; rfl

theorem indentedItems_eq (depth : Nat) (vs : List Json) :
    indentedItems depth vs =
      (Layout.lines depth).further ']' (vs.map (indented (depth + 1))) := by
  induction vs with
  | nil => rfl
  | cons v vs ih => rw [indentedItems, ih]; rfl

theorem compact_list_eq (vs : List Json) :
    compact (.list vs) = Layout.line.collection '[' ']' (vs.map compact) := by
  cases vs with
  | nil => rfl
  | cons v vs => rw [compact, compactItems_eq]; rfl

theorem indented_list_eq (depth : Nat) (vs : List Json) :
    indented depth (.list vs) =
      (Layout.lines depth).collection '[' ']' (vs.map (indented (depth + 1))) := by
  cases vs with
  | nil => rfl
  | cons v vs => rw [indented, indentedItems_eq]; rfl

/-- An entry of a map whose value is written in a given way. -/
def entryText (write : Json → List Char) (e : String × Json) : List Char :=
  quote e.1.toList ++ ':' :: ' ' :: write e.2

theorem compactEntries_eq (es : List (String × Json)) :
    compactEntries es = Layout.line.further '\x7d' (es.map (entryText compact)) := by
  induction es with
  | nil => rfl
  | cons e es ih =>
      obtain ⟨k, v⟩ := e
      rw [compactEntries, ih]
      simp [Layout.further, Layout.line, entryText]

theorem indentedEntries_eq (depth : Nat) (es : List (String × Json)) :
    indentedEntries depth es =
      (Layout.lines depth).further '\x7d' (es.map (entryText (indented (depth + 1)))) := by
  induction es with
  | nil => rfl
  | cons e es ih =>
      obtain ⟨k, v⟩ := e
      rw [indentedEntries, ih]
      simp [Layout.further, Layout.lines, entryText]

theorem compact_map_eq (es : List (String × Json)) :
    compact (.map es) = Layout.line.collection '\x7b' '\x7d' (es.map (entryText compact)) := by
  cases es with
  | nil => rfl
  | cons e es =>
      obtain ⟨k, v⟩ := e
      rw [compact, compactEntries_eq]
      simp [Layout.collection, Layout.line, entryText]

theorem indented_map_eq (depth : Nat) (es : List (String × Json)) :
    indented depth (.map es) = (Layout.lines depth).collection '\x7b' '\x7d'
      (es.map (entryText (indented (depth + 1)))) := by
  cases es with
  | nil => rfl
  | cons e es =>
      obtain ⟨k, v⟩ := e
      rw [indented, indentedEntries_eq]
      simp [Layout.collection, Layout.lines, entryText]

/-! ## Lists -/

section Steps

variable {rules : ReadRules} {fuel room : Nat} {v : Json} {cs after rest rest' : List Char}

theorem readItems_of_last (h : readValue rules fuel room cs = .ok (v, after))
    (hafter : skipBlanks after = ']' :: rest) :
    readItems rules (fuel + 1) room cs = .ok ([v], rest) := by
  rw [readItems, h]
  dsimp only [bind, Except.bind]
  rw [hafter]
  rfl

theorem readItems_of_more {vs : List Json} (h : readValue rules fuel room cs = .ok (v, after))
    (hafter : skipBlanks after = ',' :: rest)
    (hmore : readItems rules fuel room (skipBlanks rest) = .ok (vs, rest')) :
    readItems rules (fuel + 1) room cs = .ok (v :: vs, rest') := by
  rw [readItems, h]
  dsimp only [bind, Except.bind]
  rw [hafter]
  simp only [hmore]
  rfl

theorem readValue_of_items {vs : List Json} (hskip : skipBlanks cs = after)
    (hclose : ∀ tail, after ≠ ']' :: tail)
    (h : readItems rules fuel room after = .ok (vs, rest)) :
    readValue rules (fuel + 1) (room + 1) ('[' :: cs) = .ok (.list vs, rest) := by
  rw [readValue.eq_5 rules fuel cs room fun tail heq => hclose tail (hskip.symm.trans heq),
    hskip, h]
  rfl

end Steps

section Collections

variable {rules : ReadRules} {room : Nat} {write : Json → List Char} (l : Layout)

/-- The items of a list are read back one after the other. -/
theorem readItems_further {v : Json} {vs : List Json}
    (h : ∀ w ∈ v :: vs, ReadsAs rules room (write w) w) (rest : List Char) {fuel : Nat}
    (hfuel : (write v).length + (l.further ']' (vs.map write)).length ≤ fuel) :
    readItems rules fuel room (write v ++ (l.further ']' (vs.map write) ++ rest)) =
      .ok (v :: vs, rest) := by
  induction vs generalizing v fuel with
  | nil =>
      -- the bracket stands right behind the last item
      have hpos := l.length_further_pos ']' []
      obtain ⟨fuel, rfl⟩ : ∃ k, fuel = k + 1 := ⟨fuel - 1, by simp at hfuel; omega⟩
      have hvalue := (h v List.mem_cons_self).reads fuel _
        (l.endsNumeral_further ']' [] rest (by decide) (by decide)) (by simp at hfuel; omega)
      refine readItems_of_last hvalue ?_
      rw [l.further_nil_append, skipBlanks_append l.closing_blank]
      exact skipBlanks_cons (by decide) rest
  | cons w vs ih =>
      have hitems : ∀ x ∈ w :: vs, ReadsAs rules room (write x) x := fun x hx =>
        h x (List.mem_cons_of_mem v hx)
      have hlength := l.length_further_cons ']' (write w) (vs.map write)
      rw [List.map_cons] at hfuel ⊢
      obtain ⟨fuel, rfl⟩ : ∃ k, fuel = k + 1 := ⟨fuel - 1, by omega⟩
      have hvalue := (h v List.mem_cons_self).reads fuel _
        (l.endsNumeral_further ']' (write w :: vs.map write) rest (by decide) (by decide))
        (by omega)
      rw [l.further_cons_append] at hvalue ⊢
      refine readItems_of_more hvalue (skipBlanks_cons (by decide) _) ?_
      rw [(hitems w List.mem_cons_self).skipBlanks_front l.between_blank]
      exact ih hitems (by omega)

theorem ReadsAs.list {vs : List Json} (h : ∀ w ∈ vs, ReadsAs rules room (write w) w) :
    ReadsAs rules (room + 1) (l.collection '[' ']' (vs.map write)) (.list vs) := by
  cases vs with
  | nil =>
      refine ⟨⟨'[', [']'], rfl, by decide, by decide⟩, fun fuel rest _ hfuel => ?_⟩
      -- An empty list closes at once, before any item is looked for.
      obtain ⟨fuel, rfl⟩ : ∃ k, fuel = k + 1 := ⟨fuel - 1, by simp [Layout.collection] at hfuel; omega⟩
      exact readValue.eq_3 rules fuel (']' :: rest) (room + 1) rest
        (skipBlanks_cons (by decide) rest)
  | cons v vs =>
      have hv := h v List.mem_cons_self
      refine ⟨⟨'[', _, rfl, by decide, by decide⟩, fun fuel rest _ hfuel => ?_⟩
      have hlength := l.length_collection_cons ']' (write v) (vs.map write) '['
      rw [List.map_cons] at hfuel ⊢
      obtain ⟨fuel, rfl⟩ : ∃ k, fuel = k + 1 := ⟨fuel - 1, by omega⟩
      -- An item never starts with the closing bracket, so the first one is not taken for the end.
      obtain ⟨c, cs, hcs, -, hclose⟩ := hv.starts
      rw [l.collection_cons_append]
      refine readValue_of_items (hv.skipBlanks_front l.opening_blank _) (fun tail heq => ?_)
        (readItems_further l h rest (by omega))
      rw [hcs] at heq
      exact hclose (List.cons.inj heq).1

end Collections

theorem readsBack_list {rules : ReadRules} {room : Nat} {vs : List Json}
    (h : ∀ w ∈ vs, ReadsBack rules room w) : ReadsBack rules (room + 1) (.list vs) := by
  rw [ReadsBack, compact_list_eq]
  exact ReadsAs.list Layout.line h

theorem readsAs_indented_list {rules : ReadRules} {room depth : Nat} {vs : List Json}
    (h : ∀ w ∈ vs, ReadsAs rules room (indented (depth + 1) w) w) :
    ReadsAs rules (room + 1) (indented depth (.list vs)) (.list vs) := by
  rw [indented_list_eq]
  exact ReadsAs.list (Layout.lines depth) h

/-! ## Maps -/

theorem pointsOfChars_injective : Function.Injective Text.pointsOfChars :=
  Function.LeftInverse.injective Text.charsOfPoints_pointsOfChars

/-- An entry with its key as code points. -/
def pointEntry (e : String × Json) : List Nat × Json :=
  (Text.pointsOfChars e.1.toList, e.2)

theorem ofPointEntries_map_pointEntry (es : List (String × Json)) :
    ofPointEntries (es.map pointEntry) = .map es := by
  have hchars : (es.map pointEntry).all (fun e => Text.areChars e.1) = true := by
    rw [List.all_map, List.all_eq_true]
    exact fun e _ => Text.areChars_pointsOfChars e.1.toList
  have hback : (es.map pointEntry).map
      (fun e => (String.ofList (Text.charsOfPoints e.1), e.2)) = es := by
    rw [List.map_map]
    refine (List.map_congr_left fun e _ => ?_).trans (List.map_id es)
    change (String.ofList (Text.charsOfPoints (Text.pointsOfChars e.1.toList)), e.2) = e
    rw [Text.charsOfPoints_pointsOfChars, String.ofList_toList]
  unfold ofPointEntries
  rw [if_pos hchars, hback]

theorem insertEntry_of_ne {entries : List (List Nat × Json)} {key : List Nat}
    (h : ∀ e ∈ entries, e.1 ≠ key) (v : Json) :
    insertEntry entries key v = entries ++ [(key, v)] := by
  have hnone : ¬entries.any (·.1 == key) = true := by
    rw [List.any_eq_true]
    rintro ⟨e, he, heq⟩
    exact h e he (by simpa using heq)
  exact if_neg hnone

/-- An entry with a new key is put behind the others. -/
theorem insertEntry_map_pointEntry {done es : List (String × Json)} {k : String} {v : Json}
    (hkeys : ((done ++ (k, v) :: es).map (·.1)).Nodup) :
    insertEntry (done.map pointEntry) (Text.pointsOfChars k.toList) v =
      (done ++ [(k, v)]).map pointEntry := by
  have hnew : ∀ e ∈ done.map pointEntry, e.1 ≠ Text.pointsOfChars k.toList := by
    intro e he heq
    obtain ⟨e, hdone, rfl⟩ := List.mem_map.mp he
    have hkey : e.1 = k := String.toList_injective (pointsOfChars_injective heq)
    rw [List.map_append, List.nodup_append] at hkeys
    exact hkeys.2.2 e.1 (List.mem_map_of_mem hdone) k List.mem_cons_self hkey
  rw [insertEntry_of_ne hnew, List.map_append]
  rfl

section Steps

variable {rules : ReadRules} {fuel room : Nat} {v : Json} {entries : List (List Nat × Json)}
  {cs after rest : List Char}

/-- Behind a written key and its colon, the value of the entry is read. -/
theorem readEntries_quote (key : List Char) :
    readEntries rules (fuel + 1) room entries (quote key ++ ':' :: cs) = (do
      let (v, rest) ← readValue rules fuel room (skipBlanks cs)
      let entries := insertEntry entries (Text.pointsOfChars key) v
      match skipBlanks rest with
      | ',' :: rest => readEntries rules fuel room entries (skipBlanks rest)
      | '\x7d' :: rest => pure (entries, rest)
      | _ => throw ReadError.malformed) := by
  have htext : quote key ++ ':' :: cs = '"' :: (key.flatMap escapeChar ++ '"' :: ':' :: cs) := by
    simp [quote]
  rw [htext, readEntries.eq_2, readText_escaped]
  rfl

theorem readEntries_of_last (key : List Char)
    (h : readValue rules fuel room (skipBlanks cs) = .ok (v, after))
    (hafter : skipBlanks after = '\x7d' :: rest) :
    readEntries rules (fuel + 1) room entries (quote key ++ ':' :: cs) =
      .ok (insertEntry entries (Text.pointsOfChars key) v, rest) := by
  rw [readEntries_quote, h]
  dsimp only [bind, Except.bind]
  rw [hafter]
  rfl

theorem readEntries_of_more (key : List Char)
    (h : readValue rules fuel room (skipBlanks cs) = .ok (v, after))
    (hafter : skipBlanks after = ',' :: rest) :
    readEntries rules (fuel + 1) room entries (quote key ++ ':' :: cs) =
      readEntries rules fuel room (insertEntry entries (Text.pointsOfChars key) v)
        (skipBlanks rest) := by
  rw [readEntries_quote, h]
  dsimp only [bind, Except.bind]
  rw [hafter]
  rfl

theorem readValue_of_entries (hskip : skipBlanks cs = after)
    (hclose : ∀ tail, after ≠ '\x7d' :: tail)
    (h : readEntries rules fuel room [] after = .ok (entries, rest)) :
    readValue rules (fuel + 1) (room + 1) ('\x7b' :: cs) = .ok (ofPointEntries entries, rest) := by
  rw [readValue.eq_8 rules fuel cs room fun tail heq => hclose tail (hskip.symm.trans heq),
    hskip, h]
  rfl

end Steps

section Collections

variable {rules : ReadRules} {room : Nat} {write : Json → List Char} (l : Layout)

theorem entryText_append (write : Json → List Char) (e : String × Json) (rest : List Char) :
    entryText write e ++ rest = quote e.1.toList ++ ':' :: ([' '] ++ (write e.2 ++ rest)) := by
  simp [entryText]

theorem length_entryText (write : Json → List Char) (e : String × Json) :
    (entryText write e).length = (quote e.1.toList).length + (write e.2).length + 2 := by
  simp [entryText]
  omega

/-- The entries of a map with different keys are read back one after the other. -/
theorem readEntries_further {e : String × Json} {es : List (String × Json)}
    (h : ∀ e' ∈ e :: es, ReadsAs rules room (write e'.2) e'.2)
    (done : List (String × Json)) (hkeys : ((done ++ e :: es).map (·.1)).Nodup)
    (rest : List Char) {fuel : Nat}
    (hfuel : (entryText write e).length + (l.further '\x7d' (es.map (entryText write))).length ≤
      fuel) :
    readEntries rules fuel room (done.map pointEntry)
        (entryText write e ++ (l.further '\x7d' (es.map (entryText write)) ++ rest)) =
      .ok ((done ++ e :: es).map pointEntry, rest) := by
  -- the induction is on the entries still to come, with those already read in front
  induction es generalizing e done fuel with
  | nil =>
      have hv := h e List.mem_cons_self
      have hlength := length_entryText write e
      obtain ⟨fuel, rfl⟩ : ∃ m, fuel = m + 1 := ⟨fuel - 1, by omega⟩
      have hvalue := hv.reads fuel _
        (l.endsNumeral_further '\x7d' [] rest (by decide) (by decide)) (by omega)
      rw [← hv.skipBlanks_space] at hvalue
      rw [entryText_append, ← insertEntry_map_pointEntry hkeys]
      refine readEntries_of_last e.1.toList hvalue ?_
      rw [l.further_nil_append, skipBlanks_append l.closing_blank]
      exact skipBlanks_cons (by decide) rest
  | cons e' es ih =>
      have hv := h e List.mem_cons_self
      have hlength := length_entryText write e
      have hlength' := l.length_further_cons '\x7d' (entryText write e') (es.map (entryText write))
      have hkeys' : (((done ++ [e]) ++ e' :: es).map (·.1)).Nodup := by
        rw [List.append_assoc]
        exact hkeys
      have hskip : ∀ tail, skipBlanks (l.between ++ (entryText write e' ++ tail)) =
          entryText write e' ++ tail := fun tail => by
        rw [skipBlanks_append l.between_blank, entryText_append]
        exact skipBlanks_quote _ _
      rw [List.map_cons] at hfuel ⊢
      obtain ⟨fuel, rfl⟩ : ∃ m, fuel = m + 1 := ⟨fuel - 1, by omega⟩
      have hvalue := hv.reads fuel _ (l.endsNumeral_further '\x7d'
        (entryText write e' :: es.map (entryText write)) rest (by decide) (by decide)) (by omega)
      rw [← hv.skipBlanks_space] at hvalue
      rw [entryText_append]
      rw [l.further_cons_append] at hvalue ⊢
      rw [readEntries_of_more e.1.toList hvalue (skipBlanks_cons (by decide) _),
        insertEntry_map_pointEntry hkeys, hskip,
        ih (fun x hx => h x (List.mem_cons_of_mem e hx)) (done ++ [e]) hkeys' (by omega),
        List.append_assoc]
      rfl

theorem ReadsAs.map {es : List (String × Json)}
    (h : ∀ e ∈ es, ReadsAs rules room (write e.2) e.2) (hkeys : (es.map (·.1)).Nodup) :
    ReadsAs rules (room + 1) (l.collection '\x7b' '\x7d' (es.map (entryText write))) (.map es) := by
  cases es with
  | nil =>
      refine ⟨⟨'\x7b', ['\x7d'], rfl, by decide, by decide⟩, fun fuel rest _ hfuel => ?_⟩
      obtain ⟨fuel, rfl⟩ : ∃ k, fuel = k + 1 := ⟨fuel - 1, by simp [Layout.collection] at hfuel; omega⟩
      exact readValue.eq_6 rules fuel ('\x7d' :: rest) (room + 1) rest
        (skipBlanks_cons (by decide) rest)
  | cons e es =>
      refine ⟨⟨'\x7b', _, rfl, by decide, by decide⟩, fun fuel rest _ hfuel => ?_⟩
      have hlength := l.length_collection_cons '\x7d' (entryText write e)
        (es.map (entryText write)) '\x7b'
      rw [List.map_cons] at hfuel ⊢
      obtain ⟨fuel, rfl⟩ : ∃ m, fuel = m + 1 := ⟨fuel - 1, by omega⟩
      have hentries := readEntries_further l h [] hkeys rest
        (show _ ≤ fuel by omega)
      have hskip : ∀ tail, skipBlanks (l.opening ++ (entryText write e ++ tail)) =
          entryText write e ++ tail := fun tail => by
        rw [skipBlanks_append l.opening_blank, entryText_append]
        exact skipBlanks_quote _ _
      -- A key starts with a quote, so the first entry is not taken for the end.
      have hclose : ∀ tail tail', entryText write e ++ tail ≠ '\x7d' :: tail' :=
        fun tail tail' heq => absurd (List.cons.inj heq).1 (by decide)
      rw [l.collection_cons_append, readValue_of_entries (hskip _) (hclose _) hentries]
      exact congrArg (fun w => Except.ok (w, rest)) (ofPointEntries_map_pointEntry (e :: es))

end Collections

theorem readsBack_map {rules : ReadRules} {room : Nat} {es : List (String × Json)}
    (h : ∀ e ∈ es, ReadsBack rules room e.2) (hkeys : (es.map (·.1)).Nodup) :
    ReadsBack rules (room + 1) (.map es) := by
  rw [ReadsBack, compact_map_eq]
  exact ReadsAs.map Layout.line h hkeys

theorem readsAs_indented_map {rules : ReadRules} {room depth : Nat} {es : List (String × Json)}
    (h : ∀ e ∈ es, ReadsAs rules room (indented (depth + 1) e.2) e.2)
    (hkeys : (es.map (·.1)).Nodup) : ReadsAs rules (room + 1) (indented depth (.map es)) (.map es) := by
  rw [indented_map_eq]
  exact ReadsAs.map (Layout.lines depth) h hkeys

/-! ## Whole texts -/

/-- A text that is written for a value is read as the value. -/
theorem ReadsAs.read_eq {rules : ReadRules} {text : List Char} {v : Json}
    (h : ReadsAs rules rules.maxNesting text v) : read rules text = .ok v := by
  have hskip := h.skipBlanks_front (List.nil_subset blanks) []
  have hvalue := h.reads (2 * text.length + 2) [] endsNumeral_nil (by omega)
  rw [List.append_nil] at hskip hvalue
  unfold read
  rw [show skipBlanks text = text from hskip, hvalue]
  rfl

theorem ReadsBack.read_compact {rules : ReadRules} {v : Json}
    (h : ReadsBack rules rules.maxNesting v) : read rules (compact v) = .ok v :=
  ReadsAs.read_eq h

end MarkdownSections.Json
