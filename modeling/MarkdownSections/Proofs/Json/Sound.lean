import Mathlib.Data.List.Nodup
import Mathlib.Data.List.TakeWhile
import MarkdownSections.Proofs.Json.Derivation
import MarkdownSections.Proofs.Json.Scalar

/-!
# What a data file gives

Whatever a reader gives has whole numbers of a length that is written again, and maps with every
key once (`sound_of_read`). This is followed along the derivation of what is read: a numeral that is
too long is refused, and an entry is put under a key that is known instead of behind it
(`nodup_insertEntry`).
-/

set_option autoImplicit false

namespace MarkdownSections

/-! ## Entries -/

namespace Json

section Entries

variable {κ β : Type} [BEq κ] [LawfulBEq κ] {entries : List (κ × β)} {key : κ} {value : β}

omit [LawfulBEq κ] in
theorem mem_insertEntry {e : κ × β} (h : e ∈ insertEntry entries key value) :
    e ∈ entries ∨ e = (key, value) := by
  unfold insertEntry at h
  split at h
  · obtain ⟨e', he', heq⟩ := List.mem_map.mp h
    split at heq
    · exact Or.inr heq.symm
    · exact Or.inl (heq ▸ he')
  · rcases List.mem_append.mp h with h | h
    · exact Or.inl h
    · exact Or.inr (List.mem_singleton.mp h)

/-- Putting an entry keeps every key once. -/
theorem nodup_insertEntry (h : (entries.map (·.1)).Nodup) :
    ((insertEntry entries key value).map (·.1)).Nodup := by
  unfold insertEntry
  split
  · -- the known key keeps its place, so the keys are the same
    have hkeys : (entries.map fun e => if e.1 == key then (key, value) else e).map (·.1) =
        entries.map (·.1) := by
      rw [List.map_map]
      refine List.map_congr_left fun e _ => ?_
      change (if e.1 == key then (key, value) else e).1 = e.1
      split
      · next heq => exact (beq_iff_eq.mp heq).symm
      · rfl
    rw [hkeys]
    exact h
  · next hnew =>
      rw [List.map_append, List.nodup_append]
      refine ⟨h, List.nodup_singleton _, fun k hk k' hk' heq => hnew ?_⟩
      obtain ⟨e, he, rfl⟩ := List.mem_map.mp hk
      have hkey : e.1 = key := heq.trans (List.mem_singleton.mp hk')
      exact List.any_eq_true.mpr ⟨e, he, beq_iff_eq.mpr hkey⟩

end Entries

/-! ## Sound values -/

/-- A value with no whole number that is too long to be written, and with every key of a map
once. -/
inductive Sound : Json → Prop where
  | null : Sound .null
  | bool (b : Bool) : Sound (.bool b)
  | int {i : Int} (writable : Text.isWritable i = true) : Sound (.int i)
  | float (x : Binary64) : Sound (.float x)
  | text (s : String) : Sound (.text s)
  | brokenText (points : List Nat) : Sound (.brokenText points)
  | list {vs : List Json} (items : ∀ v ∈ vs, Sound v) : Sound (.list vs)
  | map {es : List (String × Json)} (keys : (es.map (·.1)).Nodup) (values : ∀ e ∈ es, Sound e.2) :
    Sound (.map es)
  | brokenMap {es : List (List Nat × Json)} (keys : (es.map (·.1)).Nodup)
    (values : ∀ e ∈ es, Sound e.2) : Sound (.brokenMap es)

theorem forall_sound_insertEntry {es : List (List Nat × Json)} {key : List Nat} {v : Json}
    (hes : ∀ e ∈ es, Sound e.2) (hv : Sound v) : ∀ e ∈ insertEntry es key v, Sound e.2 := by
  intro e he
  rcases mem_insertEntry he with he | rfl
  · exact hes e he
  · exact hv

theorem sound_ofPoints (points : List Nat) : Sound (ofPoints points) := by
  unfold ofPoints
  split
  · exact Sound.text _
  · exact Sound.brokenText points

theorem pointsOfChars_charsOfPoints {points : List Nat} (h : Text.areChars points = true) :
    Text.pointsOfChars (Text.charsOfPoints points) = points := by
  unfold Text.areChars at h
  rw [List.all_eq_true] at h
  unfold Text.pointsOfChars Text.charsOfPoints
  rw [List.map_map]
  refine (List.map_congr_left fun n hn => ?_).trans (List.map_id points)
  have hvalid : n.isValidChar := of_decide_eq_true (h n hn)
  change (if n.isValidChar then Char.ofNat n else Char.ofNat 0xFFFD).toNat = n
  rw [if_pos hvalid, Char.ofNat, dif_pos hvalid]
  rfl

theorem sound_ofPointEntries {es : List (List Nat × Json)} (hkeys : (es.map (·.1)).Nodup)
    (hvalues : ∀ e ∈ es, Sound e.2) : Sound (ofPointEntries es) := by
  unfold ofPointEntries
  split
  · next hchars =>
      rw [List.all_eq_true] at hchars
      refine Sound.map ?_ fun e he => ?_
      · -- keys of characters differ as their code points do
        refine List.Nodup.of_map (fun s : String => Text.pointsOfChars s.toList) ?_
        have hpoints : ((es.map fun e => (String.ofList (Text.charsOfPoints e.1), e.2)).map
            (·.1)).map (fun s : String => Text.pointsOfChars s.toList) = es.map (·.1) := by
          rw [List.map_map, List.map_map]
          refine List.map_congr_left fun e he => ?_
          change Text.pointsOfChars (String.ofList (Text.charsOfPoints e.1)).toList = e.1
          rw [String.toList_ofList, pointsOfChars_charsOfPoints (hchars e he)]
        rw [hpoints]
        exact hkeys
      · obtain ⟨e', he', rfl⟩ := List.mem_map.mp he
        exact hvalues e' he'
  · exact Sound.brokenMap hkeys hvalues

/-! ## Numbers and words -/

theorem isDigit_of_spanDigits {cs ds rest : List Char} (h : spanDigits cs = (ds, rest)) :
    ∀ c ∈ ds, c.isDigit = true := by
  cases h
  exact fun c hc => List.mem_takeWhile_imp hc

theorem digitsValue_eq_ofDigits (ds : List Char) :
    digitsValue ds = Text.ofDigits (ds.map fun c => c.toNat - 48) := by
  unfold digitsValue Text.ofDigits
  rw [List.foldl_map]

theorem sound_of_readNumeral {rules : ReadRules} {negative : Bool} {cs rest : List Char} {v : Json}
    (h : readNumeral rules negative cs = .ok (v, rest)) : Sound v := by
  unfold readNumeral at h
  split at h
  next whole middle hwhole =>
    -- The whole part is a zero or a run of digits; the limit on their number makes it writable.
    have hdigits : ∀ c ∈ whole, c.isDigit = true := by
      split at hwhole
      · cases hwhole
        exact List.forall_mem_singleton.mpr rfl
      · exact isDigit_of_spanDigits hwhole
    split at h
    · cases h
    · split at h
      split at h
      dsimp only at h
      split at h
      · cases h
      · next hlong =>
          split at h
          · next hinteger =>
              cases h
              have hlength : whole.length ≤ Text.maxDigits := by simpa [hinteger] using hlong
              refine Sound.int ?_
              rw [digitsValue_eq_ofDigits]
              exact Text.isWritable_ofDigits hdigits hlength negative
          · cases h
            exact Sound.float _

theorem sound_of_readScalar {rules : ReadRules} {cs rest : List Char} {v : Json}
    (h : readScalar rules cs = .ok (v, rest)) : Sound v := by
  unfold readScalar at h
  split at h
  · cases h
    exact Sound.null
  · cases h
    exact Sound.bool true
  · cases h
    exact Sound.bool false
  · cases h
    exact Sound.float _
  · cases h
    exact Sound.float _
  · cases h
    exact Sound.float _
  · exact sound_of_readNumeral h
  · exact sound_of_readNumeral h

/-! ## Values -/

section Derivations

variable {rules : ReadRules}

mutual

theorem ValueAt.sound {room : Nat} {cs rest : List Char} {v : Json} :
    ValueAt rules room cs v rest → Sound v
  | .text _ => sound_ofPoints _
  | .emptyList _ => .list (List.forall_mem_nil _)
  | .list hitems => .list hitems.sound
  | .emptyMap _ => .map List.nodup_nil (List.forall_mem_nil _)
  | .map hentries =>
    -- a map starts out without entries
    have hnone : (([] : List (List Nat × Json)).map (·.1)).Nodup := List.nodup_nil
    have hsound := hentries.sound hnone (List.forall_mem_nil _)
    sound_ofPointEntries hsound.1 hsound.2
  | .scalar hread => sound_of_readScalar hread

theorem ItemsAt.sound {room : Nat} {cs rest : List Char} {vs : List Json} :
    ItemsAt rules room cs vs rest → ∀ v ∈ vs, Sound v
  | .last hvalue _ => List.forall_mem_singleton.mpr hvalue.sound
  | .more hvalue _ hitems => List.forall_mem_cons.mpr ⟨hvalue.sound, hitems.sound⟩

theorem EntryAt.sound {room : Nat} {cs rest : List Char} {key : List Nat} {v : Json} :
    EntryAt rules room cs key v rest → Sound v
  | .pair _ _ hvalue => hvalue.sound

/-- Entries are put in one by one, and none of them doubles a key. -/
theorem EntriesAt.sound {room : Nat} {cs rest : List Char} {done es : List (List Nat × Json)}
    (hkeys : (done.map (·.1)).Nodup) (hvalues : ∀ e ∈ done, Sound e.2) :
    EntriesAt rules room done cs es rest → (es.map (·.1)).Nodup ∧ ∀ e ∈ es, Sound e.2
  | .last hentry _ => ⟨nodup_insertEntry hkeys, forall_sound_insertEntry hvalues hentry.sound⟩
  | .more hentry _ hentries =>
    hentries.sound (nodup_insertEntry hkeys) (forall_sound_insertEntry hvalues hentry.sound)

end

end Derivations

/-- A text is read as a sound value. -/
theorem sound_of_read {rules : ReadRules} {cs : List Char} {v : Json}
    (h : read rules cs = .ok v) : Sound v := by
  obtain ⟨rest, hvalue, -⟩ := exists_valueAt_of_read h
  exact hvalue.sound

end Json

end MarkdownSections
