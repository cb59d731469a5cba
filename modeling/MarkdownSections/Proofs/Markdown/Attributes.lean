import MarkdownSections.Document.Parse
import MarkdownSections.Json.Literal

/-!
# Attributes of running text

Every attribute of a token of running text can be written (`Inline.writable_pieces`): only links and
images have any, and they are texts. Each step of reading passes the property on. A step adds pieces
that have it (`Progress.Writable`), and resolving the marks among pieces moves them and puts in
tokens without attributes (`writable_resolve`).
-/

set_option autoImplicit false

namespace MarkdownSections

/-- A value can be written as a text: no number in it is too long, and it is no text with lone halves
of surrogate pairs. -/
structure Json.Writable (v : Json) : Prop where
  isWritable : v.isWritable = true
  notBroken : v.isBrokenText = false

theorem Json.writable_text (s : String) : Json.Writable (.text s) :=
  ⟨rfl, rfl⟩

theorem Json.writable_int {i : Int} (h : Text.isWritable i = true) : Json.Writable (.int i) :=
  ⟨h, rfl⟩

namespace Markdown

/-- Every attribute of a token can be written, and so can those of the tokens that it holds. -/
inductive Token.Writable : Token → Prop
  | intro {t : Token} (attributes : ∀ a ∈ t.attributes, a.2.Writable)
      (children : ∀ c ∈ t.children, Token.Writable c) : Token.Writable t

/-- All tokens of a list have attributes that can be written. -/
def AllWritable (ts : List Token) : Prop :=
  ∀ t ∈ ts, t.Writable

/-- What a token is apart from its attributes and its tokens does not matter. -/
theorem Token.Writable.congr {t t' : Token} (h : t.Writable)
    (hattributes : t'.attributes = t.attributes) (hchildren : t'.children = t.children) :
    t'.Writable := by
  cases h with
  | intro hvalues hinside =>
      constructor
      · rw [hattributes]
        exact hvalues
      · rw [hchildren]
        exact hinside

theorem Token.Writable.attributes {t : Token} (h : t.Writable) :
    ∀ a ∈ t.attributes, a.2.Writable := by
  cases h with
  | intro hvalues _ => exact hvalues

theorem Token.Writable.inside {t : Token} (h : t.Writable) : ∀ c ∈ t.children, c.Writable := by
  cases h with
  | intro _ hinside => exact hinside

/-- A token that holds other tokens than before. -/
theorem Token.Writable.withChildren {t : Token} (h : t.Writable) {ts : List Token}
    (hts : ∀ c ∈ ts, c.Writable) : Token.Writable { t with children := ts } := by
  cases h with
  | intro hvalues _ => exact intro hvalues hts

theorem writable_of_nil {t : Token} (hattributes : t.attributes = []) (hchildren : t.children = []) :
    t.Writable := by
  constructor
  · rw [hattributes]
    exact List.forall_mem_nil _
  · rw [hchildren]
    exact List.forall_mem_nil _

section Lists

variable {t : Token} {ts ts' : List Token}

theorem allWritable_nil : AllWritable [] :=
  List.forall_mem_nil _

theorem AllWritable.cons (ht : t.Writable) (hts : AllWritable ts) : AllWritable (t :: ts) :=
  List.forall_mem_cons.mpr ⟨ht, hts⟩

theorem AllWritable.append (h : AllWritable ts) (h' : AllWritable ts') : AllWritable (ts ++ ts') :=
  List.forall_mem_append.mpr ⟨h, h'⟩

theorem allWritable_single (hattributes : t.attributes = []) (hchildren : t.children = []) :
    AllWritable [t] :=
  allWritable_nil.cons (writable_of_nil hattributes hchildren)

end Lists

/-! ## Running text -/

namespace Inline

/-- All pieces of a running text have attributes that can be written. -/
def PiecesWritable (pieces : Array (List Token)) : Prop :=
  ∀ piece ∈ pieces, AllWritable piece

section Pieces

variable {pieces : Array (List Token)} {piece : List Token}

theorem PiecesWritable.set (h : PiecesWritable pieces) (i : Nat) (hpiece : AllWritable piece) :
    PiecesWritable (pieces.setIfInBounds i piece) := by
  intro found hfound
  rcases Array.mem_or_eq_of_mem_setIfInBounds hfound with hmem | rfl
  · exact h found hmem
  · exact hpiece

theorem PiecesWritable.push (h : PiecesWritable pieces) (hpiece : AllWritable piece) :
    PiecesWritable (pieces.push piece) := by
  intro found hfound
  rcases Array.mem_push.mp hfound with hmem | rfl
  · exact h found hmem
  · exact hpiece

theorem PiecesWritable.getD (h : PiecesWritable pieces) (i : Nat) :
    AllWritable (pieces.getD i []) := by
  rw [Array.getD_eq_getD_getElem?]
  cases hfound : pieces[i]? with
  | none => exact allWritable_nil
  | some found => exact h found (Array.mem_of_getElem? hfound)

end Pieces

/-! ### Marks -/

theorem writable_strikePair (marks : Array Mark) {state : Array (List Token) × List Nat}
    (h : PiecesWritable state.1) (m : Mark) : PiecesWritable (strikePair marks state m).1 := by
  unfold strikePair
  split
  · simp only
    split
    · exact h
    · exact (h.set _ (allWritable_single rfl rfl)).set _ (allWritable_single rfl rfl)
  · exact h

theorem writable_moveLone {pieces : Array (List Token)} (h : PiecesWritable pieces) (i : Nat) :
    PiecesWritable (moveLone pieces i) :=
  (h.set _ (h.getD _)).set _ (h.getD _)

theorem writable_strike (marks : Array Mark) {pieces : Array (List Token)}
    (h : PiecesWritable pieces) : PiecesWritable (strike marks pieces) := by
  have hpairs : PiecesWritable (marks.foldl (strikePair marks) (pieces, [])).1 :=
    Array.foldl_induction (fun _ (state : Array (List Token) × List Nat) => PiecesWritable state.1)
      h fun i state hstate => writable_strikePair marks hstate marks[i]
  exact List.foldlRecOn _ moveLone hpairs fun pieces hpieces i _ => writable_moveLone hpieces i

/-- Emphasis puts in tokens without attributes, and no others. -/
theorem writable_emphasize (marks : Array Mark) (fuel i : Nat) {pieces : Array (List Token)}
    (h : PiecesWritable pieces) : PiecesWritable (emphasize marks fuel i pieces) := by
  induction fuel generalizing i pieces with
  | zero => exact h
  | succ fuel ih =>
      cases i with
      | zero => exact h
      | succ i =>
          rw [emphasize]
          split
          · simp only
            have hspan : ∀ (name : String) (first last : Nat), PiecesWritable
                ((pieces.setIfInBounds first (spanToken name name true)).setIfInBounds last
                  (spanToken name name false)) := fun _ _ _ =>
              (h.set _ (allWritable_single rfl rfl)).set _ (allWritable_single rfl rfl)
            split
            · exact ih _ (((hspan _ _ _).set _ (allWritable_single rfl rfl)).set _
                (allWritable_single rfl rfl))
            · exact ih _ (hspan _ _ _)
          · exact ih i h

theorem AllWritable.mergeTexts {ts : List Token} (h : AllWritable ts) :
    AllWritable (mergeTexts ts) := by
  induction ts with
  | nil => exact allWritable_nil
  | cons t ts ih =>
      obtain ⟨ht, hts⟩ := List.forall_mem_cons.mp h
      have hrest := ih hts
      rw [Inline.mergeTexts]
      split
      · next next rest hmerged =>
          rw [hmerged] at hrest
          obtain ⟨hnext, hbehind⟩ := List.forall_mem_cons.mp hrest
          split
          · exact AllWritable.cons (hnext.congr rfl rfl) hbehind
          · exact AllWritable.cons ht hrest
      · exact AllWritable.cons ht allWritable_nil

theorem writable_resolve {pieces : Array (List Token)} (h : PiecesWritable pieces)
    (marks : Array Mark) : AllWritable (resolve pieces marks) := by
  have hpieces := writable_emphasize (matchMarks marks) (matchMarks marks).size
    (matchMarks marks).size (writable_strike (matchMarks marks) h)
  apply AllWritable.mergeTexts
  intro t ht
  obtain ⟨piece, hpiece, hmem⟩ := List.mem_flatten.mp ht
  exact hpieces piece (Array.mem_toList_iff.mp hpiece) t hmem

/-! ### Constructs -/

/-- The pieces that are read so far have attributes that can be written. -/
def Progress.Writable (p : Progress) : Prop :=
  PiecesWritable p.pieces

namespace Progress

variable {p : Progress}

theorem Writable.flush (h : p.Writable) : p.flush.Writable := by
  unfold Progress.flush
  split
  · exact h
  · exact PiecesWritable.push h (allWritable_single rfl rfl)

theorem Writable.push (h : p.Writable) {piece : List Token} (hpiece : AllWritable piece)
    (next : Nat) : (p.push piece next).Writable :=
  PiecesWritable.push h.flush hpiece

end Progress

theorem writable_targetAttributes {entries : List (String × Json)}
    (h : ∀ a ∈ entries, a.2.Writable) (title : List Char) :
    ∀ a ∈ targetAttributes entries title, a.2.Writable := by
  unfold targetAttributes
  split
  · exact h
  · exact List.forall_mem_append.mpr ⟨h, List.forall_mem_singleton.mpr (Json.writable_text _)⟩

theorem writable_linkTokens (destination title : List Char) {inside : List Token}
    (h : AllWritable inside) : AllWritable (linkTokens destination title inside) := by
  have hopen : ∀ a ∈ targetAttributes [("href", .text (String.ofList destination))] title,
      a.2.Writable :=
    writable_targetAttributes (List.forall_mem_singleton.mpr (Json.writable_text _)) title
  exact AllWritable.cons ⟨hopen, List.forall_mem_nil _⟩ (h.append (allWritable_single rfl rfl))

theorem writable_imageToken (destination title label : List Char) {inside : List Token}
    (h : AllWritable inside) : AllWritable (imageToken destination title label inside) := by
  have hattributes : ∀ a ∈ targetAttributes
      [("src", .text (String.ofList destination)), ("alt", .text "")] title,
      a.2.Writable :=
    writable_targetAttributes
      (List.forall_mem_cons.mpr
        ⟨Json.writable_text _, List.forall_mem_singleton.mpr (Json.writable_text _)⟩) title
  exact AllWritable.cons ⟨hattributes, h⟩ allWritable_nil

section Steps

variable {p : Progress} (h : p.Writable)

include h

theorem writable_readLineEnd (next : Nat) : (readLineEnd p next).Writable := by
  have htext : Progress.Writable { p with pending := p.pending.dropWhile (· = ' ') } := h
  unfold readLineEnd
  simp only
  split
  · exact htext.push (allWritable_single rfl rfl) next
  · exact htext.push (allWritable_single rfl rfl) next

theorem writable_readEscape (s : Source) (next : Nat) : (readEscape s p next).Writable := by
  unfold readEscape
  simp only
  split
  · exact h.push (allWritable_single rfl rfl) next
  · exact h.push (allWritable_single rfl rfl) next

theorem writable_readCode (s : Source) (start : Nat) (closing : Option Nat) (next : Nat) :
    (readCode s p start closing next).Writable := by
  unfold readCode
  split
  · exact h.push (allWritable_single rfl rfl) next
  · exact h

theorem writable_readMarks (s : Source) (stop : Nat) : (readMarks s p stop).Writable := by
  unfold readMarks
  simp only
  -- the marks are pieces of text, one behind the other
  refine List.foldlRecOn (motive := Progress.Writable) _ _ ?_ fun q hq _ _ => ?_
  · split
    · exact h
    · exact h.push (allWritable_single rfl rfl) p.place
  · exact hq.flush.push (allWritable_single rfl rfl) q.flush.place

/-- Links and images pass on what the readers of their contents give. -/
theorem writable_readBracketed {inner : Inner} (hlink : ∀ start stop skips,
    AllWritable (inner.link start stop skips).1) (himage : ∀ label, AllWritable (inner.image label))
    (s : Source) (room stop : Nat) : (readBracketed inner s room p stop).Writable := by
  have hskips : ∀ skips, Progress.Writable { p with skips } := fun _ => h
  unfold readBracketed
  simp only
  split
  · next found skips _ =>
      exact Progress.Writable.push (p := { (Progress.flush { p with skips }) with
          skips := (inner.link found.labelStart found.labelEnd _).2 }) (hskips skips).flush
        (writable_linkTokens _ _ (hlink _ _ _)) _
  · split
    · exact (hskips _).push (writable_imageToken _ _ _ (himage _)) _
    · split
      · exact (hskips _).push (writable_linkTokens _ _ (allWritable_single rfl rfl)) _
      · split
        · exact (hskips _).push (allWritable_single rfl rfl) _
        · split
          · exact (hskips _).push (allWritable_single rfl rfl) _
          · exact h

theorem writable_readConstruct {inner : Inner} (hlink : ∀ start stop skips,
    AllWritable (inner.link start stop skips).1) (himage : ∀ label, AllWritable (inner.image label))
    (s : Source) (room stop : Nat) : (readConstruct inner s room p stop).Writable := by
  unfold readConstruct
  split
  · exact h
  · split
    · exact h
    · split
      · exact writable_readLineEnd h _
      · split
        · exact writable_readEscape h s _
        · split
          · exact writable_readCode h s _ _ _
          · split
            · exact writable_readMarks h s stop
            · exact writable_readBracketed h hlink himage s room stop

end Steps

theorem writable_readConstructs {inner : Inner} (hlink : ∀ start stop skips,
    AllWritable (inner.link start stop skips).1) (himage : ∀ label, AllWritable (inner.image label))
    (s : Source) (room stop fuel : Nat) {p : Progress} (h : p.Writable) :
    (readConstructs inner s room stop fuel p).Writable := by
  induction fuel generalizing p with
  | zero => exact h
  | succ fuel ih =>
      unfold readConstructs
      split
      · exact h
      · split
        · exact ih h
        · exact ih (writable_readConstruct h hlink himage s room stop)

/-- The tokens of a part of a text have attributes that can be written, however deep links and images
may stand in it. -/
theorem writable_tokensBetween (s : Source) (depth room start stop : Nat) (skips : Skips) :
    AllWritable (tokensBetween s depth room start stop skips).1 := by
  -- the contents of links and images are read with less depth, those of images in another text
  induction depth generalizing s room start stop skips with
  | zero => exact allWritable_single rfl rfl
  | succ depth ih =>
      rw [tokensBetween]
      apply writable_resolve
      apply Progress.Writable.flush
      apply writable_readConstructs
      · exact fun start stop skips => ih s _ start stop skips
      · exact fun label => ih _ _ _ _ _
      · exact fun piece hpiece => absurd hpiece (Array.not_mem_empty piece)

theorem AllWritable.joinTexts {ts : List Token} (h : AllWritable ts) :
    AllWritable (joinTexts ts) := by
  apply AllWritable.mergeTexts
  intro t ht
  obtain ⟨t', ht', rfl⟩ := List.mem_map.mp ht
  split
  · exact (h t' ht').congr rfl rfl
  · exact h t' ht'

/-- The tokens of a running text have attributes that can be written. -/
theorem writable_pieces (preset : Preset) (definitions : List Definition) (cs : List Char) :
    AllWritable (pieces preset definitions cs) := by
  apply AllWritable.joinTexts
  intro t ht
  obtain ⟨t', ht', rfl⟩ := List.mem_map.mp ht
  have hread : t'.Writable := writable_tokensBetween _ _ _ _ _ _ t' ht'
  split
  · exact hread.withChildren (AllWritable.joinTexts hread.inside)
  · exact hread

end Inline

end Markdown

end MarkdownSections
