import Mathlib.Data.Set.Insert
import MarkdownSections.Proofs.Slug.Registry

/-!
# Registries are sets of ids

Seen from outside, a registry is a plain set of taken ids. `SetCall` says what a call does to such a
set: reserving adds an id, asking changes nothing, and claiming adds and hands out the first of the
ids `s`, `s-1`, `s-2`, … that is not in the set. Nothing in it speaks of the numbers that a registry
keeps.

Every run of calls on a new registry gives the answers of the set (`run_behaves_as_set`), the search
of every claim ends (`searchEnds_firstFree`), and no id is handed out that an earlier call reserved
or handed out.
-/

set_option autoImplicit false

namespace MarkdownSections

namespace SlugRegistry

/-! ## Calls -/

/-- A call on a registry. -/
inductive Call where
  | reserve (id : String)
  | claim (slug : String)
  | unique (text : String)
  | contains (id : String)
deriving DecidableEq, Repr

/-- What a call gives back. -/
inductive Answer where
  | done
  | handedOut (id : String)
  | isTaken (taken : Bool)
deriving DecidableEq, Repr

/-- Carries out one call. -/
def perform (r : SlugRegistry) : Call → Answer × SlugRegistry
  | .reserve id => (.done, r.reserve id)
  | .claim slug => (.handedOut (r.claim slug).1, (r.claim slug).2)
  | .unique text => (.handedOut (r.unique text).1, (r.unique text).2)
  | .contains id => (.isTaken (r.contains id), r)

/-- Carries out calls one after the other. -/
def run (r : SlugRegistry) : List Call → List Answer × SlugRegistry
  | [] => ([], r)
  | call :: calls =>
    let (answer, r) := r.perform call
    let (answers, r) := r.run calls
    (answer :: answers, r)

/-- The taken ids of a registry as a set. -/
def takenSet (r : SlugRegistry) : Set String :=
  {id | r.contains id = true}

/-! ## Sets of ids -/

/-- An id is the first of `s`, `s-1`, `s-2`, … that is not in a set. -/
def IsFirstFree (ids : Set String) (slug id : String) : Prop :=
  ∃ n, id = numbered slug n ∧ id ∉ ids ∧ ∀ m < n, numbered slug m ∈ ids

/-- What a call answers on a set of taken ids, and the set that it leaves. -/
inductive SetCall : Set String → Call → Answer → Set String → Prop
  | reserve (ids : Set String) (id : String) : SetCall ids (.reserve id) .done (insert id ids)
  | claim {ids : Set String} {slug id : String} (h : IsFirstFree ids slug id) :
      SetCall ids (.claim slug) (.handedOut id) (insert id ids)
  | unique {ids : Set String} {text id : String} (h : IsFirstFree ids (slugify text) id) :
      SetCall ids (.unique text) (.handedOut id) (insert id ids)
  | contains {ids : Set String} {id : String} {taken : Bool} (h : taken = true ↔ id ∈ ids) :
      SetCall ids (.contains id) (.isTaken taken) ids

/-- What calls answer one after the other, and the set that they leave. -/
inductive SetRun : Set String → List Call → List Answer → Set String → Prop
  | nil (ids : Set String) : SetRun ids [] [] ids
  | cons {ids ids' ids'' : Set String} {call : Call} {answer : Answer} {calls : List Call}
      {answers : List Answer} (hcall : SetCall ids call answer ids')
      (hrun : SetRun ids' calls answers ids'') :
      SetRun ids (call :: calls) (answer :: answers) ids''

/-- Only one id is the first free one. -/
theorem IsFirstFree.eq {ids : Set String} {slug id id' : String} (h : IsFirstFree ids slug id)
    (h' : IsFirstFree ids slug id') : id = id' := by
  obtain ⟨n, rfl, hfree, hbelow⟩ := h
  obtain ⟨n', rfl, hfree', hbelow'⟩ := h'
  rcases Nat.lt_trichotomy n n' with hlt | heq | hgt
  · exact absurd (hbelow' n hlt) hfree
  · rw [heq]
  · exact absurd (hbelow n' hgt) hfree'

/-- The set decides what a call answers and which set it leaves. -/
theorem SetCall.determined {ids ids₁ ids₂ : Set String} {call : Call} {a₁ a₂ : Answer}
    (h₁ : SetCall ids call a₁ ids₁) (h₂ : SetCall ids call a₂ ids₂) : a₁ = a₂ ∧ ids₁ = ids₂ := by
  -- A first free id is the only one, so what a call hands out is fixed by the set.
  cases h₁ with
  | reserve id =>
      cases h₂
      exact ⟨rfl, rfl⟩
  | claim h =>
      cases h₂ with
      | claim h' =>
          rw [h.eq h']
          exact ⟨rfl, rfl⟩
  | unique h =>
      cases h₂ with
      | unique h' =>
          rw [h.eq h']
          exact ⟨rfl, rfl⟩
  | contains h =>
      cases h₂ with
      | contains h' =>
          rw [Bool.eq_iff_iff.mpr (h.trans h'.symm)]
          exact ⟨rfl, rfl⟩

/-- The set decides the answers of a run and the set that it leaves. -/
theorem SetRun.determined {ids ids₁ ids₂ : Set String} {calls : List Call} {as₁ as₂ : List Answer}
    (h₁ : SetRun ids calls as₁ ids₁) (h₂ : SetRun ids calls as₂ ids₂) :
    as₁ = as₂ ∧ ids₁ = ids₂ := by
  induction h₁ generalizing as₂ with
  | nil ids =>
      cases h₂
      exact ⟨rfl, rfl⟩
  | cons hcall hrun ih =>
      cases h₂ with
      | cons hcall' hrun' =>
          obtain ⟨rfl, rfl⟩ := hcall.determined hcall'
          obtain ⟨rfl, rfl⟩ := ih hrun'
          exact ⟨rfl, rfl⟩

/-- A call takes an id: it reserves it or hands it out. -/
def Takes (call : Call) (answer : Answer) (id : String) : Prop :=
  call = .reserve id ∨ answer = .handedOut id

theorem SetCall.subset {ids ids' : Set String} {call : Call} {answer : Answer}
    (h : SetCall ids call answer ids') : ids ⊆ ids' := by
  cases h with
  | reserve id => exact Set.subset_insert id ids
  | claim h => exact Set.subset_insert _ ids
  | unique h => exact Set.subset_insert _ ids
  | contains h => exact Set.Subset.refl ids

/-- What a call takes is in the set that it leaves. -/
theorem SetCall.mem_of_takes {ids ids' : Set String} {call : Call} {answer : Answer} {id : String}
    (h : SetCall ids call answer ids') (htakes : Takes call answer id) : id ∈ ids' := by
  cases h with
  | reserve other =>
      rcases htakes with hcall | hanswer
      · cases hcall
        exact Set.mem_insert id ids
      · cases hanswer
  | claim h =>
      rcases htakes with hcall | hanswer
      · cases hcall
      · cases hanswer
        exact Set.mem_insert id ids
  | unique h =>
      rcases htakes with hcall | hanswer
      · cases hcall
      · cases hanswer
        exact Set.mem_insert id ids
  | contains h =>
      rcases htakes with hcall | hanswer
      · cases hcall
      · cases hanswer

/-- What a call hands out was free. -/
theorem SetCall.notMem_of_handedOut {ids ids' : Set String} {call : Call} {id : String}
    (h : SetCall ids call (.handedOut id) ids') : id ∉ ids := by
  cases h with
  | claim h =>
      obtain ⟨n, -, hfree, -⟩ := h
      exact hfree
  | unique h =>
      obtain ⟨n, -, hfree, -⟩ := h
      exact hfree

/-- No id in the set at the start is handed out during a run. -/
theorem SetRun.handedOut_notMem {ids ids' : Set String} {calls : List Call} {answers : List Answer}
    (h : SetRun ids calls answers ids') {id : String} (hid : id ∈ ids) :
    .handedOut id ∉ answers := by
  induction h with
  | nil ids => simp
  | cons hcall hrun ih =>
      intro hmem
      rcases List.mem_cons.mp hmem with rfl | hmem
      · exact hcall.notMem_of_handedOut hid
      · exact ih (hcall.subset hid) hmem

/-- No id is handed out that an earlier call took. -/
theorem SetRun.pairwise_handedOut {ids ids' : Set String} {calls : List Call}
    {answers : List Answer} (h : SetRun ids calls answers ids') :
    (calls.zip answers).Pairwise fun earlier later =>
      ∀ id, Takes earlier.1 earlier.2 id → later.2 ≠ .handedOut id := by
  induction h with
  | nil ids => exact List.Pairwise.nil
  | cons hcall hrun ih =>
      rw [List.zip_cons_cons, List.pairwise_cons]
      refine ⟨?_, ih⟩
      intro later hlater id htakes heq
      -- the id is in the set from here on
      have hanswer := (List.of_mem_zip hlater).2
      rw [heq] at hanswer
      exact hrun.handedOut_notMem (hcall.mem_of_takes htakes) hanswer

/-! ## The search of a claim -/

/-- The search of a claim without a bound on its candidates: it passes over taken ids and ends at
the first number whose id is free. -/
inductive SearchEnds (taken : List String) (slug : String) : Nat → Nat → Prop
  | free {n : Nat} (h : numbered slug n ∉ taken) : SearchEnds taken slug n n
  | next {n last : Nat} (h : numbered slug n ∈ taken)
      (hrest : SearchEnds taken slug (n + 1) last) : SearchEnds taken slug n last

theorem searchEnds_of_taken (taken : List String) (slug : String) {first last : Nat}
    (hle : first ≤ last) (htaken : ∀ m, first ≤ m → m < last → numbered slug m ∈ taken)
    (hfree : numbered slug last ∉ taken) : SearchEnds taken slug first last := by
  induction hle using Nat.decreasingInduction with
  | self => exact .free hfree
  | of_succ n hn ih =>
      refine .next (htaken n (Nat.le_refl n) hn) (ih fun m hm hlast => ?_)
      exact htaken m (by omega) hlast

theorem le_firstFree (taken : List String) (slug : String) (fuel first : Nat) :
    first ≤ firstFree taken slug fuel first := by
  induction fuel generalizing first with
  | zero => exact Nat.le_refl first
  | succ fuel ih =>
      unfold firstFree
      split
      · exact Nat.le_of_succ_le (ih (first + 1))
      · exact Nat.le_refl first

/-- The search ends whatever ids are taken, and the bounded one ends at the same number. -/
theorem searchEnds_firstFree (taken : List String) (slug : String) (first : Nat) :
    SearchEnds taken slug first (firstFree taken slug taken.length first) :=
  searchEnds_of_taken taken slug (le_firstFree taken slug _ first)
    (fun _ hm hlast => numbered_mem_of_lt_firstFree taken slug _ hm hlast)
    (numbered_firstFree_notMem taken slug first)

/-! ## Registries -/

theorem mem_takenSet (r : SlugRegistry) (id : String) : id ∈ r.takenSet ↔ id ∈ r.taken := by
  simp [takenSet, contains]

theorem takenSet_eq_insert {r r' : SlugRegistry} {id : String} (h : r'.taken = id :: r.taken) :
    r'.takenSet = insert id r.takenSet := by
  ext other
  rw [mem_takenSet, h, List.mem_cons, Set.mem_insert_iff, mem_takenSet]

theorem isFirstFree_freeId (r : SlugRegistry) (slug : String) :
    IsFirstFree r.takenSet slug (freeId r.taken slug) := by
  refine ⟨firstFree r.taken slug r.taken.length 0, rfl, ?_, fun m hm => ?_⟩
  · rw [mem_takenSet]
    exact freeId_notMem r.taken slug
  · rw [mem_takenSet]
    exact numbered_mem_of_lt_firstFree r.taken slug _ (Nat.zero_le m) hm

/-- A call on a sound registry does what it does on the set of its taken ids. -/
theorem setCall_perform {r : SlugRegistry} (hr : r.Sound) (call : Call) :
    SetCall r.takenSet call (r.perform call).1 (r.perform call).2.takenSet := by
  -- Each call is one rule of the set, with the id that is free for the registry.
  cases call with
  | reserve id =>
      have hset : (r.reserve id).takenSet = insert id r.takenSet :=
        takenSet_eq_insert (taken_reserve r id)
      change SetCall r.takenSet (.reserve id) .done (r.reserve id).takenSet
      rw [hset]
      exact .reserve r.takenSet id
  | claim slug =>
      have hset : (r.claim slug).2.takenSet = insert (r.claim slug).1 r.takenSet :=
        takenSet_eq_insert (taken_claim r slug)
      change SetCall r.takenSet (.claim slug) (.handedOut (r.claim slug).1)
        (r.claim slug).2.takenSet
      rw [hset, claim_fst hr slug]
      exact .claim (isFirstFree_freeId r slug)
  | unique text =>
      obtain ⟨hid, htaken, -⟩ := unique_spec hr text
      change SetCall r.takenSet (.unique text) (.handedOut (r.unique text).1)
        (r.unique text).2.takenSet
      rw [takenSet_eq_insert htaken, hid]
      exact .unique (isFirstFree_freeId r (slugify text))
  | contains id => exact .contains Iff.rfl

theorem sound_perform {r : SlugRegistry} (hr : r.Sound) (call : Call) :
    (r.perform call).2.Sound := by
  cases call with
  | reserve id => exact sound_reserve hr id
  | claim slug => exact sound_claim hr slug
  | unique text => exact sound_claim hr (slugify text)
  | contains id => exact hr

/-- A run on a sound registry is a run on the set of its taken ids. -/
theorem setRun_run {r : SlugRegistry} (hr : r.Sound) (calls : List Call) :
    SetRun r.takenSet calls (r.run calls).1 (r.run calls).2.takenSet := by
  induction calls generalizing r with
  | nil => exact .nil r.takenSet
  | cons call calls ih => exact .cons (setCall_perform hr call) (ih (sound_perform hr call))

theorem takenSet_empty : takenSet empty = ∅ := by
  ext id
  simp [mem_takenSet, empty]

/-- **Registries are sets.** On a new registry, calls in any order answer what they answer on an
empty set of ids, and leave the same ids taken. The search of a further claim ends, and the claim
hands out the id that it ends at. An id that a call reserves or hands out is handed out by no later
call. -/
theorem run_behaves_as_set (calls : List Call) :
    (∀ answers ids, SetRun ∅ calls answers ids ↔
      answers = (empty.run calls).1 ∧ ids = (empty.run calls).2.takenSet) ∧
      (∀ slug, ∃ n,
        SearchEnds (empty.run calls).2.taken slug ((empty.run calls).2.nextNumber slug) n ∧
          ((empty.run calls).2.claim slug).1 = numbered slug n) ∧
      (calls.zip (empty.run calls).1).Pairwise fun earlier later =>
        ∀ id, Takes earlier.1 earlier.2 id → later.2 ≠ .handedOut id := by
  have hrun : SetRun ∅ calls (empty.run calls).1 (empty.run calls).2.takenSet := by
    rw [← takenSet_empty]
    exact setRun_run sound_empty calls
  refine ⟨fun answers ids => ⟨fun h => h.determined hrun, ?_⟩, fun slug => ?_,
    hrun.pairwise_handedOut⟩
  · rintro ⟨rfl, rfl⟩
    exact hrun
  · exact ⟨_, searchEnds_firstFree _ slug _, rfl⟩

/-- A literal id that looks like a numbered one is passed over, also when it is reserved late. -/
example :
    (empty.run [.claim "a-1", .unique "A", .unique "a", .reserve "a-3", .claim "a", .claim "a-1",
      .contains "a-3"]).1 =
      [.handedOut "a-1", .handedOut "a", .handedOut "a-2", .done, .handedOut "a-4",
        .handedOut "a-1-1", .isTaken true] := by
  decide +kernel

end SlugRegistry

end MarkdownSections
