import MarkdownSections.Document.File
import MarkdownSections.Proofs.Text.Blank

/-!
# Paths and the documents under them

A path whose names are proper, neither empty nor a single dot and without slashes, is read back from
its text (`Path.ofText_toText`). In a file tree the names of a directory are proper and different, so
no document is found twice under a path (`Files.documentPaths_spec`).
-/

set_option autoImplicit false

namespace MarkdownSections

namespace Path

/-! ## Texts of paths -/

/-- A text that can be the name of an entry. -/
def isName (name : String) : Bool :=
  name != "" && name != "." && !name.toList.contains '/'

/-- All names of a path can be names of entries. -/
def IsProper (p : Path) : Prop :=
  ∀ name ∈ p.names, isName name = true

theorem of_isName {name : String} (h : isName name = true) :
    name ≠ "" ∧ name ≠ "." ∧ '/' ∉ name.toList := by
  simpa [isName, and_assoc] using h

/-- The names of a text are proper. -/
theorem isProper_ofText (s : String) : (ofText s).IsProper := by
  intro name hmem
  obtain ⟨hname, hkept⟩ := List.mem_filter.mp hmem
  obtain ⟨piece, hpiece, rfl⟩ := List.mem_map.mp hname
  have hslash : '/' ∉ piece := fun h => by simpa using Text.notMem_of_mem_splitWhen hpiece '/' h
  rw [isName, hkept, String.toList_ofList]
  simpa using hslash

theorem isProper_child {p : Path} (hp : p.IsProper) {name : String} (hname : isName name = true) :
    (p.child name).IsProper := by
  intro n hn
  rcases List.mem_append.mp hn with hn | hn
  · exact hp n hn
  · rw [List.mem_singleton.mp hn]
    exact hname

/-- Names joined by slashes are split there again, and do not start with one. -/
theorem joined_spec {names : List String} (hne : names ≠ [])
    (h : ∀ name ∈ names, isName name = true) :
    (Text.splitWhen (· == '/') ("/".intercalate names).toList).map String.ofList = names ∧
      ∃ c rest, ("/".intercalate names).toList = c :: rest ∧ c ≠ '/' := by
  have hslash : ∀ piece ∈ names.map String.toList, '/' ∉ piece := by
    intro piece hpiece
    obtain ⟨name, hmem, rfl⟩ := List.mem_map.mp hpiece
    exact (of_isName (h name hmem)).2.2
  -- names hold no slash, so splitting at slashes gives them back
  have htext : ("/".intercalate names).toList = ['/'].intercalate (names.map String.toList) :=
    String.toList_intercalate
  rw [htext]
  constructor
  · rw [Text.splitWhen_intercalate (by simpa using hne) hslash, List.map_map]
    simp [Function.comp_def]
  · obtain ⟨name, names, rfl⟩ := List.exists_cons_of_ne_nil hne
    obtain ⟨hname, -, -⟩ := of_isName (h name List.mem_cons_self)
    obtain ⟨c, cs, hcs⟩ := List.exists_cons_of_ne_nil (mt String.toList_eq_nil_iff.mp hname)
    have hc : c ≠ '/' := fun heq => hslash name.toList List.mem_cons_self (by simp [hcs, heq])
    cases names with
    | nil => exact ⟨c, cs, by simp [hcs], hc⟩
    | cons next names => exact ⟨c, _, by rw [List.map_cons, List.map_cons,
        List.intercalate_cons_cons, hcs]; rfl, hc⟩

theorem rootOf_rootText (root : PathRoot) {c : Char} (hc : c ≠ '/') (rest : List Char) :
    rootOf ((rootText root).toList ++ c :: rest) = root := by
  cases root with
  | current => simp [rootText, rootOf, hc]
  | top => simp [rootText, rootOf, hc]
  | apart => simp [rootText, rootOf, hc]

/-- The slashes of a root stand behind empty names. -/
theorem filter_splitWhen_rootText (root : PathRoot) (cs : List Char) :
    ((Text.splitWhen (· == '/') ((rootText root).toList ++ cs)).map String.ofList).filter
        (fun n => n != "" && n != ".") =
      ((Text.splitWhen (· == '/') cs).map String.ofList).filter
        (fun n => n != "" && n != ".") := by
  cases root with
  | current => rfl
  | top => rfl
  | apart => rfl

/-- A proper path is the one that its text spells. -/
theorem ofText_toText {p : Path} (hp : p.IsProper) : ofText p.toText = p := by
  obtain ⟨root, names⟩ := p
  -- a path without names is written as its root alone
  by_cases hnil : names = []
  · subst hnil
    cases root with
    | current => rfl
    | top => rfl
    | apart => rfl
  · obtain ⟨hsplit, c, rest, hjoined, hc⟩ := joined_spec hnil hp
    have htext : (toText { root, names }).toList =
        (rootText root).toList ++ ("/".intercalate names).toList := by
      unfold toText
      rw [if_neg (by simp [hnil]), String.toList_append]
    have hkept : names.filter (fun n => n != "" && n != ".") = names := by
      rw [List.filter_eq_self]
      intro name hmem
      obtain ⟨hne, hdot, -⟩ := of_isName (hp name hmem)
      simp [hne, hdot]
    unfold ofText
    simp only [htext, filter_splitWhen_rootText, hsplit, hkept]
    rw [hjoined, rootOf_rootText root hc]

theorem toText_injective {p q : Path} (hp : p.IsProper) (hq : q.IsProper)
    (h : p.toText = q.toText) : p = q := by
  rw [← ofText_toText hp, h, ofText_toText hq]

end Path

/-! ## File trees -/

namespace FileTree

mutual

/-- Whether the entries of every directory of a tree have names, and these are different. -/
def isWellNamed : FileTree → Bool
  | .file _ => true
  | .directory entries => entriesAreWellNamed entries

/-- Whether entries of a directory, and those in them, have different names. -/
def entriesAreWellNamed : List (String × FileTree) → Bool
  | [] => true
  | (name, t) :: rest =>
    Path.isName name && !(rest.map (·.1)).contains name && t.isWellNamed
      && entriesAreWellNamed rest

end

/-- What well-named entries are, one by one. -/
theorem entriesAreWellNamed_cons {name : String} {t : FileTree} {rest : List (String × FileTree)}
    (h : entriesAreWellNamed ((name, t) :: rest) = true) :
    Path.isName name = true ∧ name ∉ rest.map (·.1) ∧ t.isWellNamed = true ∧
      entriesAreWellNamed rest = true := by
  rw [entriesAreWellNamed] at h
  simpa only [Bool.and_eq_true, Bool.not_eq_true', List.contains_eq_mem, decide_eq_false_iff_not,
    and_assoc] using h

/-- The trees in a well-named tree are well named. -/
theorem isWellNamed_of_mem {entries : List (String × FileTree)}
    (h : entriesAreWellNamed entries = true) {e : String × FileTree} (he : e ∈ entries) :
    e.2.isWellNamed = true := by
  induction entries with
  | nil => cases he
  | cons x rest ih =>
      obtain ⟨-, -, ht, hrest⟩ := entriesAreWellNamed_cons h
      rcases List.mem_cons.mp he with rfl | he
      · exact ht
      · exact ih hrest he

theorem isWellNamed_of_at? {t inner : FileTree} (h : t.isWellNamed = true) {names : List String}
    (hat : t.at? names = some inner) : inner.isWellNamed = true := by
  induction names generalizing t with
  | nil =>
      obtain rfl := Option.some.inj hat
      exact h
  | cons name names ih =>
      rw [at?] at hat
      obtain ⟨next, hnext, hrest⟩ := Option.bind_eq_some_iff.mp hat
      obtain ⟨before, after, hsplit, -⟩ := List.lookup_eq_some_iff.mp hnext
      cases t with
      | file bytes => cases hnext
      | directory entries =>
          have hmem : (name, next) ∈ entries := by
            change entries = _ at hsplit
            rw [hsplit]
            simp
          exact ih (isWellNamed_of_mem (by rwa [isWellNamed] at h) hmem) hrest

theorem entryPaths_cons (place : Path) (name : String) (t : FileTree)
    (rest : List (String × FileTree)) :
    entryPaths place ((name, t) :: rest) =
      place.child name :: (t.pathsUnder (place.child name) ++ entryPaths place rest) := by
  rw [entryPaths]
  rfl

mutual

/-- What stands in a tree has a longer path. -/
theorem names_of_mem_pathsUnder {place p : Path} {t : FileTree} (h : p ∈ t.pathsUnder place) :
    ∃ name more, p = { place with names := place.names ++ name :: more } := by
  cases t with
  | file bytes =>
      rw [pathsUnder] at h
      cases h
  | directory entries =>
      rw [pathsUnder] at h
      obtain ⟨name, -, more, hp⟩ := names_of_mem_entryPaths h
      exact ⟨name, more, hp⟩

/-- What stands in a directory has a path that leads on with the name of an entry. -/
theorem names_of_mem_entryPaths {place p : Path} {entries : List (String × FileTree)}
    (h : p ∈ entryPaths place entries) :
    ∃ name ∈ entries.map (·.1), ∃ more, p = { place with names := place.names ++ name :: more } := by
  cases entries with
  | nil =>
      rw [entryPaths] at h
      cases h
  | cons e rest =>
      obtain ⟨name, t⟩ := e
      rw [entryPaths_cons, List.mem_cons, List.mem_append] at h
      rcases h with rfl | h | h
      · exact ⟨name, List.mem_cons_self, [], rfl⟩
      · obtain ⟨next, more, hp⟩ := names_of_mem_pathsUnder h
        exact ⟨name, List.mem_cons_self, next :: more, by simpa [Path.child] using hp⟩
      · obtain ⟨other, hother, more, hp⟩ := names_of_mem_entryPaths h
        exact ⟨other, List.mem_cons_of_mem _ hother, more, hp⟩

end

/-- The paths of an entry and of what stands in it differ from those of the entries behind. -/
theorem nodup_entryPaths_cons {place : Path} {name : String} {t : FileTree}
    {rest : List (String × FileTree)} (hfresh : name ∉ rest.map (·.1))
    (hinner : (t.pathsUnder (place.child name)).Nodup) (houter : (entryPaths place rest).Nodup) :
    (entryPaths place ((name, t) :: rest)).Nodup := by
  rw [entryPaths_cons, List.nodup_cons, List.mem_append, not_or, List.nodup_append]
  refine ⟨⟨fun hmem => ?_, fun hmem => ?_⟩, hinner, houter, fun p hp q hq heq => ?_⟩
  · -- what stands in the entry has a longer path
    obtain ⟨next, more, hp⟩ := names_of_mem_pathsUnder hmem
    have hlength := congrArg (fun p : Path => p.names.length) hp
    simp [Path.child] at hlength
  · obtain ⟨other, hother, more, hp⟩ := names_of_mem_entryPaths hmem
    obtain ⟨rfl, -⟩ := List.cons.inj (List.append_cancel_left (congrArg Path.names hp))
    exact hfresh hother
  · -- the paths of other entries lead on with another name
    obtain ⟨next, more, rfl⟩ := names_of_mem_pathsUnder hp
    obtain ⟨other, hother, behind, rfl⟩ := names_of_mem_entryPaths hq
    have hnames := congrArg Path.names heq
    simp only [Path.child, List.append_assoc] at hnames
    obtain ⟨rfl, -⟩ := List.cons.inj (List.append_cancel_left hnames)
    exact hfresh hother

mutual

theorem spec_pathsUnder {t : FileTree} (h : t.isWellNamed = true) {place : Path}
    (hplace : place.IsProper) :
    (t.pathsUnder place).Nodup ∧ ∀ p ∈ t.pathsUnder place, p.IsProper := by
  cases t with
  | file bytes =>
      rw [pathsUnder]
      exact ⟨List.nodup_nil, List.forall_mem_nil _⟩
  | directory entries =>
      rw [isWellNamed] at h
      rw [pathsUnder]
      exact spec_entryPaths h hplace

/-- The paths of what stands in a directory are proper, and no two are equal. -/
theorem spec_entryPaths {entries : List (String × FileTree)}
    (h : entriesAreWellNamed entries = true) {place : Path} (hplace : place.IsProper) :
    (entryPaths place entries).Nodup ∧ ∀ p ∈ entryPaths place entries, p.IsProper := by
  cases entries with
  | nil =>
      rw [entryPaths]
      exact ⟨List.nodup_nil, List.forall_mem_nil _⟩
  | cons e rest =>
      obtain ⟨name, t⟩ := e
      obtain ⟨hname, hfresh, ht, hrest⟩ := entriesAreWellNamed_cons h
      have hchild := Path.isProper_child hplace hname
      obtain ⟨hinner, hinnerProper⟩ := spec_pathsUnder ht hchild
      obtain ⟨houter, houterProper⟩ := spec_entryPaths hrest hplace
      refine ⟨nodup_entryPaths_cons hfresh hinner houter, fun p hp => ?_⟩
      rw [entryPaths_cons, List.mem_cons, List.mem_append] at hp
      rcases hp with rfl | hp | hp
      · exact hchild
      · exact hinnerProper p hp
      · exact houterProper p hp

end

end FileTree

/-! ## Documents under a path -/

namespace Files

variable {f : Files} {p : Path}

theorem isWellNamed_of_lookup? (h : f.top.isWellNamed = true) {t : FileTree}
    (hlookup : f.lookup? p = some t) : t.isWellNamed = true := by
  unfold lookup? at? at hlookup
  simp only at hlookup
  split at hlookup
  · exact FileTree.isWellNamed_of_at? h hlookup
  · cases hlookup

/-- Under a proper path, no document is found twice, and every one has a proper path of its own. -/
theorem documentPaths_spec (h : f.top.isWellNamed = true) (hp : p.IsProper) :
    (f.documentPaths p).Nodup ∧ ∀ q ∈ f.documentPaths p, q.IsProper ∧ q.isDocument = true := by
  unfold documentPaths
  split
  · split
    · next hdocument =>
        refine ⟨List.pairwise_singleton _ p, fun q hq => ?_⟩
        rw [List.mem_singleton.mp hq]
        exact ⟨hp, hdocument⟩
    · exact ⟨List.nodup_nil, List.forall_mem_nil _⟩
  · next entries hlookup =>
      have hentries := isWellNamed_of_lookup? h hlookup
      rw [FileTree.isWellNamed] at hentries
      -- choosing documents and sorting keep paths different
      obtain ⟨hnodup, hproper⟩ := FileTree.spec_entryPaths hentries hp
      refine ⟨(List.mergeSort_perm _ _).nodup_iff.mpr (hnodup.filter _), fun q hq => ?_⟩
      obtain ⟨hmem, hdocument⟩ := List.mem_filter.mp (List.mem_mergeSort.mp hq)
      exact ⟨hproper q hmem, hdocument⟩
  · exact ⟨List.nodup_nil, List.forall_mem_nil _⟩

/-- Under a directory whose documents stand in the order of their paths, they are found in it. -/
theorem documentPaths_of_pairwise {entries : List (String × FileTree)}
    (hlookup : f.lookup? p = some (.directory entries))
    (hsorted : ((FileTree.entryPaths p entries).filter Path.isDocument).Pairwise
      fun a b => Path.le a b = true) :
    f.documentPaths p = (FileTree.entryPaths p entries).filter Path.isDocument := by
  unfold documentPaths
  rw [hlookup]
  exact List.mergeSort_of_pairwise hsorted

/-- A file that is a document is the only one under its path. -/
theorem documentPaths_of_bytes? {bytes : List Nat} (h : f.bytes? p = some bytes)
    (hdocument : p.isDocument = true) : f.documentPaths p = [p] := by
  unfold bytes? at h
  split at h
  · next found hlookup =>
      unfold documentPaths
      rw [hlookup]
      exact if_pos hdocument
  · cases h

end Files

end MarkdownSections
