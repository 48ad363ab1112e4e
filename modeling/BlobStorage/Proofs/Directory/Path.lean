import BlobStorage.Directory.Path
import Mathlib.Algebra.GroupWithZero.Nat
import Mathlib.Data.List.Basic

/-!
Segments of paths. What a text is read into leads somewhere at every segment, a resolved path has no
step back left, and names joined by slashes are read back as they were. A place is below another one
if it is reached from there by going on, which is a matter of whole segments.
-/
namespace BlobStorage.Path

/-- A segment leads from a directory to a place in it. -/
structure IsName (segment : String) : Prop where
  ne_empty : segment ≠ ""
  ne_here : segment ≠ "."
  ne_back : segment ≠ ".."
  no_slash : '/' ∉ segment.toList

/-- Whether a place lies properly below another one. Everything else lies below the place that all
absolute paths start from. -/
def IsBelow (p root : Path) : Prop :=
  (root = ⟨"", []⟩ ∧ p ≠ root) ∨ ∃ rest, rest ≠ [] ∧ p = ⟨root.base, root.segments ++ rest⟩

theorem isWithin_iff (p root : Path) : p.isWithin root = true ↔ p = root ∨ p.IsBelow root := by
  obtain ⟨base, segments⟩ := p
  obtain ⟨rootBase, rootSegments⟩ := root
  simp only [isWithin, IsBelow, Bool.or_eq_true, Bool.and_eq_true, decide_eq_true_eq,
    String.isEmpty_iff, List.isEmpty_iff, List.isPrefixOf_iff_prefix, mk.injEq, ne_eq]
  constructor
  · intro h
    cases h with
    | inl inside =>
        obtain ⟨rest, eq⟩ := inside.2
        by_cases none : rest = []
        · left; simp_all
        · right; right; exact ⟨rest, none, inside.1, eq.symm⟩
    | inr root =>
        by_cases same : base = rootBase ∧ segments = rootSegments
        · exact .inl same
        · exact .inr (.inl ⟨root, same⟩)
  · intro h
    cases h with
    | inl same => left; simp [same]
    | inr below =>
        cases below with
        | inl root => exact .inr root.1
        | inr inside =>
            obtain ⟨rest, _, home, eq⟩ := inside
            exact .inl ⟨home, rest, eq.symm⟩

theorem not_isBelow_self (p : Path) : ¬ p.IsBelow p := by
  intro h
  cases h with
  | inl root => exact root.2 rfl
  | inr inside =>
      obtain ⟨rest, some_rest, eq⟩ := inside
      have := congrArg (·.segments.length) eq
      simp at this
      exact some_rest this

instance (p root : Path) : Decidable (p = root ∨ p.IsBelow root) :=
  decidable_of_iff _ (isWithin_iff p root)

section Reading

/-- The pieces of a split text are made of its characters, without the one it is split at. -/
theorem mem_of_mem_splitOn (mark : Char) (text : List Char) (piece : List Char)
    (h : piece ∈ text.splitOn mark) (c : Char) (hc : c ∈ piece) : c ≠ mark ∧ c ∈ text := by
  induction text generalizing piece with
  | nil => simp_all
  | cons d rest ih =>
      rw [List.splitOn_cons_eq_if_modifyHead] at h
      by_cases at_mark : d = mark
      · simp only [at_mark, beq_self_eq_true, if_true, List.mem_cons] at h
        cases h with
        | inl first => simp [first] at hc
        | inr later => exact (ih piece later hc).imp_right (List.mem_cons_of_mem d)
      · simp only [beq_iff_eq, at_mark, if_false] at h
        cases hs : rest.splitOn mark with
        | nil => exact absurd hs (List.splitOn_ne_nil mark rest)
        | cons head pieces =>
            simp only [hs, List.modifyHead_cons, List.mem_cons] at h
            cases h with
            | inl first =>
                simp only [first, List.mem_cons] at hc
                cases hc with
                | inl here => exact ⟨here ▸ at_mark, by simp [here]⟩
                | inr there =>
                    exact (ih head (by simp [hs]) there).imp_right (List.mem_cons_of_mem d)
            | inr later =>
                exact (ih piece (by simp [hs, later]) hc).imp_right (List.mem_cons_of_mem d)

theorem mem_segmentsOf (text segment : String) (h : segment ∈ segmentsOf text) :
    segment ≠ "" ∧ segment ≠ "." ∧ ∀ c ∈ segment.toList, c ≠ '/' ∧ c ∈ text.toList := by
  simp only [segmentsOf, List.mem_filter, List.mem_map, Bool.and_eq_true, decide_eq_true_eq] at h
  obtain ⟨piece, found, rfl⟩ := h.1
  refine ⟨h.2.1, h.2.2, fun c hc => mem_of_mem_splitOn '/' text.toList piece found c ?_⟩
  simpa using hc

/-- Names joined by slashes are read as these names. -/
theorem segmentsOf_intercalate (names : List String) (h : ∀ name ∈ names, IsName name) :
    segmentsOf ("/".intercalate names) = names := by
  cases names with
  | nil => rfl
  | cons first rest =>
    have split : (['/'].intercalate ((first :: rest).map String.toList)).splitOn '/' =
        (first :: rest).map String.toList := List.splitOn_intercalate '/'
      (by
        intro piece hp
        simp only [List.mem_map] at hp
        obtain ⟨name, hn, rfl⟩ := hp
        exact (h name hn).no_slash)
      (by simp)
    simp only [segmentsOf, String.toList_intercalate, show "/".toList = ['/'] from rfl, split,
      List.map_map]
    simp only [Function.comp_def, String.ofList_toList, List.map_id']
    exact List.filter_eq_self.mpr fun name hn => by simp [(h name hn).ne_empty, (h name hn).ne_here]

theorem isAbsoluteText_intercalate (names : List String) (h : ∀ name ∈ names, IsName name) :
    isAbsoluteText ("/".intercalate names) = false := by
  cases names with
  | nil => rfl
  | cons first rest =>
    have own := h first List.mem_cons_self
    cases chars : first.toList with
    | nil => exact absurd (String.toList_eq_nil_iff.mp chars) own.ne_empty
    | cons c more =>
      have starts : ("/".intercalate (first :: rest)).toList.head? = some c := by
        cases rest <;> simp [String.toList_intercalate, List.intercalate, chars]
      have other := own.no_slash
      simp only [chars, List.mem_cons, not_or] at other
      simp only [isAbsoluteText, starts, decide_eq_false_iff_not, Option.some.injEq]
      exact Ne.symm other.1

end Reading

section Resolving

theorem mem_steps (segments : List String) (p : Path) (segment : String)
    (h : segment ∈ (segments.foldl step p).segments) :
    segment ∈ p.segments ∨ segment ∈ segments ∧ segment ≠ ".." := by
  induction segments generalizing p with
  | nil => exact .inl h
  | cons first rest ih =>
      cases ih (p.step first) h with
      | inr later => exact .inr ⟨List.mem_cons_of_mem first later.1, later.2⟩
      | inl here =>
          by_cases back : first = ".."
          · left
            cases hs : p.segments with
            | nil => simp [step, back, hs] at here
            | cons a l =>
                simp only [step, back, if_true, hs] at here
                exact List.dropLast_subset _ here
          · simp only [step, back, if_false, List.mem_append, List.mem_singleton] at here
            cases here with
            | inl old => exact .inl old
            | inr new => exact .inr ⟨by simp [new], new ▸ back⟩

theorem mem_resolve (p : Path) (segment : String) (h : segment ∈ p.resolve.segments) :
    segment ∈ p.segments ∧ segment ≠ ".." := by
  cases mem_steps p.segments ⟨p.base, []⟩ segment h with
  | inl none => simp at none
  | inr some => exact some

theorem steps_names (segments : List String) (p : Path) (h : ".." ∉ segments) :
    segments.foldl step p = ⟨p.base, p.segments ++ segments⟩ := by
  induction segments generalizing p with
  | nil => simp
  | cons first rest ih =>
      simp only [List.mem_cons, not_or] at h
      simp [ih _ h.2, step, Ne.symm h.1]

/-- A path that does not lead back anywhere is resolved as it is. -/
theorem resolve_eq_self (p : Path) (h : ".." ∉ p.segments) : p.resolve = p := by
  simp [resolve, steps_names p.segments _ h]

theorem hasNull_eq_false_iff (p : Path) :
    p.hasNull = false ↔ ∀ segment ∈ p.segments, '\x00' ∉ segment.toList := by
  simp [hasNull]

theorem hasNull_resolve (p : Path) (h : p.hasNull = false) : p.resolve.hasNull = false := by
  rw [hasNull_eq_false_iff] at h ⊢
  exact fun segment hs => h segment (mem_resolve p segment hs).1

theorem hasNull_join (p : Path) (text : String) (h : p.hasNull = false)
    (plain : '\x00' ∉ text.toList) : (p.join text).hasNull = false := by
  have read : ∀ segment ∈ segmentsOf text, '\x00' ∉ segment.toList := fun segment hs null =>
    plain ((mem_segmentsOf text segment hs).2.2 _ null).2
  rw [hasNull_eq_false_iff] at h ⊢
  intro segment hs
  cases afresh : isAbsoluteText text with
  | true =>
    simp only [join, afresh, if_true, absolute] at hs
    exact read segment hs
  | false =>
    simp only [join, afresh, Bool.false_eq_true, if_false, List.mem_append] at hs
    cases hs with
    | inl old => exact h segment old
    | inr new => exact read segment new

end Resolving

section Texts

theorem utf8ByteSize_join (texts : List String) :
    (String.join texts).utf8ByteSize = (texts.map (·.utf8ByteSize)).sum := by
  induction texts with
  | nil => rfl
  | cons text rest ih => simp [ih]

/-- A path's text has a slash before every segment, and is a lone slash if it has nothing else. -/
theorem utf8ByteSize_text (p : Path) :
    p.text.utf8ByteSize =
      if p.segments = [] ∧ p.base = "" then 1
      else p.base.utf8ByteSize + (p.segments.map (·.utf8ByteSize + 1)).sum := by
  obtain ⟨base, segments⟩ := p
  cases segments with
  | nil =>
      by_cases none : base = ""
      · simp [text, none]
        rfl
      · simp [text, none]
  | cons first rest =>
      have slash : "/".utf8ByteSize = 1 := rfl
      simp [text, utf8ByteSize_join, slash, Function.comp_def, Nat.add_comm]

theorem utf8ByteSize_text_le (base : String) (segments more : List String) :
    (Path.mk base segments).text.utf8ByteSize ≤
      (Path.mk base (segments ++ more)).text.utf8ByteSize := by
  simp only [utf8ByteSize_text, List.map_append, List.sum_append, List.append_eq_nil_iff]
  cases more with
  | nil => simp
  | cons first rest =>
      split
      · simp; omega
      · simp

end Texts
end BlobStorage.Path
