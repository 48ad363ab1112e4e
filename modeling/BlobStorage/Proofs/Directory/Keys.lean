import BlobStorage.Proofs.Directory.FileTree
import BlobStorage.Proofs.Directory.Plan
import Mathlib.Data.List.DropRight

/-!
The keys of a directory's files: what they start with, then the names on the way to the file, joined
by slashes. An upload plans one key for every file, and a download of what the keys start with plans
every key to the same names below its destination.
-/
namespace BlobStorage.Directory

/-- What the keys of an upload start with: a stem that is not empty ends in one slash (`stemOf_spec`). -/
def stemOf (stem : String) : String :=
  if stem.isEmpty then "" else trimSlashesRight stem ++ "/"

/-- What is cut off at the end of a text are slashes, and what is left ends in none. -/
structure Trimmed (text left : String) : Prop where
  cut : ∃ n, text.toList = left.toList ++ List.replicate n '/'
  ends : ∀ front, left.toList ≠ front ++ ['/']

theorem toList_trimSlashesRight (text : String) :
    (trimSlashesRight text).toList = text.toList.rdropWhile (· = '/') := String.toList_ofList

theorem rdropWhile_slashes (front : List Char) (n : Nat) :
    (front ++ List.replicate n '/').rdropWhile (· = '/') = front.rdropWhile (· = '/') := by
  induction n with
  | zero => rw [List.replicate_zero, List.append_nil]
  | succ n ih =>
      rw [List.replicate_succ', ← List.append_assoc, List.rdropWhile_concat_pos _ _ _ (by decide), ih]

theorem trimSlashesRight_eq_iff {text left : String} :
    trimSlashesRight text = left ↔ Trimmed text left := by
  constructor
  · rintro rfl
    have slashes : ∀ c ∈ text.toList.rtakeWhile (· = '/'), c = '/' := fun c hc => by
      simpa using List.mem_rtakeWhile_imp hc
    refine ⟨⟨(text.toList.rtakeWhile (· = '/')).length, ?_⟩, fun front ended => ?_⟩
    · rw [toList_trimSlashesRight, ← List.eq_replicate_of_mem slashes,
        List.rdropWhile_append_rtakeWhile]
    · rw [toList_trimSlashesRight] at ended
      have again := rdropWhile_slashes front 1
      rw [List.replicate_one, ← ended, List.rdropWhile_idempotent, ended] at again
      have shorter := (List.rdropWhile_prefix (· = '/') (l := front)).length_le
      rw [← again, List.length_append, List.length_singleton] at shorter
      omega
  · rintro ⟨⟨n, cut⟩, ends⟩
    rw [← String.toList_inj, toList_trimSlashesRight, cut, rdropWhile_slashes, List.rdropWhile_eq_self_iff]
    intro some_left last
    exact ends left.toList.dropLast (by
      rw [← of_decide_eq_true last, List.dropLast_append_getLast])

/-- In place of the slashes that a stem ends in stands one. -/
theorem stemOf_spec (stem : String) : (stem = "" ∧ stemOf stem = "") ∨
    (stem ≠ "" ∧ ∃ left, Trimmed stem left ∧ stemOf stem = left ++ "/") := by
  unfold stemOf
  split
  · rename_i none
    exact .inl ⟨String.isEmpty_iff.mp none, rfl⟩
  · rename_i some_stem
    exact .inr ⟨mt String.isEmpty_iff.mpr some_stem, _, trimSlashesRight_eq_iff.mp rfl, rfl⟩

def keyOf (stem : String) (relative : List String) : String := stem ++ "/".intercalate relative

section Names
variable {relative : List String} (some_name : relative ≠ [])
  (named : ∀ segment ∈ relative, Path.IsName segment)

theorem mem_intercalate {c : Char} (h : c ∈ ("/".intercalate relative).toList) :
    c = '/' ∨ ∃ segment ∈ relative, c ∈ segment.toList := by
  have slash : "/".toList = ['/'] := rfl
  induction relative with
  | nil => simp at h
  | cons first rest ih =>
      cases rest with
      | nil => exact .inr ⟨first, by simp, by simpa using h⟩
      | cons second rest =>
          rw [String.intercalate_cons_cons] at h
          simp only [String.toList_append, slash, List.mem_append, List.mem_singleton] at h
          rcases h with (here | mark) | later
          · exact .inr ⟨first, by simp, here⟩
          · exact .inl mark
          · exact (ih later).imp_right fun ⟨segment, hs, hc⟩ =>
              ⟨segment, List.mem_cons_of_mem _ hs, hc⟩

include some_name named

theorem intercalate_ne_empty : "/".intercalate relative ≠ "" := by
  intro none
  have read := Path.segmentsOf_intercalate relative named
  rw [none] at read
  exact some_name read.symm

/-- Joined names end like the last of them, which is not a slash. -/
theorem getLast?_intercalate : ("/".intercalate relative).toList.getLast? ≠ some '/' := by
  induction relative with
  | nil => exact absurd rfl some_name
  | cons first rest ih =>
      obtain ⟨here, later⟩ := List.forall_mem_cons.mp named
      cases rest with
      | nil =>
          intro ends
          rw [String.intercalate_singleton] at ends
          exact here.no_slash (List.mem_of_getLast? ends)
      | cons second rest =>
          have onward := intercalate_ne_empty (by simp) later
          rw [String.intercalate_cons_cons, String.toList_append,
            List.getLast?_append_of_ne_nil _ (mt String.toList_eq_nil_iff.mp onward)]
          exact ih (by simp) later

theorem keyOf_ne_empty (stem : String) : keyOf stem relative ≠ "" := by
  simp [keyOf, intercalate_ne_empty some_name named]

theorem getLast?_keyOf (stem : String) : (keyOf stem relative).toList.getLast? ≠ some '/' := by
  rw [keyOf, String.toList_append,
    List.getLast?_append_of_ne_nil _
      (mt String.toList_eq_nil_iff.mp (intercalate_ne_empty some_name named))]
  exact getLast?_intercalate some_name named

omit some_name in
theorem keyOf_inj {stem : String} {other : List String}
    (named' : ∀ segment ∈ other, Path.IsName segment)
    (same : keyOf stem relative = keyOf stem other) : relative = other := by
  have joined := (String.append_right_inj stem).mp same
  rw [← Path.segmentsOf_intercalate relative named, joined, Path.segmentsOf_intercalate other named']

end Names

theorem joinKey_eq (stem relative : String) : joinKey stem relative = stemOf stem ++ relative := by
  unfold joinKey stemOf
  split <;> simp

section Upload
variable {files : FileTree} (sound : files.Sound) (r : DirectoryUpload) {directory : List String}
include sound

def filed (r : DirectoryUpload) (relative : List String) : UploadItem :=
  ⟨⟨r.source.base, r.source.segments ++ relative⟩, keyOf (stemOf r.stem) relative⟩

omit sound in
theorem filed_inj {r : DirectoryUpload} {relative other : List String}
    (same : filed r relative = filed r other) : relative = other := by
  have segments := congrArg (·.path.segments) same
  simpa [filed] using segments

/-- Every file is planned once. -/
theorem planUpload_spec (leads : files.directory? r.source = .ok (some directory)) :
    ∃ names : List (List String), planUpload files r = .ok (names.map (filed r)) ∧ names.Nodup ∧
      ∀ relative, relative ∈ names ↔
        ∃ content, files.FileBelow directory r.recursive relative content := by
  have order := List.mergeSort_perm (files.filesBelow directory r.recursive) segmentsLe
  refine ⟨(files.filesBelow directory r.recursive).mergeSort segmentsLe, ?_, ?_, ?_⟩
  · simp only [planUpload, leads, joinKey_eq]
    rfl
  · exact order.nodup_iff.mpr (FileTree.nodup_filesBelow sound directory r.recursive)
  · intro relative
    rw [order.mem_iff, FileTree.mem_filesBelow sound]

end Upload

section Download
variable (r : DirectoryDownload) (everything : r.exclude = []) {relative : List String}
  (some_name : relative ≠ []) (named : ∀ segment ∈ relative, FileTree.IsFileName segment)
include named

theorem relativeName_keyOf (some_name : relative ≠ []) (stem : String) :
    '\x00' ∉ (relativeName stem (keyOf stem relative)).toList := by
  have proper : ∀ segment ∈ relative, Path.IsName segment := fun s hs => (named s hs).toIsName
  rw [keyOf, relativeName_append stem _ (intercalate_ne_empty some_name proper)
    (Path.isAbsoluteText_intercalate relative proper)]
  intro null
  cases mem_intercalate null with
  | inl slash => cases slash
  | inr own =>
      obtain ⟨segment, hs, hc⟩ := own
      exact (named segment hs).no_null hc

include some_name

theorem landing_keyOf :
    landing r (keyOf (r.stem.getD "") relative) =
      ⟨r.destination.resolve.base, r.destination.resolve.segments ++ relative⟩ :=
  landing_of_names r relative some_name fun s hs => (named s hs).toIsName

theorem inside_keyOf : Inside r (keyOf (r.stem.getD "") relative) :=
  .inr (.inr ⟨relative, some_name, landing_keyOf r some_name named⟩)

include everything in
theorem wanted_keyOf : Wanted r (keyOf (r.stem.getD "") relative) := by
  refine ⟨by simp [everything], getLast?_keyOf some_name (fun s hs => (named s hs).toIsName) _⟩

omit some_name named in
theorem planDownload_keys (clean : r.destination.hasNull = false) (everything : r.exclude = [])
    (names : List (List String)) (some_names : ∀ relative ∈ names, relative ≠ [])
    (named : ∀ relative ∈ names, ∀ segment ∈ relative, FileTree.IsFileName segment) :
    planDownload r ((names.map (keyOf (r.stem.getD ""))).map .known) =
      .ok ((names.map (keyOf (r.stem.getD ""))).map (item r), []) := by
  have kept : ∀ key ∈ names.map (keyOf (r.stem.getD "")), Wanted r key ∧ Inside r key ∧
      '\x00' ∉ (relativeName (r.stem.getD "") key).toList := by
    intro key hk
    obtain ⟨relative, hn, rfl⟩ := List.mem_map.mp hk
    have own := named relative hn
    have proper := some_names relative hn
    exact ⟨wanted_keyOf r everything proper own, inside_keyOf r proper own,
      relativeName_keyOf own proper _⟩
  rw [planDownload_known r clean _ fun key hk => (kept key hk).2.2]
  have all : (names.map (keyOf (r.stem.getD ""))).filter (Wanted r ·) = _ :=
    List.filter_eq_self.mpr fun key hk => decide_eq_true (kept key hk).1
  have inside : (names.map (keyOf (r.stem.getD ""))).filter (Inside r ·) = _ :=
    List.filter_eq_self.mpr fun key hk => decide_eq_true (kept key hk).2.1
  have outside : (names.map (keyOf (r.stem.getD ""))).filter (¬ Inside r ·) = [] :=
    List.filter_eq_nil_iff.mpr fun key hk => by simp [(kept key hk).2.1]
  rw [all, inside, outside, List.map_nil]

end Download
end BlobStorage.Directory
