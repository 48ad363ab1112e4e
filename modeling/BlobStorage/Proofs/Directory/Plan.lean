import BlobStorage.Directory.Plan
import BlobStorage.Proofs.Directory.Path

/-!
The plan of a directory download. Every listed key that is not left out has one place to land at,
which no step back can move after it is resolved. The keys that land at the destination or below it
make up the plan and the others are refused, both in the order of the listing.
-/
namespace BlobStorage.Directory

variable (r : DirectoryDownload)

def Wanted (key : String) : Prop :=
  (∀ stem ∈ r.exclude, ¬ stem.toList <+: key.toList) ∧ key.toList.getLast? ≠ some '/'

instance (key : String) : Decidable (Wanted r key) :=
  inferInstanceAs (Decidable (_ ∧ _))

/-- The place a key is taken to, all of whose steps back are taken. -/
def landing (key : String) : Path :=
  (r.destination.resolve.join (relativeName (r.stem.getD "") key)).resolve

/-- Whether a key lands at the destination or below it. -/
def Inside (key : String) : Prop :=
  landing r key = r.destination.resolve ∨ (landing r key).IsBelow r.destination.resolve

instance (key : String) : Decidable (Inside r key) :=
  inferInstanceAs (Decidable (_ ∨ _))

theorem isSkipped_eq (key : String) : isSkipped r.exclude key = decide (¬ Wanted r key) := by
  rw [Bool.eq_iff_iff]
  simp only [isSkipped, Wanted, Bool.or_eq_true, List.any_eq_true, List.isPrefixOf_iff_prefix,
    decide_eq_true_eq, not_and_or, not_forall, not_not, exists_prop]

section Naming

theorem toList_trimSlashesLeft (text : String) :
    (trimSlashesLeft text).toList = text.toList.dropWhile (· = '/') := by
  simp [trimSlashesLeft]

/-- A relative name is made of the key's characters. -/
theorem mem_relativeName (stem key : String) (c : Char)
    (h : c ∈ (relativeName stem key).toList) : c ∈ key.toList := by
  have dropped (n : Nat)
      (hc : c ∈ (trimSlashesLeft (String.ofList (key.toList.drop n))).toList) :
      c ∈ key.toList := by
    rw [toList_trimSlashesLeft, String.toList_ofList] at hc
    exact List.mem_of_mem_drop ((List.dropWhile_suffix _).subset hc)
  have last (hc : c ∈ (String.ofList (key.toList.reverse.takeWhile (· ≠ '/')).reverse).toList) :
      c ∈ key.toList := by
    rw [String.toList_ofList, List.mem_reverse] at hc
    exact List.mem_reverse.mp ((List.takeWhile_prefix _).subset hc)
  simp only [relativeName] at h
  split at h
  · split at h
    · exact last h
    · exact dropped stem.length h
  · split at h
    · exact last h
    · exact h

/-- What follows the stem names the place, unless it starts with a slash. -/
theorem relativeName_append (stem text : String) (some_text : text ≠ "")
    (no_slash : Path.isAbsoluteText text = false) : relativeName stem (stem ++ text) = text := by
  have kept : text.toList.dropWhile (· = '/') = text.toList := by
    cases chars : text.toList with
    | nil => rfl
    | cons c rest =>
        simp only [Path.isAbsoluteText, chars, List.head?_cons, decide_eq_false_iff_not,
          Option.some.injEq] at no_slash
        simp [no_slash]
  have under : (stem.toList.isPrefixOf (stem.toList ++ text.toList)) = true := by
    simp [List.isPrefixOf_iff_prefix]
  have rest : (stem.toList ++ text.toList).drop stem.length = text.toList := by
    rw [← String.length_toList, List.drop_left]
  simp [relativeName, under, rest, trimSlashesLeft, kept, some_text]

/-- A key of names below the stem lands at these names below the destination. -/
theorem landing_of_names (names : List String) (some_names : names ≠ [])
    (h : ∀ name ∈ names, Path.IsName name) :
    landing r (r.stem.getD "" ++ "/".intercalate names) =
      ⟨r.destination.resolve.base, r.destination.resolve.segments ++ names⟩ := by
  have read := Path.segmentsOf_intercalate names h
  have relative := Path.isAbsoluteText_intercalate names h
  have some_text : "/".intercalate names ≠ "" := by
    intro none
    rw [none] at read
    exact some_names read.symm
  rw [landing, relativeName_append _ _ some_text relative, Path.join, relative, read]
  apply Path.resolve_eq_self
  simp only [Bool.false_eq_true, if_false, List.mem_append, not_or]
  exact ⟨fun back => (Path.mem_resolve _ _ back).2 rfl, fun back => (h _ back).ne_back rfl⟩

/-- No step is left in a landing that does not lead forward. -/
theorem landing_names (read : ∀ s ∈ r.destination.segments, s ≠ "" ∧ s ≠ "." ∧ '/' ∉ s.toList)
    (key : String) : ∀ s ∈ (landing r key).segments, Path.IsName s := by
  intro s hs
  have found := Path.mem_resolve _ s hs
  have own : ∀ text, s ∈ Path.segmentsOf text → Path.IsName s := fun text ht =>
    have := Path.mem_segmentsOf text s ht
    ⟨this.1, this.2.1, found.2, fun slash => (this.2.2 _ slash).1 rfl⟩
  cases afresh : Path.isAbsoluteText (relativeName (r.stem.getD "") key) with
  | true =>
      simp only [Path.join, afresh, if_true, Path.absolute] at found
      exact own _ found.1
  | false =>
      simp only [Path.join, afresh, Bool.false_eq_true, if_false, List.mem_append] at found
      cases found.1 with
      | inr new => exact own _ new
      | inl old =>
          have := read s (Path.mem_resolve _ s old).1
          exact ⟨this.1, this.2.1, found.2, this.2.2⟩

end Naming

section Planning

def item (key : String) : DownloadItem := ⟨key, landing r key⟩

def refusal (key : String) : FailedDownload :=
  ⟨landing r key, .refusal (.keyOutside r.destination.resolve.text) key⟩

@[simp]
theorem item_target (key : String) : (item r key).target = landing r key := by
  simp only [item]

@[simp]
theorem refusal_destination (key : String) : (refusal r key).destination = landing r key := by
  simp only [refusal]

theorem placed?_known (clean : r.destination.hasNull = false) (key : String)
    (plain : '\x00' ∉ (relativeName (r.stem.getD "") key).toList) :
    placed? r r.destination.resolve (.known key) =
      .ok (if Wanted r key then some (item r key) else none) := by
  have lands : target r.destination.resolve (r.stem.getD "") key = .ok (landing r key) := by
    have := Path.hasNull_join _ _ (Path.hasNull_resolve _ clean) plain
    simp [target, Path.resolved, this, landing]
  by_cases wanted : Wanted r key <;>
    simp [placed?, textOf, isSkipped_eq, wanted, lands, item, pure, bind, Except.bind, Except.pure]

theorem mapM_placed? (clean : r.destination.hasNull = false) (keys : List String)
    (plain : ∀ key ∈ keys, '\x00' ∉ (relativeName (r.stem.getD "") key).toList) :
    (keys.map Reported.known).mapM (placed? r r.destination.resolve) =
      .ok (keys.map fun key => if Wanted r key then some (item r key) else none) := by
  induction keys with
  | nil => rfl
  | cons key rest ih =>
      have here := placed?_known r clean key (plain key List.mem_cons_self)
      have there := ih fun k hk => plain k (List.mem_cons_of_mem key hk)
      simp [List.mapM_cons, here, there, bind, Except.bind, pure, Except.pure]

/-- The plan and the refusals, key by key. -/
theorem planDownload_known (clean : r.destination.hasNull = false) (keys : List String)
    (plain : ∀ key ∈ keys, '\x00' ∉ (relativeName (r.stem.getD "") key).toList) :
    planDownload r (keys.map .known) =
      .ok (((keys.filter (Wanted r ·)).filter (Inside r ·)).map (item r),
        ((keys.filter (Wanted r ·)).filter (¬ Inside r ·)).map (refusal r)) := by
  have kept : (keys.map fun key => if Wanted r key then some (item r key) else none).filterMap id =
      (keys.filter (Wanted r ·)).map (item r) := by
    induction keys with
    | nil => rfl
    | cons key rest ih =>
        have := ih fun k hk => plain k (List.mem_cons_of_mem key hk)
        by_cases wanted : Wanted r key <;> simp_all
  have side : ∀ key, (item r key).target.isWithin r.destination.resolve =
      decide (Inside r key) := by
    intro key
    rw [Bool.eq_iff_iff, Path.isWithin_iff, item_target, decide_eq_true_eq, Inside]
  simp only [planDownload, Path.resolved, clean, Bool.false_eq_true, if_false,
    mapM_placed? r clean keys plain, kept, List.partition_eq_filter_filter, List.filter_map,
    Function.comp_def, side, List.map_map, bind, Except.bind, pure, Except.pure]
  simp [refusal, item]

end Planning

/-- What a plan for a listing is like. Both lists keep the order of the listing, a key that is listed
repeatedly is in its list as often, and what one of them takes the other one leaves. -/
structure Division (keys : List String) (plan : List DownloadItem)
    (refused : List FailedDownload) : Prop where
  planned : plan = ((keys.filter (Wanted r ·)).filter (Inside r ·)).map (item r)
  rejected : refused = ((keys.filter (Wanted r ·)).filter (¬ Inside r ·)).map (refusal r)
  inside : ∀ item ∈ plan,
    item.target = r.destination.resolve ∨ item.target.IsBelow r.destination.resolve
  outside : ∀ f ∈ refused,
    f.destination ≠ r.destination.resolve ∧ ¬ f.destination.IsBelow r.destination.resolve
  names : (∀ s ∈ r.destination.segments, s ≠ "" ∧ s ≠ "." ∧ '/' ∉ s.toList) →
    ∀ item ∈ plan, ∀ s ∈ item.target.segments, Path.IsName s

/-- A destination is a place if no null character is in its name, and then every listing of keys
without one is divided. -/
structure PlanLaws : Prop where
  nowhere : r.destination.hasNull = true → ∀ keys, planDownload r keys = .error .nullInPath
  divided : r.destination.hasNull = false →
    ∀ keys : List String, (∀ key ∈ keys, '\x00' ∉ key.toList) →
      ∃ plan refused, planDownload r (keys.map .known) = .ok (plan, refused) ∧
        Division r keys plan refused

theorem plan_of_listing : PlanLaws r where
  nowhere null keys := by
    simp [planDownload, Path.resolved, null, bind, Except.bind]
  divided clean keys plain := by
    have relative (key : String) (hk : key ∈ keys) :
        '\x00' ∉ (relativeName (r.stem.getD "") key).toList :=
      fun null => plain key hk (mem_relativeName _ _ _ null)
    refine ⟨_, _, planDownload_known r clean keys relative, rfl, rfl, ?_, ?_, ?_⟩
    · intro i hi
      simp only [List.mem_map, List.mem_filter, decide_eq_true_eq] at hi
      obtain ⟨key, kept, rfl⟩ := hi
      rw [item_target]
      exact kept.2
    · intro f hf
      simp only [List.mem_map, List.mem_filter, decide_eq_true_eq] at hf
      obtain ⟨key, kept, rfl⟩ := hf
      rw [refusal_destination]
      exact not_or.mp kept.2
    · intro read i hi
      simp only [List.mem_map] at hi
      obtain ⟨key, _, rfl⟩ := hi
      rw [item_target]
      exact landing_names r read key

/-- A key may name the destination itself. -/
theorem lands_at_destination :
    ∃ plan refused, planDownload { stem := some "p/", destination := .absolute "/dest" }
        [.known "p/."] = .ok (plan, refused) ∧
      refused = [] ∧ ∃ item ∈ plan, ¬ item.target.IsBelow (Path.absolute "/dest").resolve := by
  have here : (Path.absolute "/dest").resolve = .absolute "/dest" := by decide
  refine ⟨[⟨"p/.", .absolute "/dest"⟩], [], by rfl, rfl, _, List.mem_singleton_self _, ?_⟩
  rw [here]
  exact Path.not_isBelow_self _

end BlobStorage.Directory
