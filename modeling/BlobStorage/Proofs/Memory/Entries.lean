import BlobStorage.Directory.Transfer
import BlobStorage.Proofs.Memory.Listing

/-!
The entries of a listing with a delimiter. A key is shown under its own name or under that of the common
prefix it is rolled up into, and a later key is never shown under an earlier name. So the keys of one
prefix come together, and the names of the entries ascend.
-/
namespace BlobStorage.Memory.Listing

section Text
variable {delimiter stem cs p q k l : List Char}

theorem cons_le_cons_iff {c d : Char} : c :: k ≤ d :: l ↔ c < d ∨ c = d ∧ k ≤ l := by
  rw [← not_lt, ← not_lt, List.cons_lt_cons_iff]
  rcases lt_trichotomy c d with lt | rfl | gt
  · simp [lt, lt_asymm lt, ne_of_gt lt]
  · simp
  · simp [gt, lt_asymm gt, ne_of_gt gt]

theorem le_of_prefix (h : p <+: k) : p ≤ k := not_lt.mp h.le

/-- What lies between a text and one that starts with it starts with it too. -/
theorem prefix_of_between (lower : p ≤ k) (upper : k ≤ l) (h : p <+: l) : p <+: k := by
  induction p generalizing k l with
  | nil => exact List.nil_prefix
  | cons c p ih =>
      obtain ⟨rest, rfl⟩ := h
      cases k with
      | nil => exact absurd (List.nil_lt_cons c p) (not_lt.mpr lower)
      | cons d k =>
          rw [List.cons_append, cons_le_cons_iff] at upper
          rcases cons_le_cons_iff.mp lower with lt | ⟨rfl, below⟩
          · rcases upper with gt | ⟨rfl, _⟩
            · exact absurd gt (lt_asymm lt)
            · exact absurd lt (lt_irrefl _)
          · rcases upper with gt | ⟨_, above⟩
            · exact absurd gt (lt_irrefl _)
            · exact (List.prefix_cons_inj _).mpr (ih below above (List.prefix_append ..))

theorem throughFirst?_within (h : throughFirst? delimiter cs = some q) :
    q <+: cs ∧ delimiter.length ≤ q.length := by
  induction cs generalizing q with
  | nil =>
      unfold throughFirst? at h
      split at h <;> simp_all
  | cons c rest ih =>
      unfold throughFirst? at h
      split at h
      · rename_i here
        cases h
        exact ⟨List.isPrefixOf_iff_prefix.mp here, Nat.le_refl _⟩
      · obtain ⟨q', later, rfl⟩ := Option.map_eq_some_iff.mp h
        obtain ⟨starts, long⟩ := ih later
        exact ⟨(List.prefix_cons_inj c).mpr starts, Nat.le_succ_of_le long⟩

theorem throughFirst?_alike (nonempty : delimiter ≠ [])
    (h : throughFirst? delimiter cs = some q) {other : List Char} (starts : q <+: other) :
    throughFirst? delimiter other = some q := by
  induction cs generalizing q other with
  | nil =>
      unfold throughFirst? at h
      simp [nonempty] at h
  | cons c rest ih =>
      unfold throughFirst? at h
      split at h
      · cases h
        obtain ⟨c', other, rfl⟩ := List.exists_cons_of_ne_nil
          (fun none => nonempty (List.prefix_nil.mp (none ▸ starts)))
        unfold throughFirst?
        rw [if_pos (List.isPrefixOf_iff_prefix.mpr starts)]
      · rename_i elsewhere
        obtain ⟨q', later, rfl⟩ := Option.map_eq_some_iff.mp h
        obtain ⟨tail, rfl⟩ := starts
        have found := ih later (List.prefix_append q' tail)
        obtain ⟨within, long⟩ := throughFirst?_within later
        -- a delimiter at the front would lie within the part that both texts share
        have not_here : ¬ delimiter.isPrefixOf (c :: (q' ++ tail)) = true := by
          intro here
          have short : delimiter <+: c :: q' :=
            List.prefix_of_prefix_length_le (List.isPrefixOf_iff_prefix.mp here)
              (List.prefix_append (c :: q') tail) (Nat.le_succ_of_le long)
          exact elsewhere (List.isPrefixOf_iff_prefix.mpr
            (short.trans ((List.prefix_cons_inj c).mpr within)))
        rw [List.cons_append, throughFirst?, if_neg not_here, found]
        rfl

theorem commonPrefix?_within (under : stem <+: k) (h : commonPrefix? stem delimiter k = some q) :
    q <+: k ∧ stem <+: q ∧ q ≠ [] := by
  obtain ⟨rest, rfl⟩ := under
  unfold commonPrefix? at h
  split at h
  · cases h
  · rename_i nonempty
    rw [List.drop_left] at h
    obtain ⟨q', later, rfl⟩ := Option.map_eq_some_iff.mp h
    obtain ⟨within, long⟩ := throughFirst?_within later
    have some_delimiter : 0 < delimiter.length := List.length_pos_iff.mpr (by simpa using nonempty)
    refine ⟨(List.prefix_append_right_inj stem).mpr within, List.prefix_append .., ?_⟩
    exact List.append_ne_nil_of_right_ne_nil _ (List.length_pos_iff.mp (by omega))

/-- All keys that start with a common prefix are rolled up into it. -/
theorem commonPrefix?_alike (under : stem <+: k) (h : commonPrefix? stem delimiter k = some q)
    (starts : q <+: l) : commonPrefix? stem delimiter l = some q := by
  obtain ⟨rest, rfl⟩ := under
  unfold commonPrefix? at h ⊢
  split at h
  · cases h
  · rename_i nonempty
    rw [if_neg nonempty]
    rw [List.drop_left] at h
    obtain ⟨q', later, rfl⟩ := Option.map_eq_some_iff.mp h
    obtain ⟨tail, rfl⟩ := starts
    rw [List.append_assoc, List.drop_left,
      throughFirst?_alike (by simpa using nonempty) later (List.prefix_append ..)]
    rfl

def shownAs (stem delimiter key : List Char) : List Char :=
  (commonPrefix? stem delimiter key).getD key

theorem shownAs_within (under : stem <+: k) : shownAs stem delimiter k <+: k := by
  unfold shownAs
  cases h : commonPrefix? stem delimiter k with
  | none => exact List.prefix_rfl
  | some q => exact (commonPrefix?_within under h).1

theorem shownAs_le (underK : stem <+: k) (underL : stem <+: l) (le : k ≤ l) :
    shownAs stem delimiter k ≤ shownAs stem delimiter l := by
  have below : shownAs stem delimiter k ≤ k := le_of_prefix (shownAs_within underK)
  cases h : commonPrefix? stem delimiter l with
  | none =>
      rw [show shownAs stem delimiter l = l by simp [shownAs, h]]
      exact below.trans le
  | some q =>
      rw [show shownAs stem delimiter l = q by simp [shownAs, h]]
      rcases le_total q k with lower | lower
      · have starts := prefix_of_between lower le (commonPrefix?_within underL h).1
        simp [shownAs, commonPrefix?_alike underL h starts]
      · exact below.trans lower

end Text

section Entries
variable {b : Bucket} {stem delimiter key : String} {v : Version} {e f : Entry}

def nameOf (stem delimiter key : String) : String :=
  String.ofList (shownAs stem.toList delimiter.toList key.toList)

theorem entryOf_eq_some_iff :
    entryOf stem.toList delimiter.toList key v = some e ↔ stem.toList <+: key.toList ∧
      (commonPrefix? stem.toList delimiter.toList key.toList = none ∧ e = .blob key v ∨
        ∃ q, commonPrefix? stem.toList delimiter.toList key.toList = some q ∧
          e = .rolled (String.ofList q)) := by
  unfold entryOf
  rw [← List.isPrefixOf_iff_prefix]
  cases stem.toList.isPrefixOf key.toList with
  | false => simp
  | true =>
      cases commonPrefix? stem.toList delimiter.toList key.toList with
      | none => simp [eq_comm]
      | some q => simp [eq_comm]

theorem exists_entryOf (delimiter : String) (v : Version) (under : stem.toList <+: key.toList) :
    ∃ e, entryOf stem.toList delimiter.toList key v = some e := by
  cases rolled : commonPrefix? stem.toList delimiter.toList key.toList with
  | none => exact ⟨_, entryOf_eq_some_iff.mpr ⟨under, .inl ⟨rolled, rfl⟩⟩⟩
  | some q => exact ⟨_, entryOf_eq_some_iff.mpr ⟨under, .inr ⟨q, rolled, rfl⟩⟩⟩

theorem name_of_entryOf (h : entryOf stem.toList delimiter.toList key v = some e) :
    e.name = nameOf stem delimiter key := by
  obtain ⟨_, ⟨whole, rfl⟩ | ⟨q, rolled, rfl⟩⟩ := entryOf_eq_some_iff.mp h
  · simp [nameOf, shownAs, whole, Entry.name]
  · simp [nameOf, shownAs, rolled, Entry.name]

/-- An entry concerns the keys that it shows. -/
def Entry.shows (key : String) : Entry → Bool
  | .blob k _ => decide (k = key)
  | .rolled name => name.toList.isPrefixOf key.toList

/-- An entry shows the keys under the stem that are shown under its name, and no others. -/
theorem shows_iff {other : String} (h : entryOf stem.toList delimiter.toList key v = some e)
    (under : stem.toList <+: other.toList) :
    e.shows other = true ↔ e.name = nameOf stem delimiter other := by
  obtain ⟨underKey, ⟨whole, rfl⟩ | ⟨q, rolled, rfl⟩⟩ := entryOf_eq_some_iff.mp h
  · simp only [Entry.shows, decide_eq_true_iff, Entry.name]
    constructor
    · rintro rfl
      exact name_of_entryOf h
    · intro same
      cases also : commonPrefix? stem.toList delimiter.toList other.toList with
      | none => simpa [nameOf, shownAs, also] using same
      | some q =>
          have named : key.toList = q := by simpa [nameOf, shownAs, also] using congrArg String.toList same
          rw [← named] at also
          rw [commonPrefix?_alike under also List.prefix_rfl] at whole
          cases whole
  · simp only [Entry.shows, List.isPrefixOf_iff_prefix, String.toList_ofList, Entry.name]
    constructor
    · intro starts
      simp [nameOf, shownAs, commonPrefix?_alike underKey rolled starts]
    · intro same
      have shown : q = shownAs stem.toList delimiter.toList other.toList := by
        simpa [nameOf] using congrArg String.toList same
      rw [shown]
      exact shownAs_within under

theorem entry_unique (tidy : b.Tidy) {k l : String} {v w : Version} (hk : (k, v) ∈ newest b)
    (hl : (l, w) ∈ newest b) (he : entryOf stem.toList delimiter.toList k v = some e)
    (hf : entryOf stem.toList delimiter.toList l w = some f) (same : e.name = f.name) : e = f := by
  obtain ⟨underL, shape⟩ := entryOf_eq_some_iff.mp hf
  have shows := (shows_iff he underL).mpr (same.trans (name_of_entryOf hf))
  obtain ⟨underK, ⟨whole, rfl⟩ | ⟨q, rolled, rfl⟩⟩ := entryOf_eq_some_iff.mp he
  · obtain rfl : k = l := by simpa [Entry.shows] using shows
    rw [mem_newest tidy] at hk hl
    cases hk.symm.trans hl
    exact Option.some.inj (he.symm.trans hf)
  · obtain ⟨also, _⟩ | ⟨q', also, rfl⟩ := shape
    · have starts : q <+: l.toList := by simpa [Entry.shows] using shows
      rw [commonPrefix?_alike underK rolled starts] at also
      cases also
    · exact congrArg Entry.rolled same

theorem mem_withoutRepeats (es : List Entry) : e ∈ withoutRepeats es ↔ e ∈ es := by
  fun_induction withoutRepeats es with
  | case1 => rfl
  | case2 => rfl
  | case3 f rest ih => simp [ih]
  | case4 f g rest differ ih => simp [ih]

theorem ascending_withoutRepeats (es : List Entry) (sorted : es.Pairwise fun e f => e.name ≤ f.name)
    (unique : ∀ e ∈ es, ∀ f ∈ es, e.name = f.name → e = f) :
    (withoutRepeats es).Pairwise fun e f => e.name < f.name := by
  fun_induction withoutRepeats es with
  | case1 => exact .nil
  | case2 e => exact List.pairwise_singleton ..
  | case3 f rest ih =>
      exact ih sorted.tail fun e he g hg => unique e (.tail _ he) g (.tail _ hg)
  | case4 e f rest differ ih =>
      obtain ⟨first, others⟩ := List.pairwise_cons.mp sorted
      refine List.pairwise_cons.mpr
        ⟨fun g hg => ?_, ih others fun e he g hg => unique e (.tail _ he) g (.tail _ hg)⟩
      have listed := (mem_withoutRepeats _).mp hg
      refine lt_of_le_of_ne (first g listed) fun same => differ ?_
      -- `f` stands between two entries of the same name
      have between : f.name ≤ g.name := by
        rcases List.mem_cons.mp listed with rfl | later
        · exact le_rfl
        · exact (List.pairwise_cons.mp others).1 g later
      exact unique e (.head _) f (.tail _ (.head _))
        (le_antisymm (first f (.head _)) (same ▸ between))

theorem compares_name : Sorting.Compares Entry.name fun e f => decide (e.name ≤ f.name) :=
  fun _ _ => decide_eq_true_iff

theorem mem_entries_iff (b : Bucket) (stem delimiter : String) (e : Entry) :
    e ∈ entries b stem delimiter ↔ ∃ key v, (key, v) ∈ newest b ∧
      entryOf stem.toList delimiter.toList key v = some e := by
  unfold entries
  simp only [List.mem_mergeSort, mem_withoutRepeats, List.mem_filterMap, Prod.exists]

/-- What is listed: each key under the stem with its newest version, or rolled up. -/
theorem mem_entries (tidy : b.Tidy) (stem delimiter : String) (e : Entry) :
    e ∈ entries b stem delimiter ↔ ∃ key v, (b.versions key).getLast? = some v ∧
      entryOf stem.toList delimiter.toList key v = some e := by
  rw [mem_entries_iff]
  exact exists_congr fun key => exists_congr fun v => and_congr_left fun _ => mem_newest tidy key v

theorem ascending_entries (tidy : b.Tidy) (stem delimiter : String) :
    (entries b stem delimiter).Pairwise fun e f => e.name < f.name := by
  have keys : ((newest b).mergeSort fun a b => decide (a.1 ≤ b.1)).Pairwise fun a b => a.1 < b.1 :=
    Sorting.pairwise_lt compares_key (distinct_newest tidy)
  have strict := ascending_withoutRepeats
    (((newest b).mergeSort fun a b => decide (a.1 ≤ b.1)).filterMap fun h =>
      entryOf stem.toList delimiter.toList h.1 h.2) ?sorted ?unique
  case sorted =>
    refine keys.filterMap _ fun a a' lt e he f hf => ?_
    rw [name_of_entryOf he, name_of_entryOf hf, String.le_iff_toList_le]
    simp only [nameOf, String.toList_ofList]
    exact shownAs_le (entryOf_eq_some_iff.mp he).1 (entryOf_eq_some_iff.mp hf).1
      (String.le_iff_toList_le.mp (le_of_lt lt))
  case unique =>
    intro e he f hf same
    obtain ⟨⟨k, v⟩, hk, he⟩ := List.mem_filterMap.mp he
    obtain ⟨⟨l, w⟩, hl, hf⟩ := List.mem_filterMap.mp hf
    exact entry_unique tidy (List.mem_mergeSort.mp hk) (List.mem_mergeSort.mp hl) he hf same
  unfold entries
  refine Sorting.pairwise_lt compares_name ?_
  rw [List.Nodup, List.pairwise_map]
  exact strict.imp fun lt => ne_of_lt lt

end Entries

/-- The identifier of a version of a key under the stem. -/
def Listed (stem : Option String) (i : Identifier) : Prop :=
  i.version.isSome = true ∧ (stem.getD "").toList <+: i.key.toList

/-- Whatever page is asked for, its blobs are versions of keys under the stem. -/
theorem listed_of_page {b : Bucket} {request : PageRequest} {pageSize : Option Nat} {t : Target}
    (ht : t ∈ Directory.targets (page b request pageSize)) :
    ∃ i : Identifier, t = i.target ∧ Listed request.stem i := by
  have shown : ∃ here ⊆ entries b (request.stem.getD "") (request.delimiter.getD ""),
      (page b request pageSize).blobs = blobs here := by
    have remaining : afterToken request.token
        (entries b (request.stem.getD "") (request.delimiter.getD "")) ⊆
          entries b (request.stem.getD "") (request.delimiter.getD "") := by
      unfold afterToken
      split
      · exact List.Subset.refl _
      · exact List.filter_subset_self ..
    unfold page
    dsimp only
    split
    · exact ⟨_, List.Subset.trans (List.take_subset ..) remaining, rfl⟩
    · exact ⟨_, remaining, rfl⟩
  obtain ⟨here, sub, told⟩ := shown
  obtain ⟨info, listed, rfl⟩ := List.mem_map.mp ht
  rw [told] at listed
  obtain ⟨e, he, shows⟩ := List.mem_filterMap.mp listed
  obtain ⟨key, v, _, entry⟩ := (mem_entries_iff ..).mp (sub he)
  obtain ⟨under, ⟨_, rfl⟩ | ⟨q, _, rfl⟩⟩ := entryOf_eq_some_iff.mp entry
  · cases shows
    exact ⟨⟨key, v.id⟩, rfl, rfl, under⟩
  · cases shows

end BlobStorage.Memory.Listing
