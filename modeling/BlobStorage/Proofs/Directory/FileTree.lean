import BlobStorage.Directory.FileTree
import BlobStorage.Proofs.Action
import BlobStorage.Proofs.Directory.Path
import BlobStorage.Proofs.Table
import Mathlib.Data.List.Induction

/-!
File trees by what is found at each place. A path that nowhere leads back is followed as long as it
meets directories, so where it leads depends on nothing but what is above its end. Making a directory
puts one at every place on the way to it and changes no other place.
-/
namespace BlobStorage.FileTree

/-- What an entry of a directory can be called. -/
structure IsFileName (segment : String) : Prop extends Path.IsName segment where
  no_null : '\x00' ∉ segment.toList
  short : segment.utf8ByteSize ≤ nameLimit

/-- Every entry comes once, can be called as it is and stands in a directory. -/
structure Sound (t : FileTree) : Prop where
  distinct : t.entries.Distinct
  named : ∀ name ∈ t.entries.names, ∀ segment ∈ name, IsFileName segment
  rooted : ∀ name ∈ t.entries.names, t.node? name.dropLast = some .directory

/-- A file that is found below a directory under this relative name; directly in it unless `deep`. -/
structure FileBelow (t : FileTree) (directory : List String) (deep : Bool) (relative : List String)
    (content : Content) : Prop where
  some_name : relative ≠ []
  depth : deep = true ∨ relative.length = 1
  found : t.node? (directory ++ relative) = some (.file content)

section Nodes
variable {t : FileTree}

@[simp]
theorem node?_root (t : FileTree) : t.node? [] = some .directory := rfl

theorem node?_of_ne_nil {name : List String} (h : name ≠ []) :
    t.node? name = t.entries.get? name := by
  simp [node?, h]

theorem node?_set (t : FileTree) {name : List String} (node : FileNode) (proper : name ≠ [])
    (other : List String) :
    ({ t with entries := t.entries.set name node } : FileTree).node? other =
      if name = other then some node else t.node? other := by
  cases other with
  | nil => simp [node?, proper]
  | cons first rest => simp [node?, Table.get?_set]

theorem mem_names_of_node? {name : List String} {node : FileNode}
    (h : t.node? name = some node) (proper : name ≠ []) : name ∈ t.entries.names := by
  rw [node?_of_ne_nil proper] at h
  exact List.mem_map_of_mem (f := (·.1)) (Table.mem_of_get? h)

theorem Sound.named_of_node? (sound : t.Sound) {name : List String} {node : FileNode}
    (h : t.node? name = some node) : ∀ segment ∈ name, IsFileName segment := by
  cases name with
  | nil => simp
  | cons first rest => exact sound.named _ (mem_names_of_node? h (by simp))

/-- Every place on the way to an entry is a directory. -/
theorem Sound.above (sound : t.Sound) (lead rest : List String) {node : FileNode}
    (found : t.node? (lead ++ rest) = some node) (some_rest : rest ≠ []) :
    t.node? lead = some .directory := by
  induction rest using List.reverseRecOn generalizing node with
  | nil => exact absurd rfl some_rest
  | append_singleton rest last ih =>
      rw [← List.append_assoc] at found
      have here := sound.rooted _ (mem_names_of_node? found (by simp))
      rw [List.dropLast_concat] at here
      cases rest with
      | nil => simpa using here
      | cons first rest => exact ih here (by simp)

theorem isFile_eq_true_iff {p : Path} :
    t.isFile p = .ok true ↔ ∃ content, t.read? p = .ok (some content) := by
  rw [isFile, bind_eq_ok_iff]
  constructor
  · rintro ⟨_ | content, read, is⟩
    · cases is
    · exact ⟨content, read⟩
  · rintro ⟨content, read⟩
    exact ⟨some content, read, rfl⟩

theorem FileBelow.content_unique {directory relative : List String} {deep deep' : Bool}
    {content content' : Content} (h : t.FileBelow directory deep relative content)
    (h' : t.FileBelow directory deep' relative content') : content = content' := by
  have same := h.found.symm.trans h'.found
  simpa using same

theorem Sound.named_below (sound : t.Sound) {directory relative : List String} {deep : Bool}
    {content : Content} (h : t.FileBelow directory deep relative content) :
    ∀ segment ∈ relative, IsFileName segment :=
  fun segment hs => sound.named_of_node? h.found segment (List.mem_append_right _ hs)

/-- No file is below another one. -/
theorem Sound.no_file_below (sound : t.Sound) {directory relative rest : List String}
    {deep deep' : Bool} {content content' : Content}
    (h : t.FileBelow directory deep relative content)
    (h' : t.FileBelow directory deep' (relative ++ rest) content') : rest = [] := by
  by_contra some_rest
  have found := h'.found
  rw [← List.append_assoc] at found
  have above := sound.above _ _ found some_rest
  rw [h.found] at above
  cases above

theorem mem_filesBelow (sound : t.Sound) (directory : List String) (deep : Bool)
    (relative : List String) :
    relative ∈ t.filesBelow directory deep ↔
      ∃ content, t.FileBelow directory deep relative content := by
  simp only [filesBelow, List.mem_filterMap]
  constructor
  · intro ⟨⟨name, node⟩, listed, chosen⟩
    cases node with
    | directory => simp at chosen
    | file content =>
        simp only [Option.ite_none_right_eq_some, Option.some.injEq, Bool.and_eq_true,
          List.isPrefixOf_iff_prefix, Bool.not_eq_true', List.isEmpty_eq_false_iff,
          Bool.or_eq_true, decide_eq_true_eq] at chosen
        obtain ⟨⟨⟨⟨rest, rfl⟩, some_name⟩, depth⟩, same⟩ := chosen
        rw [List.drop_left] at same some_name depth
        subst same
        refine ⟨content, some_name, depth, ?_⟩
        rw [node?_of_ne_nil (by simp [some_name])]
        exact Table.get?_of_mem sound.distinct listed
  · intro ⟨content, below⟩
    have found := below.found
    rw [node?_of_ne_nil (by simp [below.some_name])] at found
    refine ⟨_, Table.mem_of_get? found, ?_⟩
    simp [below.some_name, below.depth]

/-- The names that are found are names of entries, in their order. -/
theorem filesBelow_sublist (t : FileTree) (directory : List String) (deep : Bool) :
    ((t.filesBelow directory deep).map (directory ++ ·)).Sublist t.entries.names := by
  obtain ⟨base, entries⟩ := t
  simp only [filesBelow, Table.names]
  induction entries with
  | nil => simp
  | cons entry rest ih =>
      obtain ⟨name, node⟩ := entry
      cases node with
      | directory => simpa using ih.cons name
      | file content =>
          simp only [List.filterMap_cons, List.map_cons]
          split
          · exact ih.cons name
          · rename_i relative chosen
            simp only [Option.ite_none_right_eq_some, Option.some.injEq, Bool.and_eq_true,
              List.isPrefixOf_iff_prefix] at chosen
            obtain ⟨⟨⟨⟨more, rfl⟩, _⟩, _⟩, rfl⟩ := chosen
            rw [List.drop_left]
            exact ih.cons_cons _

theorem nodup_filesBelow (sound : t.Sound) (directory : List String) (deep : Bool) :
    (t.filesBelow directory deep).Nodup :=
  (sound.distinct.sublist (filesBelow_sublist t directory deep)).of_map _

end Nodes

section Walking
variable {t : FileTree}

def Forward (segments : List String) : Prop :=
  ∀ segment ∈ segments, segment ≠ ".." ∧ segment.utf8ByteSize ≤ nameLimit

theorem not_prefix_append_singleton (name : List String) (last : String) : ¬ name ++ [last] <+: name := by
  intro under
  have longer := under.length_le
  rw [List.length_append, List.length_singleton] at longer
  omega

/-- Every place above the name is a directory. -/
def Rooted (t : FileTree) (name : List String) : Prop :=
  ∀ lead, lead <+: name → lead ≠ name → t.node? lead = some .directory

def Clear (t : FileTree) (name : List String) : Prop :=
  ∀ lead, lead <+: name → ∀ content, t.node? lead ≠ some (.file content)

theorem walk_append (t : FileTree) (here first second : List String) :
    t.walk here (first ++ second) = (t.walk here first).bind fun place => t.walk place second := by
  induction first generalizing here with
  | nil => rfl
  | cons segment rest ih =>
      simp only [List.cons_append, walk]
      split
      · split
        · rfl
        · split
          · exact ih _
          · exact ih _
      · rfl
      · rfl

theorem walk_ok (here rest : List String) (forward : Forward rest)
    (directories : ∀ lead, lead <+: rest → lead ≠ rest →
      t.node? (here ++ lead) = some .directory) : t.walk here rest = .ok (here ++ rest) := by
  induction rest generalizing here with
  | nil => simp [walk]
  | cons segment rest ih =>
      have start := directories [] (List.nil_prefix) (by simp)
      rw [List.append_nil] at start
      obtain ⟨first, later⟩ := List.forall_mem_cons.mp forward
      have onward := ih (here ++ [segment]) later fun lead under short => by
        have := directories (segment :: lead) (by simpa using under) (by simpa using short)
        simpa using this
      simp only [walk, start, if_neg (Nat.not_lt.mpr first.2), if_neg first.1, onward]
      simp

/-- A walk that meets no file ends where the first directory is missing. -/
theorem walk_missing (here rest : List String) (forward : Forward rest)
    (clear : ∀ lead, lead <+: rest → lead ≠ rest → ∀ content,
      t.node? (here ++ lead) ≠ some (.file content))
    (gap : ∃ lead, lead <+: rest ∧ lead ≠ rest ∧ t.node? (here ++ lead) ≠ some .directory) :
    t.walk here rest = .error .missing := by
  induction rest generalizing here with
  | nil =>
      obtain ⟨lead, under, short, _⟩ := gap
      exact absurd (List.prefix_nil.mp under) short
  | cons segment rest ih =>
      obtain ⟨first, later⟩ := List.forall_mem_cons.mp forward
      have start := clear [] List.nil_prefix (by simp)
      rw [List.append_nil] at start
      cases found : t.node? here with
      | none => simp only [walk, found]
      | some node =>
          cases node with
          | file content => exact absurd found (start content)
          | directory =>
              simp only [walk, found, if_neg (Nat.not_lt.mpr first.2), if_neg first.1]
              refine ih (here ++ [segment]) later ?_ ?_
              · intro lead under short
                have := clear (segment :: lead) (by simpa using under) (by simpa using short)
                simpa using this
              · obtain ⟨lead, under, short, missing⟩ := gap
                cases lead with
                | nil => exact absurd (by simpa using found) missing
                | cons s lead =>
                    obtain ⟨rfl, onward⟩ := List.cons_prefix_cons.mp under
                    exact ⟨lead, onward, by simpa using short, by simpa using missing⟩

/-- The tree can follow the path as it is written. -/
structure Straight (t : FileTree) (p : Path) : Prop where
  base : p.base = t.base
  clean : p.hasNull = false
  short : p.text.utf8ByteSize < pathLimit
  forward : Forward p.segments

variable {p : Path}

theorem Straight.of_base {t' : FileTree} (h : t.Straight p) (same : t'.base = t.base) :
    t'.Straight p :=
  ⟨h.base.trans same.symm, h.clean, h.short, h.forward⟩

theorem Straight.lead {base : String} {lead rest : List String}
    (h : t.Straight ⟨base, lead ++ rest⟩) : t.Straight ⟨base, lead⟩ := by
  refine ⟨h.base, ?_, ?_, ?_⟩
  · rw [Path.hasNull_eq_false_iff]
    exact fun segment hs =>
      (Path.hasNull_eq_false_iff _).mp h.clean segment (List.mem_append_left _ hs)
  · exact Nat.lt_of_le_of_lt (Path.utf8ByteSize_text_le base lead rest) h.short
  · exact fun segment hs => h.forward segment (List.mem_append_left _ hs)

theorem Straight.locate (h : t.Straight p) :
    t.locate p = (t.walk [] p.segments).mapError (Ambient.file · p.text) := by
  simp [FileTree.locate, h.base, h.clean, Nat.not_le.mpr h.short]

theorem Straight.locate_ok (h : t.Straight p) (rooted : t.Rooted p.segments) :
    t.locate p = .ok p.segments := by
  rw [h.locate, walk_ok [] p.segments h.forward rooted]
  rfl

theorem Straight.locate_missing (h : t.Straight p) (clear : t.Clear p.segments)
    (gap : ¬ t.Rooted p.segments) : t.locate p = .error (.file .missing p.text) := by
  have found : ∃ lead, lead <+: p.segments ∧ lead ≠ p.segments ∧
      t.node? ([] ++ lead) ≠ some .directory := by
    simpa [Rooted, not_forall] using gap
  rw [h.locate, walk_missing [] p.segments h.forward (fun lead under _ => clear lead under) found]
  rfl

theorem locate_eq_ok_iff {name : List String} :
    t.locate p = .ok name ↔ p.hasNull = false ∧ p.text.utf8ByteSize < pathLimit ∧
      p.base = t.base ∧ t.walk [] p.segments = .ok name := by
  unfold FileTree.locate
  by_cases null : p.hasNull = true
  · simp [null]
  · by_cases long : pathLimit ≤ p.text.utf8ByteSize
    · simp [null, long, Nat.not_lt.mpr long, Except.mapError]
    · by_cases home : p.base = t.base
      · cases t.walk [] p.segments <;> simp [null, long, home, Except.mapError, Nat.not_le.mp long]
      · simp [null, long, home, Except.mapError]

theorem located_of_find? {node : FileNode} (h : t.find? p = .ok (some node)) :
    ∃ name, t.locate p = .ok name ∧ t.node? name = some node := by
  unfold find? at h
  split at h
  · rename_i name located
    exact ⟨name, located, Except.ok.inj h⟩
  · cases h
  · cases h

theorem located_of_directory? {name : List String} (h : t.directory? p = .ok (some name)) :
    t.locate p = .ok name ∧ t.node? name = some .directory := by
  obtain ⟨found, leads, h⟩ := bind_eq_ok_iff.mp h
  split at h
  · obtain ⟨place, located, there⟩ := located_of_find? leads
    rw [located] at h
    cases h
    exact ⟨located, there⟩
  · cases h

theorem located_of_read? {content : Content} (h : t.read? p = .ok (some content)) :
    ∃ name, t.locate p = .ok name ∧ t.node? name = some (.file content) := by
  obtain ⟨found, leads, h⟩ := bind_eq_ok_iff.mp h
  split at h
  · cases h
    exact located_of_find? leads
  · cases h

theorem locate_tooLong (clean : p.hasNull = false) (long : pathLimit ≤ p.text.utf8ByteSize) :
    t.locate p = .error (.file .nameTooLong p.text) := by
  simp [FileTree.locate, clean, long, Except.mapError]

theorem read?_of_file {name : List String} {content : Content} (located : t.locate p = .ok name)
    (found : t.node? name = some (.file content)) : t.read? p = .ok (some content) := by
  simp [read?, find?, located, found, bind, Except.bind, pure, Except.pure]

theorem Sound.read?_below (sound : t.Sound) {directory relative : List String} {deep : Bool}
    {content : Content} (leads : t.directory? p = .ok (some directory))
    (below : t.FileBelow directory deep relative content)
    (short : (Path.mk p.base (p.segments ++ relative)).text.utf8ByteSize < pathLimit) :
    t.read? ⟨p.base, p.segments ++ relative⟩ = .ok (some content) := by
  obtain ⟨clean, _, home, walked⟩ := locate_eq_ok_iff.mp (located_of_directory? leads).1
  have named := sound.named_below below
  have onward : t.walk directory relative = .ok (directory ++ relative) := by
    refine walk_ok directory relative ?_ ?_
    · exact fun segment hs => ⟨(named segment hs).ne_back, (named segment hs).short⟩
    · rintro lead ⟨rest, rfl⟩ differ
      have found := below.found
      rw [← List.append_assoc] at found
      exact sound.above _ rest found (by simpa using differ)
  refine read?_of_file (locate_eq_ok_iff.mpr ⟨?_, short, home, ?_⟩) below.found
  · rw [Path.hasNull_eq_false_iff] at clean ⊢
    intro segment hs
    cases List.mem_append.mp hs with
    | inl old => exact clean segment old
    | inr new => exact (named segment new).no_null
  · rw [walk_append, walked]
    exact onward

end Walking

section Making
variable {t : FileTree} {p : Path}

/-- The second tree is the first one with directories at the name and everywhere above it. -/
structure Opened (t t' : FileTree) (name : List String) : Prop where
  base : t'.base = t.base
  nodes : ∀ other, t'.node? other = if other <+: name then some .directory else t.node? other

theorem Opened.rooted {t' : FileTree} {name : List String} (h : Opened t t' name)
    (last : String) : t'.Rooted (name ++ [last]) := by
  intro lead under short
  rw [h.nodes, if_pos]
  exact (List.prefix_concat_iff.mp under).resolve_left short

/-- A directory can be made where all that is above it are directories. -/
theorem Straight.makeDirectory (h : t.Straight p) (rooted : t.Rooted p.segments)
    (free : ∀ content, t.node? p.segments ≠ some (.file content)) :
    ∃ t', t.makeDirectory p = .ok t' ∧ Opened t t' p.segments := by
  have located := h.locate_ok rooted
  have above (t' : FileTree) (same : t'.node? p.segments = some .directory)
      (others : ∀ other, other ≠ p.segments → t'.node? other = t.node? other) :
      ∀ other, t'.node? other = if other <+: p.segments then some .directory
        else t.node? other := by
    intro other
    by_cases whole : other = p.segments
    · simp [whole, same]
    · split
      · rename_i under
        rw [others other whole, rooted other under whole]
      · exact others other whole
  cases found : t.node? p.segments with
  | none =>
      have some_name : p.segments ≠ [] := by
        intro none
        simp [none] at found
      refine ⟨{ t with entries := t.entries.set p.segments .directory }, ?_, rfl, above _ ?_ ?_⟩
      · simp [FileTree.makeDirectory, vacant, located, found, bind, Except.bind]
      · simp [node?_set _ _ some_name]
      · intro other differ
        simp [node?_set _ _ some_name, Ne.symm differ]
  | some node =>
      cases node with
      | file content => exact absurd found (free content)
      | directory =>
          refine ⟨t, ?_, rfl, above t found fun _ _ => rfl⟩
          simp [FileTree.makeDirectory, vacant, directory?, find?, located, found, bind,
            Except.bind, pure, Except.pure, Except.toOption]

theorem Straight.makeDirectory_missing (h : t.Straight p) (clear : t.Clear p.segments)
    (gap : ¬ t.Rooted p.segments) : t.makeDirectory p = .error (.file .missing p.text) := by
  simp [FileTree.makeDirectory, vacant, directory?, find?, h.locate_missing clear gap, bind,
    Except.bind, pure, Except.pure]

/-- Where no file is in the way, a directory is made with all that is above it. -/
theorem Straight.makeDirectories (h : t.Straight p) (clear : t.Clear p.segments) :
    ∃ t', t.makeDirectories p = (.ok (), t') ∧ Opened t t' p.segments := by
  -- The parents are made from the last one back, so the induction is on the segments in that order.
  suffices back : ∀ reversed, t.Straight ⟨p.base, reversed.reverse⟩ → t.Clear reversed.reverse →
      ∃ t', t.makeDirectoriesBack p.base reversed = (.ok (), t') ∧
        Opened t t' reversed.reverse by
    have := back p.segments.reverse (by simpa using h) (by simpa using clear)
    simpa [FileTree.makeDirectories] using this
  intro reversed
  induction reversed with
  | nil =>
      intro straight _
      obtain ⟨t', made, opened⟩ := straight.makeDirectory (by simp [Rooted]) (by simp)
      refine ⟨t', ?_, opened⟩
      rw [List.reverse_nil] at made
      simp only [makeDirectoriesBack, made, makeDirectoriesBack.settled]
  | cons last lead ih =>
      intro straight clear
      by_cases rooted : t.Rooted (last :: lead).reverse
      · obtain ⟨t', made, opened⟩ :=
          straight.makeDirectory rooted (clear _ (List.prefix_refl _))
        refine ⟨t', ?_, opened⟩
        simp only [makeDirectoriesBack, made, makeDirectoriesBack.settled]
      · -- The first attempt fails for want of a parent, and the second one after the parents are made.
        have missing := straight.makeDirectory_missing clear rooted
        simp only [List.reverse_cons] at straight clear missing ⊢
        obtain ⟨t₁, parents, made⟩ := ih straight.lead fun other under =>
          clear other (under.trans (List.prefix_append _ _))
        obtain ⟨t', last_made, opened⟩ := (straight.of_base made.base).makeDirectory
          (made.rooted last) fun content found => by
            have same := made.nodes (lead.reverse ++ [last])
            rw [if_neg (not_prefix_append_singleton _ _)] at same
            exact clear _ (List.prefix_refl _) content (same.symm.trans found)
        refine ⟨t', ?_, opened.base.trans made.base, fun other => ?_⟩
        · simp only [makeDirectoriesBack, List.reverse_cons, missing, parents, last_made,
            makeDirectoriesBack.settled]
        · rw [opened.nodes, made.nodes]
          by_cases whole : other <+: lead.reverse ++ [last]
          · simp [whole]
          · rw [if_neg whole, if_neg whole, if_neg]
            exact fun under => whole (under.trans (List.prefix_append _ _))

theorem makeDirectories_tooLong (clean : p.hasNull = false)
    (long : pathLimit ≤ p.text.utf8ByteSize) :
    t.makeDirectories p = (.error (.file .nameTooLong p.text), t) := by
  have located := locate_tooLong (t := t) clean long
  have made : t.makeDirectory p = .error (.file .nameTooLong p.text) := by
    simp [makeDirectory, vacant, directory?, find?, located, bind, Except.bind]
  obtain ⟨base, segments⟩ := p
  cases back : segments.reverse with
  | nil =>
      rw [List.reverse_eq_nil_iff] at back
      subst back
      simp [FileTree.makeDirectories, makeDirectoriesBack, made, makeDirectoriesBack.settled]
  | cons last lead =>
      have forth := congrArg List.reverse back
      rw [List.reverse_reverse] at forth
      subst forth
      simp only [FileTree.makeDirectories, List.reverse_reverse, makeDirectoriesBack, made,
        makeDirectoriesBack.settled]

/-- There is room for a file where its directory is there and nothing is in its place. -/
theorem Straight.vacant (h : t.Straight p) (rooted : t.Rooted p.segments)
    (free : t.node? p.segments = none) : t.vacant p = .ok p.segments := by
  simp [FileTree.vacant, h.locate_ok rooted, free, bind, Except.bind]

theorem exists?_tooLong (clean : p.hasNull = false) (long : pathLimit ≤ p.text.utf8ByteSize) :
    t.exists? p = .error (.file .nameTooLong p.text) := by
  simp [exists?, find?, locate_tooLong clean long, bind, Except.bind]

theorem write_write (t : FileTree) (name : List String) (first second : Content) :
    (t.write name first).write name second = t.write name second := by
  simp [write, Table.set_set]

end Making
end BlobStorage.FileTree
