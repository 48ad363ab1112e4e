import BlobStorage.Proofs.Directory.FileTree

/-!
Filling a place of a file tree with files, one after the other and each with the directories that lead
to it. Where nothing is at the place, and no file is to come below another one, each of the files can
be written whatever was written before it.
-/
namespace BlobStorage.FileTree

/-- Files by their relative names, as they can be in one directory. -/
structure Layout (source : List String → Content → Prop) : Prop where
  some_name : ∀ relative content, source relative content → relative ≠ []
  named : ∀ relative content, source relative content → ∀ segment ∈ relative, IsFileName segment
  unique : ∀ relative content content', source relative content → source relative content' →
    content = content'
  apart : ∀ relative rest content content', source relative content →
    source (relative ++ rest) content' → rest = []

theorem Layout.named_dropLast {source : List String → Content → Prop} (layout : Layout source)
    {relative : List String} {content : Content} (is : source relative content) :
    ∀ segment ∈ relative.dropLast, IsFileName segment :=
  fun segment hs => layout.named relative content is segment (List.dropLast_subset _ hs)

theorem Sound.layout {t : FileTree} (sound : t.Sound) (directory : List String) (deep : Bool) :
    Layout (t.FileBelow directory deep) where
  some_name _ _ below := below.some_name
  named _ _ below := sound.named_below below
  unique _ _ _ below below' := below.content_unique below'
  apart _ _ _ _ below below' := sound.no_file_below below below'

/-- A directory can be made at the place, and there is nothing in it. -/
structure Fresh (t : FileTree) (place : Path) : Prop where
  home : place.base = t.base
  clean : place.hasNull = false
  forward : Forward place.segments
  clear : t.Clear place.segments
  empty : ∀ rest, rest ≠ [] → t.node? (place.segments ++ rest) = none

section Fresh
variable {t : FileTree} {place : Path} (fresh : t.Fresh place) {more : List String}
  (named : ∀ segment ∈ more, IsFileName segment)
include fresh named

theorem Fresh.hasNull : (Path.mk place.base (place.segments ++ more)).hasNull = false := by
  have clean := fresh.clean
  rw [Path.hasNull_eq_false_iff] at clean ⊢
  intro segment hs
  cases List.mem_append.mp hs with
  | inl old => exact clean segment old
  | inr new => exact (named segment new).no_null

theorem Fresh.straight
    (short : (Path.mk place.base (place.segments ++ more)).text.utf8ByteSize < pathLimit) :
    t.Straight ⟨place.base, place.segments ++ more⟩ := by
  refine ⟨fresh.home, fresh.hasNull named, short, fun segment hs => ?_⟩
  cases List.mem_append.mp hs with
  | inl old => exact fresh.forward segment old
  | inr new => exact ⟨(named segment new).ne_back, (named segment new).short⟩

end Fresh

/-- The second tree is the first one with some of the files of a source placed below a directory, and
some of the directories that lead to them. -/
structure Filled (t t' : FileTree) (place : List String) (source placed : List String → Content → Prop) :
    Prop where
  base : t'.base = t.base
  files : ∀ name content, t'.node? name = some (.file content) ↔
    t.node? name = some (.file content) ∨
      ∃ relative, placed relative content ∧ name = place ++ relative
  directories : ∀ name, t'.node? name = some .directory →
    t.node? name = some .directory ∨
      ∃ relative content, source relative content ∧ name <+: place ++ relative.dropLast
  kept : ∀ name, t.node? name = some .directory → t'.node? name = some .directory

section Filled
variable {t t' : FileTree} {place : List String} {source placed : List String → Content → Prop}

theorem Filled.start (t : FileTree) (place : List String) (source : List String → Content → Prop) :
    Filled t t place source fun _ _ => False :=
  ⟨rfl, by simp, fun _ => .inl, fun _ => id⟩

theorem Filled.congr (h : Filled t t' place source placed) {placed' : List String → Content → Prop}
    (same : ∀ relative content, placed' relative content ↔ placed relative content) :
    Filled t t' place source placed' := by
  have eq : placed' = placed := funext fun relative => funext fun content =>
    propext (same relative content)
  exact eq ▸ h

/-- A file is placed where there is nothing. -/
theorem Filled.put (h : Filled t t' place source placed) {relative : List String} (content : Content)
    (some_name : relative ≠ []) (free : t'.node? (place ++ relative) = none) :
    Filled t (t'.write (place ++ relative) content) place source fun relative' content' =>
      placed relative' content' ∨ relative' = relative ∧ content' = content := by
  have written (name : List String) : (t'.write (place ++ relative) content).node? name =
      if place ++ relative = name then some (.file content) else t'.node? name :=
    node?_set t' _ (by simp [some_name]) name
  refine ⟨h.base, fun name content' => ?_, fun name => ?_, fun name => ?_⟩
  · rw [written]
    split
    · rename_i here
      have old : t.node? name ≠ some (.file content') := fun found => by
        have := (h.files name content').mpr (.inl found)
        rw [← here, free] at this
        cases this
      have new : ¬ ∃ relative', placed relative' content' ∧ name = place ++ relative' := fun found => by
        have := (h.files name content').mpr (.inr found)
        rw [← here, free] at this
        cases this
      constructor
      · intro same
        rw [Option.some.injEq, FileNode.file.injEq] at same
        exact .inr ⟨relative, .inr ⟨rfl, same.symm⟩, here.symm⟩
      · rintro (found | ⟨relative', found | ⟨_, rfl⟩, at_name⟩)
        · exact absurd found old
        · exact absurd ⟨relative', found, at_name⟩ new
        · rfl
    · rename_i elsewhere
      rw [h.files]
      refine or_congr_right (exists_congr fun relative' => and_congr_left fun at_name => ?_)
      constructor
      · exact .inl
      · rintro (found | ⟨rfl, _⟩)
        · exact found
        · exact absurd at_name.symm elsewhere
  · rw [written]
    split
    · intro none
      cases none
    · exact h.directories name
  · intro found
    rw [written, if_neg]
    · exact h.kept name found
    · rintro rfl
      rw [h.kept _ found] at free
      cases free

end Filled

section Opening
variable {t t' : FileTree} {place : Path} {source placed : List String → Content → Prop}
  (fresh : t.Fresh place) (layout : Layout source)
  (filled : Filled t t' place.segments source placed)
  (sub : ∀ relative content, placed relative content → source relative content)
  {relative : List String} {content : Content} (wanted : source relative content)
include fresh layout filled sub wanted

/-- What is at a name below the place, or above it, is no file unless it is one that was placed. -/
theorem Filled.placed_of_file {lead : List String} {found : Content}
    (under : lead <+: place.segments ++ relative)
    (is : t'.node? lead = some (.file found)) : lead = place.segments ++ relative ∧
      placed relative found := by
  have old : t.node? lead ≠ some (.file found) := by
    cases List.prefix_or_prefix_of_prefix under (List.prefix_append place.segments relative) with
    | inl above => exact fresh.clear lead above found
    | inr below =>
        obtain ⟨rest, rfl⟩ := below
        cases rest with
        | nil => simpa using fresh.clear _ (List.prefix_refl _) found
        | cons first rest => simp [fresh.empty (first :: rest) (by simp)]
  obtain ⟨other, earlier, rfl⟩ := ((filled.files lead found).mp is).resolve_left old
  obtain ⟨rest, rfl⟩ := (List.prefix_append_right_inj _).mp under
  have whole := layout.apart other rest found content (sub other found earlier) wanted
  subst whole
  simpa using earlier

omit sub in
/-- No directory is where a file belongs: it would lead to another file, which were below this one. -/
theorem Filled.no_directory : t'.node? (place.segments ++ relative) ≠ some .directory := by
  intro is
  cases filled.directories _ is with
  | inl old =>
      rw [fresh.empty _ (layout.some_name relative content wanted)] at old
      cases old
  | inr other =>
      obtain ⟨other, content', wanted', under⟩ := other
      obtain ⟨rest, more⟩ := (List.prefix_append_right_inj _).mp under
      have some_other := layout.some_name other content' wanted'
      have split : other = relative ++ (rest ++ [other.getLast some_other]) := by
        rw [← List.append_assoc, more, List.dropLast_append_getLast]
      rw [split] at wanted'
      have none := layout.apart _ _ _ _ wanted wanted'
      simp at none

/-- The directories that lead to a file can be made, and then there is room for the file. -/
theorem Filled.opened (absent : ∀ found, ¬ placed relative found)
    (straight : t'.Straight ⟨place.base, place.segments ++ relative.dropLast⟩) :
    ∃ t₁, t'.makeDirectories ⟨place.base, place.segments ++ relative.dropLast⟩ = (.ok (), t₁) ∧
      Filled t t₁ place.segments source placed ∧ t₁.Rooted (place.segments ++ relative) ∧
      t₁.node? (place.segments ++ relative) = none := by
  have some_name := layout.some_name relative content wanted
  obtain ⟨lead, last, rfl⟩ : ∃ lead last, relative = lead ++ [last] :=
    ⟨_, _, (List.dropLast_append_getLast some_name).symm⟩
  simp only [List.dropLast_concat] at straight ⊢
  have beyond : ¬ place.segments ++ (lead ++ [last]) <+: place.segments ++ lead := by
    rw [← List.append_assoc]
    exact not_prefix_append_singleton _ _
  have room (name : List String) (under : name <+: place.segments ++ lead) (found : Content) :
      t'.node? name ≠ some (.file found) := fun is => by
    have further : name <+: place.segments ++ (lead ++ [last]) :=
      under.trans (by simp [← List.append_assoc])
    obtain ⟨rfl, _⟩ := filled.placed_of_file fresh layout sub wanted further is
    exact beyond under
  -- No file is on the way, as none is to come below another one.
  obtain ⟨t₁, made, opened⟩ := straight.makeDirectories room
  refine ⟨t₁, made, ⟨opened.base.trans filled.base, ?_, ?_, ?_⟩, ?_, ?_⟩
  · intro name found
    rw [opened.nodes]
    split
    · rename_i under
      rw [← filled.files]
      simp [room name under found]
    · exact filled.files name found
  · intro name
    rw [opened.nodes]
    split
    · rename_i under
      exact fun _ => .inr ⟨_, content, wanted, by simpa using under⟩
    · exact filled.directories name
  · intro name found
    rw [opened.nodes, filled.kept name found]
    simp
  · rw [← List.append_assoc]
    exact opened.rooted last
  · rw [opened.nodes, if_neg beyond]
    cases is : t'.node? (place.segments ++ (lead ++ [last])) with
    | none => rfl
    | some node =>
        cases node with
        | file found =>
            exact absurd
              (filled.placed_of_file fresh layout sub wanted (List.prefix_refl _) is).2
              (absent found)
        | directory => exact absurd is (filled.no_directory fresh layout wanted)

end Opening

/-- The second tree is the first one with these files below a place, and only directories on the way
to it and in it. -/
structure Recreated (t t' : FileTree) (place : List String) (files : List String → Content → Prop) :
    Prop where
  files : ∀ relative content, t'.FileBelow place true relative content ↔ files relative content
  others : ∀ name, ¬ place <+: name → t'.node? name = t.node? name ∨
    name <+: place ∧ t.node? name = none ∧ t'.node? name = some .directory

theorem Filled.recreated {t t' : FileTree} {place : Path}
    {source placed : List String → Content → Prop} (fresh : t.Fresh place) (layout : Layout source)
    (filled : Filled t t' place.segments source placed)
    (sub : ∀ relative content, placed relative content → source relative content) :
    Recreated t t' place.segments placed := by
  constructor
  · intro relative content
    constructor
    · intro below
      have old : t.node? (place.segments ++ relative) ≠ some (.file content) := by
        simp [fresh.empty relative below.some_name]
      obtain ⟨other, found, same⟩ := ((filled.files _ _).mp below.found).resolve_left old
      rwa [List.append_cancel_left same]
    · intro found
      exact ⟨layout.some_name relative content (sub relative content found), .inl rfl,
        (filled.files _ _).mpr (.inr ⟨relative, found, rfl⟩)⟩
  · intro name outside
    have file (content : Content) : t'.node? name = some (.file content) ↔
        t.node? name = some (.file content) := by
      rw [filled.files]
      refine or_iff_left ?_
      rintro ⟨relative, _, rfl⟩
      exact outside (List.prefix_append _ _)
    cases is : t'.node? name with
    | none =>
        left
        cases was : t.node? name with
        | none => rfl
        | some node =>
            cases node with
            | file content => cases is.symm.trans ((file content).mpr was)
            | directory => cases is.symm.trans (filled.kept name was)
    | some node =>
        cases node with
        | file content => exact .inl ((file content).mp is).symm
        | directory =>
            cases was : t.node? name with
            | some node =>
                left
                cases node with
                | file content => cases is.symm.trans ((file content).mpr was)
                | directory => rfl
            | none =>
                right
                have new := (filled.directories name is).resolve_left (by simp [was])
                obtain ⟨relative, _, _, under⟩ := new
                refine ⟨?_, rfl, rfl⟩
                exact (List.prefix_or_prefix_of_prefix under (List.prefix_append _ _)).resolve_right
                  outside

end BlobStorage.FileTree
