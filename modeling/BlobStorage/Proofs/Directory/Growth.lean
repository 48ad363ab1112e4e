import BlobStorage.Proofs.Directory.FileTree

/-!
What making directories and creating files does to a file tree that may hold anything. Directories come
only where there was nothing, on the way to where they are wanted, whether all of them can be made or
not; a file is created only where there was nothing. So all that was there stays as it is.
-/
namespace BlobStorage.FileTree

/-- All that is in the first tree is in the second one. -/
structure Grows (t t' : FileTree) : Prop where
  base : t'.base = t.base
  kept : ∀ name node, t.node? name = some node → t'.node? name = some node

instance : Std.Refl Grows := ⟨fun _ => ⟨rfl, fun _ _ => id⟩⟩

instance : IsTrans FileTree Grows :=
  ⟨fun _ _ _ h k => ⟨k.base.trans h.base, fun name node is => k.kept name node (h.kept name node is)⟩⟩

/-- What is new in the second tree are directories at the name or above it. -/
structure Widened (t t' : FileTree) (lead : List String) : Prop where
  base : t'.base = t.base
  nodes : ∀ name, t'.node? name = t.node? name ∨
    t.node? name = none ∧ t'.node? name = some .directory ∧ name <+: lead

/-- The second tree has a new file at the place, and new directories that lead to it. -/
structure Put (t t' : FileTree) (p : Path) (content : Content) : Prop where
  base : t'.base = t.base
  free : t.node? p.segments = none
  here : t'.node? p.segments = some (.file content)
  read : t'.read? p = .ok (some content)
  elsewhere : ∀ name, name ≠ p.segments → t'.node? name = t.node? name ∨
    t.node? name = none ∧ t'.node? name = some .directory ∧ name <+: p.segments.dropLast

variable {t t' t'' : FileTree} {p : Path} {name lead : List String} {content : Content}

section Grows

theorem Grows.walk (h : Grows t t') {here rest : List String} (walked : t.walk here rest = .ok name) :
    t'.walk here rest = .ok name := by
  induction rest generalizing here with
  | nil => exact walked
  | cons segment rest ih =>
      unfold FileTree.walk at walked ⊢
      split at walked
      · rename_i directory
        rw [h.kept _ _ directory]
        dsimp only
        split at walked
        · cases walked
        · rename_i short
          rw [if_neg short]
          split at walked
          · rename_i back
            rw [if_pos back]
            exact ih walked
          · rename_i onward
            rw [if_neg onward]
            exact ih walked
      · cases walked
      · cases walked

theorem Grows.locate (h : Grows t t') (located : t.locate p = .ok name) : t'.locate p = .ok name := by
  rw [locate_eq_ok_iff] at located ⊢
  obtain ⟨clean, short, home, walked⟩ := located
  exact ⟨clean, short, home.trans h.base.symm, h.walk walked⟩

theorem Grows.read? (h : Grows t t') (was : t.read? p = .ok (some content)) :
    t'.read? p = .ok (some content) := by
  obtain ⟨name, located, found⟩ := located_of_read? was
  exact read?_of_file (h.locate located) (h.kept _ _ found)

end Grows

/-! ### Directories -/

section Widening

theorem Widened.refl (t : FileTree) (lead : List String) : Widened t t lead :=
  ⟨rfl, fun _ => .inl rfl⟩

theorem Widened.of_same (base : t'.base = t.base) (same : ∀ name, t'.node? name = t.node? name) :
    Widened t t' lead := ⟨base, fun name => .inl (same name)⟩

theorem Widened.mono (h : Widened t t' lead) {longer : List String} (under : lead <+: longer) :
    Widened t t' longer :=
  ⟨h.base, fun name => (h.nodes name).imp_right fun ⟨free, made, above⟩ =>
    ⟨free, made, above.trans under⟩⟩

theorem Widened.grows (h : Widened t t' lead) : Grows t t' := by
  refine ⟨h.base, fun name node is => ?_⟩
  rcases h.nodes name with same | ⟨free, _⟩
  · exact same.trans is
  · cases free.symm.trans is

theorem Widened.trans (h : Widened t t' lead) (k : Widened t' t'' lead) : Widened t t'' lead := by
  refine ⟨k.base.trans h.base, fun name => ?_⟩
  rcases h.nodes name with same | ⟨free, made, above⟩
  · rw [← same]
    exact k.nodes name
  · exact .inr ⟨free, k.grows.kept _ _ made, above⟩

/-- What is at a place stays as it is while directories are made above the place. -/
theorem Widened.at_place (h : Widened t t' name.dropLast) : t'.node? name = t.node? name := by
  rcases h.nodes name with same | ⟨free, _, above⟩
  · exact same
  · cases name with
    | nil => cases free
    | cons first rest =>
        have longer := above.length_le
        rw [List.length_dropLast, List.length_cons] at longer
        exact absurd longer (Nat.not_succ_le_self _)

/-- Without steps back a walk ends where its segments say. -/
theorem eq_of_walk {here rest : List String} (forward : ".." ∉ rest)
    (walked : t.walk here rest = .ok name) : name = here ++ rest := by
  induction rest generalizing here with
  | nil =>
      cases walked
      exact (List.append_nil _).symm
  | cons segment rest ih =>
      obtain ⟨first, later⟩ := not_or.mp (mt List.mem_cons.mpr forward)
      unfold walk at walked
      split at walked
      · split at walked
        · cases walked
        · rw [if_neg (Ne.symm first)] at walked
          rw [ih later walked, List.append_assoc]
          rfl
      · cases walked
      · cases walked

theorem eq_of_locate (forward : ".." ∉ p.segments) (located : t.locate p = .ok name) :
    name = p.segments :=
  eq_of_walk forward (locate_eq_ok_iff.mp located).2.2.2

theorem vacant_eq_ok (h : t.vacant p = .ok name) : t.locate p = .ok name ∧ t.node? name = none := by
  obtain ⟨place, located, h⟩ := bind_eq_ok_iff.mp h
  split at h
  · cases h
  · rename_i free
    cases h
    exact ⟨located, by simpa using free⟩

theorem widened_makeDirectory (forward : ".." ∉ p.segments) (h : t.makeDirectory p = .ok t') :
    Widened t t' p.segments := by
  unfold makeDirectory at h
  split at h
  · rename_i name vacant
    obtain ⟨located, free⟩ := vacant_eq_ok vacant
    obtain rfl := eq_of_locate forward located
    cases h
    have proper : p.segments ≠ [] := fun none => by
      rw [none] at free
      cases free
    refine ⟨rfl, fun name => ?_⟩
    rw [node?_set t _ proper]
    split
    · rename_i here
      subst here
      exact .inr ⟨free, rfl, List.prefix_rfl⟩
    · exact .inl rfl
  · split at h
    · cases h
      exact .refl t _
    · cases h

theorem widened_settled {made : Except Ambient FileTree}
    (h : ∀ t'', made = .ok t'' → Widened t' t'' lead) (was : Widened t t' lead) :
    Widened t (makeDirectoriesBack.settled made t').2 lead := by
  cases made with
  | ok t'' => exact was.trans (h t'' rfl)
  | error a => exact was

/-- However far making directories gets, by induction on the way back to the first that is there. -/
theorem widened_makeDirectoriesBack (base : String) (back : List String) (forward : ".." ∉ back)
    (t : FileTree) : Widened t (t.makeDirectoriesBack base back).2 back.reverse := by
  have direct (t t' : FileTree) (made : t.makeDirectory ⟨base, back.reverse⟩ = .ok t') :
      Widened t t' back.reverse := widened_makeDirectory (by simpa using forward) made
  induction back generalizing t with
  | nil => exact widened_settled (direct t) (.refl t _)
  | cons last lead ih =>
      have later : ".." ∉ lead := fun h => forward (List.mem_cons_of_mem _ h)
      have parents := ih later t fun t t' => widened_makeDirectory (by simpa using later)
      have parents : Widened t (t.makeDirectoriesBack base lead).2 (last :: lead).reverse :=
        parents.mono (by simp)
      unfold makeDirectoriesBack
      dsimp only
      split
      · split
        · rename_i made
          rw [made] at parents
          exact widened_settled (direct _) parents
        · exact parents
      · exact widened_settled (direct t) (.refl t _)

theorem widened_makeDirectories (forward : ".." ∉ p.segments) (t : FileTree) :
    Widened t (t.makeDirectories p).2 p.segments := by
  have back := widened_makeDirectoriesBack p.base p.segments.reverse (by simpa using forward) t
  rwa [List.reverse_reverse] at back

end Widening

/-! ### Files -/

section Creating

theorem create_eq_ok (forward : ".." ∉ p.segments) (h : t.create p = .ok (t', name)) :
    name = p.segments ∧ t.locate p = .ok p.segments ∧ t.node? p.segments = none ∧
      t' = t.write p.segments [] := by
  obtain ⟨place, vacant, h⟩ := bind_eq_ok_iff.mp h
  obtain ⟨located, free⟩ := vacant_eq_ok vacant
  obtain rfl := eq_of_locate forward located
  cases h
  exact ⟨rfl, located, free, rfl⟩

theorem node?_write (proper : name ≠ []) (t : FileTree) (content : Content) (other : List String) :
    (t.write name content).node? other =
      if name = other then some (.file content) else t.node? other :=
  node?_set t _ proper other

theorem node?_remove (proper : name ≠ []) (t : FileTree) (other : List String) :
    (t.remove name).node? other = if name = other then none else t.node? other := by
  cases other with
  | nil => simp [node?, proper]
  | cons first rest => simp [node?, remove, Table.get?_erase]

theorem ne_nil_of_free (free : t.node? name = none) : name ≠ [] := by
  rintro rfl
  cases free

/-- A file that is removed after it was created has never been there. -/
theorem widened_remove_write (free : t.node? name = none) :
    Widened t ((t.write name content).remove name) lead := by
  have proper := ne_nil_of_free free
  refine .of_same rfl fun other => ?_
  rw [node?_remove proper, node?_write proper]
  split
  · rename_i here
    rw [← here, free]
  · rfl

theorem grows_write (free : t.node? name = none) (content : Content) :
    Grows t (t.write name content) := by
  refine ⟨rfl, fun other node is => ?_⟩
  rw [node?_write (ne_nil_of_free free), if_neg]
  · exact is
  · rintro rfl
    cases free.symm.trans is

/-- A file is put where nothing was, after its directory was made. -/
theorem Widened.put (h : Widened t t' p.segments.dropLast) (located : t'.locate p = .ok p.segments)
    (free : t'.node? p.segments = none) (content : Content) :
    Put t (t'.write p.segments content) p content := by
  have written := node?_write (ne_nil_of_free free) t' content
  have here := (written p.segments).trans (if_pos rfl)
  refine ⟨h.base, h.at_place.symm.trans free, here,
    read?_of_file ((grows_write free content).locate located) here, ?_⟩
  intro name elsewhere
  rw [written, if_neg (Ne.symm elsewhere)]
  exact h.nodes name

section Vacant
variable (vacant : t.vacant p = .ok name)
include vacant

theorem exists?_of_vacant : t.exists? p = .ok false := by
  obtain ⟨located, free⟩ := vacant_eq_ok vacant
  simp [exists?, find?, located, free, bind, Except.bind, pure, Except.pure]

theorem create_of_vacant : t.create p = .ok (t.write name [], name) := by
  unfold create
  rw [vacant]
  rfl

theorem write_of_vacant (content : Content) :
    (t.write name content).read? p = .ok (some content) ∧
      ∀ other, other ≠ name → (t.write name content).node? other = t.node? other := by
  obtain ⟨located, free⟩ := vacant_eq_ok vacant
  have written := node?_write (ne_nil_of_free free) t content
  refine ⟨read?_of_file ((grows_write free content).locate located) ?_, fun other differs => ?_⟩
  · exact (written name).trans (if_pos rfl)
  · exact (written other).trans (if_neg differs.symm)

end Vacant

/-- Where nothing can be created, it is because something is there or nothing can be. -/
theorem create_error (taken : ∀ name, t.vacant p ≠ .ok name) : ∃ e, t.create p = .error e := by
  unfold create
  cases vacant : t.vacant p with
  | ok name => exact absurd vacant (taken name)
  | error e => exact ⟨e, rfl⟩

theorem Put.grows (h : Put t t' p content) : Grows t t' := by
  refine ⟨h.base, fun name node is => ?_⟩
  by_cases here : name = p.segments
  · rw [here, h.free] at is
    cases is
  · rcases h.elsewhere name here with same | ⟨free, _⟩
    · exact same.trans is
    · cases free.symm.trans is

end Creating
end BlobStorage.FileTree
