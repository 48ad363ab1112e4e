import BlobStorage.Proofs.Settings.Coercion
import BlobStorage.Value.Access
import Mathlib.Data.List.Forall2
import Mathlib.Data.List.Induction

/-!
Properties, which are texts under names. They are given as a table or as items that are pairs, of which a
table is made first: a name that comes again keeps its place and gets the later value. Only then are the
names and values of the table read as texts, and a text that comes again is treated in the same way.
-/
namespace BlobStorage
open Settings

section Collecting
variable {κ ν : Type}

/-- A value is set under a name: in its place where the name is there, or else at the end. -/
inductive Assigned (same : κ → κ → Prop) (name : κ) (v : ν) : List (κ × ν) → List (κ × ν) → Prop
  | replaced (before : List (κ × ν)) {after : List (κ × ν)} {k : κ} {w : ν}
      (first : ∀ p ∈ before, ¬ same p.1 name) (found : same k name) :
      Assigned same name v (before ++ (k, w) :: after) (before ++ (k, v) :: after)
  | added {entries : List (κ × ν)} (new : ∀ p ∈ entries, ¬ same p.1 name) :
      Assigned same name v entries (entries ++ [(name, v)])

/-- What comes of setting pairs one after the other. -/
inductive Collects (same : κ → κ → Prop) : List (κ × ν) → List (κ × ν) → Prop
  | nil : Collects same [] []
  | snoc {pairs entries entries' : List (κ × ν)} {name : κ} {v : ν} (sofar : Collects same pairs entries)
      (assigned : Assigned same name v entries entries') : Collects same (pairs ++ [(name, v)]) entries'

variable {same : κ → κ → Prop} {name : κ} {v : ν}

theorem Assigned.cons {k : κ} {w : ν} {entries entries' : List (κ × ν)} (other : ¬ same k name)
    (assigned : Assigned same name v entries entries') :
    Assigned same name v ((k, w) :: entries) ((k, w) :: entries') := by
  cases assigned with
  | replaced before first found =>
      exact .replaced ((k, w) :: before) (List.forall_mem_cons.mpr ⟨other, first⟩) found
  | added new => exact .added (List.forall_mem_cons.mpr ⟨other, new⟩)

/-- A function that looks at one entry after the other sets a value as it should. -/
theorem eq_iff_assigned (put : List (κ × ν) → List (κ × ν)) (nil : put [] = [(name, v)])
    (here : ∀ k w rest, same k name → put ((k, w) :: rest) = (k, v) :: rest)
    (there : ∀ k w rest, ¬ same k name → put ((k, w) :: rest) = (k, w) :: put rest)
    {entries entries' : List (κ × ν)} : put entries = entries' ↔ Assigned same name v entries entries' := by
  have assigns (entries : List (κ × ν)) : Assigned same name v entries (put entries) := by
    induction entries with
    | nil =>
        rw [nil]
        exact .added nofun
    | cons entry rest ih =>
        obtain ⟨k, w⟩ := entry
        by_cases found : same k name
        · rw [here k w rest found]
          exact .replaced [] nofun found
        · rw [there k w rest found]
          exact ih.cons found
  have past {before : List (κ × ν)} (first : ∀ p ∈ before, ¬ same p.1 name) (rest : List (κ × ν)) :
      put (before ++ rest) = before ++ put rest := by
    induction before with
    | nil => rfl
    | cons entry before ih =>
        obtain ⟨own, first⟩ := List.forall_mem_cons.mp first
        rw [List.cons_append, there _ _ _ own, ih first, List.cons_append]
  constructor
  · rintro rfl
    exact assigns entries
  · intro assigned
    cases assigned with
    | replaced before first found => rw [past first, here _ _ _ found]
    | added new =>
        have all := past new []
        rwa [List.append_nil, nil] at all

theorem foldl_eq_iff_collects {put : List (κ × ν) → κ × ν → List (κ × ν)}
    (puts : ∀ entries name v entries', put entries (name, v) = entries' ↔
      Assigned same name v entries entries') {pairs entries : List (κ × ν)} :
    pairs.foldl put [] = entries ↔ Collects same pairs entries := by
  induction pairs using List.reverseRecOn generalizing entries with
  | nil =>
      constructor
      · rintro rfl
        exact .nil
      · generalize none : ([] : List (κ × ν)) = pairs
        rintro (_ | _)
        · exact none
        · simp at none
  | append_singleton pairs pair ih =>
      obtain ⟨name, v⟩ := pair
      rw [List.foldl_append, List.foldl_cons, List.foldl_nil, puts]
      constructor
      · exact fun assigned => .snoc (ih.mp rfl) assigned
      · generalize all : pairs ++ [(name, v)] = pairs'
        rintro (_ | ⟨sofar, assigned⟩)
        · simp at all
        · obtain ⟨rfl, last⟩ := List.append_inj' all rfl
          cases last
          rwa [ih.mpr sofar]

end Collecting

/-- The number that a value counts as. -/
inductive Counts : Value → ℚ → Prop
  | flag (b : Bool) : Counts (.flag b) (if b then 1 else 0)
  | whole (n : Int) : Counts (.whole n) n
  | real {x : Binary64} {q : ℚ} (is : x.Stands q) : Counts (.real x) q

/-- Two names are one and the same, numbers by their value. -/
inductive SameName : Value → Value → Prop
  | null : SameName .null .null
  | text (s : String) : SameName (.text s) (.text s)
  | choice (t t' s : String) : SameName (.choice t s) (.choice t' s)
  | moment {m m' : Moment} (at_once : m.universal = m'.universal) : SameName (.moment m) (.moment m')
  | duration (d : Duration) : SameName (.duration d) (.duration d)
  | bytes (content : Content) : SameName (.bytes content) (.bytes content)
  | number {a b : Value} {q : ℚ} (left : Counts a q) (right : Counts b q) : SameName a b

/-- The items of a value, one after the other. -/
inductive Iterates : Value → List Value → Prop
  | list (items : List Value) : Iterates (.list items) items
  | table (entries : List (Value × Value)) : Iterates (.table entries) (entries.map Prod.fst)
  | text (s : String) : Iterates (.text s) (s.toList.map fun c => .text c.toString)
  | bytes (content : Content) : Iterates (.bytes content) (content.map fun b => .whole b.toNat)
  | record (t : String) (fields : List (String × Value)) :
      Iterates (.record t fields) (fields.map fun (name, v) => .list [.text name, v])

/-- An item is a name, which cannot change, and its value. -/
structure IsPair (item : Value) (pair : Value × Value) : Prop where
  two : Iterates item [pair.1, pair.2]
  list : ∀ items, pair.1 ≠ .list items
  table : ∀ entries, pair.1 ≠ .table entries

/-- The table that a value is, or that its items make when they are pairs. -/
inductive ToTable : Value → List (Value × Value) → Prop
  | table (entries : List (Value × Value)) : ToTable (.table entries) entries
  | pairs {v : Value} {items : List Value} {pairs entries : List (Value × Value)}
      (other : ∀ entries, v ≠ .table entries) (iterates : Iterates v items)
      (each : List.Forall₂ IsPair items pairs) (collects : Collects SameName pairs entries) :
      ToTable v entries

inductive ToTexts : Value → Table String String → Prop
  | texts {v : Value} {entries : List (Value × Value)} {named t : Table String String}
      (table : ToTable v entries)
      (each : List.Forall₂ (fun p q => ToText p.1 q.1 ∧ ToText p.2 q.2) entries named)
      (collects : Collects (· = ·) named t) : ToTexts v t

section Names
variable {a b : Value} {q : ℚ}

theorem counts_iff : Counts a q ↔
    ∃ num den, a.quotient? = some (num, den) ∧ 0 < den ∧ (num : ℚ) / den = q := by
  constructor
  · rintro (b | n | is)
    · exact ⟨_, 1, rfl, Nat.one_pos, by cases b <;> simp⟩
    · exact ⟨n, 1, rfl, Nat.one_pos, by simp⟩
    · obtain ⟨negative, m, e, rfl, rfl⟩ := is
      exact ⟨_, _, rfl, Binary64.magnitude_pos m e, (Binary64.exact_eq negative m e).symm⟩
  · rintro ⟨num, den, counted, -, rfl⟩
    unfold Value.quotient? at counted
    split at counted <;> cases counted
    · rename_i b
      convert Counts.flag b
      cases b <;> simp
    · convert Counts.whole num
      simp
    · rename_i negative m e
      exact .real ⟨negative, m, e, rfl, Binary64.exact_eq negative m e⟩

theorem quotients_eq_iff {m n : Int} {d e : Nat} (pos : 0 < d) (pos' : 0 < e) :
    m * Int.ofNat e = n * Int.ofNat d ↔ (m : ℚ) / d = n / e := by
  rw [div_eq_div_iff (Nat.cast_ne_zero.mpr pos.ne') (Nat.cast_ne_zero.mpr pos'.ne')]
  exact_mod_cast Iff.rfl

theorem quotient?_pos {num : Int} {den : Nat} (counted : a.quotient? = some (num, den)) : 0 < den := by
  unfold Value.quotient? at counted
  split at counted <;> cases counted
  · exact Nat.one_pos
  · exact Nat.one_pos
  · exact Binary64.magnitude_pos _ _

theorem isSameName_eq_true_iff : Value.isSameName a b = true ↔ SameName a b := by
  constructor
  · intro same
    unfold Value.isSameName at same
    split at same
    · exact .null
    · cases of_decide_eq_true same
      exact .text _
    · cases of_decide_eq_true same
      exact .choice _ _ _
    · exact .moment (of_decide_eq_true same)
    · cases of_decide_eq_true same
      exact .duration _
    · cases of_decide_eq_true same
      exact .bytes _
    · split at same
      · rename_i m d n e left right
        have pos := quotient?_pos left
        have pos' := quotient?_pos right
        exact .number (counts_iff.mpr ⟨m, d, left, pos, rfl⟩) <| counts_iff.mpr
          ⟨n, e, right, pos', ((quotients_eq_iff pos pos').mp (of_decide_eq_true same)).symm⟩
      · cases same
  · rintro (_ | _ | _ | at_once | _ | _ | ⟨left, right⟩)
    · rfl
    · exact decide_eq_true rfl
    · exact decide_eq_true rfl
    · exact decide_eq_true at_once
    · exact decide_eq_true rfl
    · exact decide_eq_true rfl
    · obtain ⟨m, d, counted, pos, is⟩ := counts_iff.mp left
      obtain ⟨n, e, counted', pos', is'⟩ := counts_iff.mp right
      -- what counts as a number is none of the other values
      unfold Value.isSameName
      split
      all_goals first
        | cases counted
        | rw [counted, counted']
          exact decide_eq_true ((quotients_eq_iff pos pos').mpr (is.trans is'.symm))

theorem items_eq_ok_iff {items : List Value} : a.items = .ok items ↔ Iterates a items := by
  constructor
  · intro has
    unfold Value.items at has
    split at has <;> cases has
    · exact .list _
    · exact .table _
    · exact .text _
    · exact .bytes _
    · exact .record _ _
  · rintro (_ | _ | _ | _ | _) <;> rfl

theorem checkName_eq_ok_iff : a.checkName = .ok () ↔
    (∀ items, a ≠ .list items) ∧ ∀ entries, a ≠ .table entries := by
  cases a <;> simp [Value.checkName]

theorem insert_eq_iff (entries : List (Value × Value)) (name v : Value) (entries' : List (Value × Value)) :
    Value.insert entries name v = entries' ↔ Assigned SameName name v entries entries' := by
  refine eq_iff_assigned (Value.insert · name v) rfl (fun k w rest same => ?_) (fun k w rest other => ?_)
  · exact if_pos (isSameName_eq_true_iff.mpr same)
  · exact if_neg (mt isSameName_eq_true_iff.mp other)

/-- Items are added just if each is a pair, whatever its index. -/
theorem insertPairs_eq_ok_iff {index : Nat} {entries entries' : List (Value × Value)}
    {items : List Value} : Value.insertPairs index entries items = .ok entries' ↔
      ∃ pairs, List.Forall₂ IsPair items pairs ∧
        pairs.foldl (fun t pair => Value.insert t pair.1 pair.2) entries = entries' := by
  induction items generalizing index entries with
  | nil =>
      rw [Value.insertPairs, Except.ok.injEq]
      constructor
      · rintro rfl
        exact ⟨[], .nil, rfl⟩
      · rintro ⟨_, ⟨⟩, same⟩
        exact same
  | cons item rest ih =>
      constructor
      · intro added
        rw [Value.insertPairs] at added
        split at added
        · cases added
        · rename_i name v two
          obtain ⟨_, named, added⟩ := bind_eq_ok_iff.mp added
          obtain ⟨list, table⟩ := checkName_eq_ok_iff.mp named
          obtain ⟨pairs, each, same⟩ := ih.mp added
          exact ⟨(name, v) :: pairs, .cons ⟨items_eq_ok_iff.mp two, list, table⟩ each, same⟩
        · cases added
      · rintro ⟨_, _ | ⟨pair, each⟩, same⟩
        rw [Value.insertPairs, items_eq_ok_iff.mpr pair.two]
        dsimp only
        exact bind_eq_ok_iff.mpr
          ⟨(), checkName_eq_ok_iff.mpr ⟨pair.list, pair.table⟩, ih.mpr ⟨_, each, same⟩⟩

theorem entries_eq_ok_iff {entries : List (Value × Value)} :
    a.entries = .ok entries ↔ ToTable a entries := by
  have made {items : List Value} : Value.insertPairs 0 [] items = .ok entries ↔
      ∃ pairs, List.Forall₂ IsPair items pairs ∧ Collects SameName pairs entries := by
    rw [insertPairs_eq_ok_iff]
    exact exists_congr fun _ => and_congr_right' (foldl_eq_iff_collects insert_eq_iff)
  unfold Value.entries
  split
  · rename_i own
    constructor
    · rintro ⟨⟩
      exact .table _
    · rintro (_ | ⟨other⟩)
      · rfl
      · exact absurd rfl (other own)
  · rename_i other
    rw [bind_eq_ok_iff]
    constructor
    · rintro ⟨items, has, added⟩
      obtain ⟨pairs, each, collects⟩ := made.mp added
      exact .pairs other (items_eq_ok_iff.mp has) each collects
    · rintro (_ | ⟨-, iterates, each, collects⟩)
      · exact absurd rfl (other _)
      · exact ⟨_, items_eq_ok_iff.mpr iterates, made.mpr ⟨_, each, collects⟩⟩

end Names

section Texts
variable {entries : List (Value × Value)} {named t : Table String String}

theorem ofPairs_eq_iff : Table.ofPairs named = t ↔ Collects (· = ·) named t :=
  foldl_eq_iff_collects fun _ _ _ _ =>
    eq_iff_assigned (Table.set · _ _) rfl (fun _ _ _ same => if_pos same) (fun _ _ _ other => if_neg other)

theorem textEntries_eq_ok_iff : textEntries entries = .ok named ↔
    List.Forall₂ (fun p q => ToText p.1 q.1 ∧ ToText p.2 q.2) entries named := by
  induction entries generalizing named with
  | nil =>
      rw [textEntries, Except.ok.injEq]
      constructor
      · rintro rfl
        exact .nil
      · rintro ⟨⟩
        rfl
  | cons entry rest ih =>
      obtain ⟨name, v⟩ := entry
      rw [textEntries, bind_eq_ok_iff]
      simp only [both_eq_ok_iff, under_eq_ok_iff, text_eq_ok_iff, ih]
      constructor
      · rintro ⟨⟨⟨s, s'⟩, more⟩, ⟨⟨own, own'⟩, each⟩, ⟨⟩⟩
        exact .cons ⟨own, own'⟩ each
      · rintro (_ | @⟨_, pair, _, more, ⟨own, own'⟩, each⟩)
        exact ⟨(pair, more), ⟨⟨own, own'⟩, each⟩, rfl⟩

/-- What is kept of properties is read as what they are given for. -/
theorem texts_eq_ok_iff {v : Value} : (∃ entries, v.entries = .ok entries ∧
    texts (.table entries) = .ok t) ↔ ToTexts v t := by
  have read {entries : List (Value × Value)} : texts (.table entries) = .ok t ↔
      ∃ named, textEntries entries = .ok named ∧ Table.ofPairs named = t := map_eq_ok_iff
  simp only [read, textEntries_eq_ok_iff, entries_eq_ok_iff, ofPairs_eq_iff]
  constructor
  · rintro ⟨entries, table, named, each, collects⟩
    exact .texts table each collects
  · rintro ⟨table, each, collects⟩
    exact ⟨_, table, _, each, collects⟩

end Texts
end BlobStorage
