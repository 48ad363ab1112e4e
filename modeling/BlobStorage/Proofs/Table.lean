import BlobStorage.Table
import Mathlib.Data.List.Nodup

/-!
What reading, setting and erasing mean for tables. A table whose names do not repeat is the same as
the function that reads it, and setting and erasing keep the names from repeating.
-/
namespace BlobStorage.Table
variable {κ ν : Type} [DecidableEq κ]

@[simp] theorem get?_nil (name : κ) : get? ([] : Table κ ν) name = none := rfl

theorem get?_cons (k name : κ) (v : ν) (t : Table κ ν) :
    get? ((k, v) :: t) name = if k = name then some v else get? t name := rfl

theorem get?_set (t : Table κ ν) (name other : κ) (value : ν) :
    (set t name value).get? other = if name = other then some value else t.get? other := by
  induction t with
  | nil => rfl
  | cons entry t ih =>
      obtain ⟨k, v⟩ := entry
      by_cases hk : k = name
      · subst hk
        by_cases ho : k = other <;> simp [set, get?_cons, ho]
      · simp only [set, if_neg hk, get?_cons, ih]
        by_cases ho : k = other
        · have hn : name ≠ other := fun e => hk (ho.trans e.symm)
          rw [if_pos ho, if_neg hn, if_pos ho]
        · rw [if_neg ho, if_neg ho]

@[simp] theorem get?_set_self (t : Table κ ν) (name : κ) (value : ν) :
    (set t name value).get? name = some value := by
  simp [get?_set]

theorem get?_set_ne (t : Table κ ν) {name other : κ} (value : ν) (h : name ≠ other) :
    (set t name value).get? other = t.get? other := by
  simp [get?_set, h]

theorem get?_erase (t : Table κ ν) (name other : κ) :
    (erase t name).get? other = if name = other then none else t.get? other := by
  induction t with
  | nil => simp [erase]
  | cons entry t ih =>
      obtain ⟨k, v⟩ := entry
      by_cases hk : k = name
      · simp only [erase, if_pos hk, get?_cons, ih]
        by_cases ho : name = other
        · rw [if_pos ho, if_pos ho]
        · rw [if_neg ho, if_neg (fun e => ho (hk.symm.trans e)), if_neg ho]
      · simp only [erase, if_neg hk, get?_cons, ih]
        by_cases ho : k = other
        · have hn : name ≠ other := fun e => hk (ho.trans e.symm)
          rw [if_pos ho, if_neg hn, if_pos ho]
        · rw [if_neg ho, if_neg ho]

@[simp] theorem get?_erase_self (t : Table κ ν) (name : κ) :
    (erase t name).get? name = none := by
  simp [get?_erase]

theorem set_set (t : Table κ ν) (name : κ) (first second : ν) :
    (t.set name first).set name second = t.set name second := by
  induction t with
  | nil => simp [set]
  | cons entry t ih =>
      obtain ⟨k, v⟩ := entry
      by_cases hk : k = name <;> simp [set, hk, ih]

theorem set_get? {t : Table κ ν} {name : κ} {value : ν} (h : t.get? name = some value) :
    t.set name value = t := by
  induction t with
  | nil => cases h
  | cons entry t ih =>
      obtain ⟨k, v⟩ := entry
      by_cases hk : k = name
      · simp only [get?_cons, if_pos hk, Option.some.injEq] at h
        simp [set, hk, h]
      · simp only [get?_cons, if_neg hk] at h
        simp [set, hk, ih h]

theorem erase_of_get? {t : Table κ ν} {name : κ} (h : t.get? name = none) : t.erase name = t := by
  induction t with
  | nil => rfl
  | cons entry t ih =>
      obtain ⟨k, v⟩ := entry
      by_cases hk : k = name
      · simp [get?_cons, hk] at h
      · simp only [get?_cons, if_neg hk] at h
        simp [erase, hk, ih h]

theorem erase_set (t : Table κ ν) (name : κ) (value : ν) :
    (t.set name value).erase name = t.erase name := by
  induction t with
  | nil => simp [set, erase]
  | cons entry t ih =>
      obtain ⟨k, v⟩ := entry
      by_cases hk : k = name <;> simp [set, erase, hk, ih]

theorem mem_of_get? {t : Table κ ν} {name : κ} {value : ν} (h : t.get? name = some value) :
    (name, value) ∈ t := by
  induction t with
  | nil => cases h
  | cons entry t ih =>
      obtain ⟨k, v⟩ := entry
      by_cases hk : k = name
      · simp only [get?_cons, hk, if_true, Option.some.injEq] at h
        simp [hk, h]
      · simp only [get?_cons, hk, if_false] at h
        exact List.mem_cons_of_mem _ (ih h)

/-- No name comes twice. -/
def Distinct (t : Table κ ν) : Prop := t.names.Nodup

theorem get?_of_mem {t : Table κ ν} (distinct : t.Distinct) {name : κ} {value : ν}
    (h : (name, value) ∈ t) : t.get? name = some value := by
  induction t with
  | nil => cases h
  | cons entry t ih =>
      obtain ⟨k, v⟩ := entry
      obtain ⟨absent, rest⟩ := List.nodup_cons.mp distinct
      rcases List.mem_cons.mp h with e | h
      · simp only [Prod.mk.injEq] at e
        simp [get?_cons, e.1, e.2]
      · have hk : k ≠ name := by
          intro e
          exact absent (e ▸ List.mem_map_of_mem (f := (·.1)) h)
        simp only [get?_cons, hk, if_false]
        exact ih rest h

theorem mem_iff_get? {t : Table κ ν} (distinct : t.Distinct) (name : κ) (value : ν) :
    (name, value) ∈ t ↔ t.get? name = some value :=
  ⟨get?_of_mem distinct, mem_of_get?⟩

theorem mem_names_set (t : Table κ ν) (name other : κ) (value : ν) :
    other ∈ (t.set name value).names ↔ other = name ∨ other ∈ t.names := by
  induction t with
  | nil => simp [set, names]
  | cons entry t ih =>
      obtain ⟨k, v⟩ := entry
      simp only [names] at ih
      by_cases hk : k = name
      · simp [set, names, hk]
      · simp only [set, names, hk, if_false, List.map_cons, List.mem_cons, ih]
        tauto

theorem mem_names_erase (t : Table κ ν) (name other : κ) :
    other ∈ (t.erase name).names ↔ other ≠ name ∧ other ∈ t.names := by
  induction t with
  | nil => simp [erase, names]
  | cons entry t ih =>
      obtain ⟨k, v⟩ := entry
      simp only [names] at ih
      by_cases hk : k = name
      · simp only [erase, names, hk, if_true, List.map_cons, List.mem_cons, ih]
        tauto
      · simp only [erase, names, hk, if_false, List.map_cons, List.mem_cons, ih]
        constructor
        · rintro (rfl | ⟨ho, hm⟩)
          · exact ⟨hk, .inl rfl⟩
          · exact ⟨ho, .inr hm⟩
        · rintro ⟨ho, rfl | hm⟩
          · exact .inl rfl
          · exact .inr ⟨ho, hm⟩

theorem Distinct.set {t : Table κ ν} (distinct : t.Distinct) (name : κ) (value : ν) :
    (t.set name value).Distinct := by
  induction t with
  | nil => simp [Distinct, Table.set, names]
  | cons entry t ih =>
      obtain ⟨k, v⟩ := entry
      obtain ⟨absent, rest⟩ := List.nodup_cons.mp distinct
      by_cases hk : k = name
      · simpa [Distinct, Table.set, names, hk] using distinct
      · simp only [Distinct, Table.set, hk, if_false]
        refine List.nodup_cons.mpr ⟨?_, ih rest⟩
        intro hm
        rcases (mem_names_set t name k value).mp hm with e | hm
        · exact hk e
        · exact absent hm

theorem Distinct.erase {t : Table κ ν} (distinct : t.Distinct) (name : κ) :
    (t.erase name).Distinct := by
  induction t with
  | nil => exact distinct
  | cons entry t ih =>
      obtain ⟨k, v⟩ := entry
      obtain ⟨absent, rest⟩ := List.nodup_cons.mp distinct
      by_cases hk : k = name
      · simpa [Table.erase, hk] using ih rest
      · simp only [Distinct, Table.erase, hk, if_false]
        refine List.nodup_cons.mpr ⟨?_, ih rest⟩
        intro hm
        exact absent ((mem_names_erase t name k).mp hm).2

theorem get?_merge (t : Table κ ν) {more : Table κ ν} (distinct : more.Distinct) (name : κ) :
    (t.merge more).get? name = (more.get? name).or (t.get? name) := by
  induction more generalizing t with
  | nil => rfl
  | cons entry more ih =>
      obtain ⟨k, v⟩ := entry
      obtain ⟨absent, rest⟩ := List.nodup_cons.mp distinct
      have merged : (t.merge ((k, v) :: more)).get? name =
          (get? more name).or ((t.set k v).get? name) := ih (t.set k v) rest
      rw [merged, get?_cons, get?_set]
      by_cases own : k = name
      · have missing : get? more name = none := by
          cases found : get? more name with
          | none => rfl
          | some w => exact absurd (own ▸ List.mem_map_of_mem (f := (·.1)) (mem_of_get? found)) absent
        rw [if_pos own, if_pos own, missing]
        rfl
      · rw [if_neg own, if_neg own]

theorem Distinct.merge {t : Table κ ν} (distinct : t.Distinct) (more : Table κ ν) :
    (t.merge more).Distinct := by
  induction more generalizing t with
  | nil => exact distinct
  | cons entry more ih => exact ih (distinct.set entry.1 entry.2)

omit [DecidableEq κ] in
theorem Distinct.filter {t : Table κ ν} (distinct : t.Distinct) (keep : κ × ν → Bool) :
    Distinct (t.filter keep) :=
  List.Nodup.sublist (List.Sublist.map Prod.fst List.filter_sublist) distinct

theorem get?_filter {t : Table κ ν} (distinct : t.Distinct) (keep : κ × ν → Bool) (name : κ) :
    get? (t.filter keep) name = (t.get? name).filter fun value => keep (name, value) := by
  refine Option.ext fun value => ?_
  rw [Option.filter_eq_some_iff, ← mem_iff_get? (distinct.filter keep), ← mem_iff_get? distinct,
    List.mem_filter]

end BlobStorage.Table
