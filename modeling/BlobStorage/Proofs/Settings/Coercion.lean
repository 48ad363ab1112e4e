import BlobStorage.Proofs.Action
import BlobStorage.Proofs.Number.Binary64
import BlobStorage.Proofs.Number.Spelling
import BlobStorage.Settings.Slot

/-!
What values are coerced to. A value of the right type is held as it is. Numbers, truth values, durations and
texts stand for each other where nothing is lost; nothing but a text or a choice stands for a text.
-/
namespace BlobStorage
open Settings

/-- A choice stands for its name. -/
inductive ToText : Value → String → Prop
  | text (s : String) : ToText (.text s) s
  | choice (typeName s : String) : ToText (.choice typeName s) s

inductive ToWhole : Value → Int → Prop
  | flag (b : Bool) : ToWhole (.flag b) (if b then 1 else 0)
  | whole (n : Int) : ToWhole (.whole n) n
  | real {x : Binary64} {n : Int} (is : x.Stands n) (inReach : -2 ^ 63 < n ∧ n < 2 ^ 63) :
      ToWhole (.real x) n
  | text {s : String} {n : Int} (spelled : Number.Numeral.SpellsWhole s.toList n) : ToWhole (.text s) n

/-- The words for a truth value, in small letters. -/
def wordsFor : Bool → List String
  | true => ["1", "on", "t", "true", "y", "yes"]
  | false => ["0", "off", "f", "false", "n", "no"]

inductive ToFlag : Value → Bool → Prop
  | flag (b : Bool) : ToFlag (.flag b) b
  | whole (b : Bool) : ToFlag (.whole (if b then 1 else 0)) b
  | real {x : Binary64} {b : Bool} (is : x.Stands ((if b then 1 else 0 : Int) : ℚ)) :
      ToFlag (.real x) b
  | text {s : String} {b : Bool} (word : String.ofList (s.toList.map Char.toLower) ∈ wordsFor b) :
      ToFlag (.text s) b

inductive ToReal : Value → Binary64 → Prop
  | flag (b : Bool) : ToReal (.flag b) (.ofInt (if b then 1 else 0))
  | whole {n : Int} {negative : Bool} {m : Nat} {e : Int}
      (near : Binary64.ofInt n = .finite negative m e) : ToReal (.whole n) (.finite negative m e)
  | real (x : Binary64) : ToReal (.real x) x
  | text {s : String} {x : Binary64} (spelled : Number.Numeral.real? s.toList = some x) :
      ToReal (.text s) x

/-- A span of time that fits a duration. -/
def Spans (span : Except Time.SpanFault Time.Span) (d : Duration) : Prop :=
  ∃ s, span = .ok s ∧ s.toDuration.checked = .ok d

/-- So many seconds, the days of which are counted in a word of 32 bits. -/
structure Seconds (n : Int) (d : Duration) : Prop where
  days : n.natAbs / 86400 % 2 ^ 32 ≤ 999999999
  micros : d.micros = n.sign *
    ((n.natAbs / 86400 % 2 ^ 32 * 86400 + n.natAbs % 86400 : Nat) * 1000000)
  inRange : d.days.natAbs ≤ 999999999

/-- A number stands for so many seconds. One that fits no word is rounded. -/
inductive ToDuration : Value → Duration → Prop
  | duration (d : Duration) : ToDuration (.duration d) d
  | flag {b : Bool} {d : Duration} (seconds : Seconds (if b then 1 else 0) d) : ToDuration (.flag b) d
  | whole {n : Int} {d : Duration} (word : -2 ^ 63 ≤ n ∧ n < 2 ^ 63) (seconds : Seconds n d) :
      ToDuration (.whole n) d
  | large {n : Int} {d : Duration} (beyond : ¬ (-2 ^ 63 ≤ n ∧ n < 2 ^ 63))
      (spans : Spans (Time.Span.ofReal (.ofInt n)) d) : ToDuration (.whole n) d
  | real {x : Binary64} {d : Duration} (spans : Spans (Time.Span.ofReal x) d) : ToDuration (.real x) d
  | text {s : String} {d : Duration} (spans : Spans (Time.Span.ofText s) d) : ToDuration (.text s) d

/-- Null leaves unset what may be unset. -/
inductive Perhaps {α : Type} (takes : Value → α → Prop) : Value → Option α → Prop
  | unset : Perhaps takes .null none
  | set {v : Value} {a : α} (given : v ≠ .null) (is : takes v a) :
      Perhaps takes v (some a)

section Reading
variable {v : Value}

theorem under_eq_ok_iff {α : Type} {name : String} {read : Read α} {a : α} :
    under name read = .ok a ↔ read = .ok a := by
  rcases read with (ms | f) | a'
  · exact iff_of_false nofun nofun
  · exact iff_of_false nofun nofun
  · rfl

theorem both_eq_ok_iff {α β : Type} {first : Read α} {second : Read β} {x : α × β} :
    both first second = .ok x ↔ first = .ok x.1 ∧ second = .ok x.2 := by
  obtain ⟨a, b⟩ := x
  rcases first with (_ | _) | _ <;> rcases second with (_ | _) | _ <;> simp [both]

theorem text_eq_ok_iff {s : String} : text v = .ok s ↔ ToText v s := by
  constructor
  · intro read
    unfold text at read
    split at read
    · cases read
      exact .text s
    · cases read
      exact .choice _ s
    · cases read
  · rintro (_ | _) <;> rfl

theorem isInnerWord_iff {n : Int} : isInnerWord n = true ↔ -2 ^ 63 < n ∧ n < 2 ^ 63 := by
  rw [isInnerWord, Bool.and_eq_true, decide_eq_true_iff, decide_eq_true_iff]
  rfl

theorem isWord_iff {n : Int} : isWord n = true ↔ -2 ^ 63 ≤ n ∧ n < 2 ^ 63 := by
  rw [isWord, Bool.and_eq_true, decide_eq_true_iff, decide_eq_true_iff]
  rfl

theorem whole_eq_ok_iff {n : Int} : whole v = .ok n ↔ ToWhole v n := by
  constructor
  · intro read
    unfold whole at read
    split at read
    · cases read
      exact .flag _
    · cases read
      exact .whole n
    · cases read
    · cases read
    · split at read
      · rename_i x _ _ k is
        split at read <;> cases read
        exact .real (Binary64.toInt?_eq_some_iff.mp is) (isInnerWord_iff.mp ‹_›)
      · cases read
    · split at read <;> cases read
      exact .text (Number.Numeral.wholeSetting_eq_ok_iff.mp ‹_›)
    · cases read
  · intro is
    cases is with
    | flag | whole => rfl
    | real is inReach =>
        obtain ⟨negative, m, e, rfl, -⟩ := id is
        unfold whole
        dsimp only
        rw [Binary64.toInt?_eq_some_iff.mpr is]
        exact if_pos (isInnerWord_iff.mpr inReach)
    | text spelled => rw [whole, Number.Numeral.wholeSetting_eq_ok_iff.mpr spelled]

theorem wholeFlag_eq_ok_iff {n : Int} {inReach b : Bool} :
    wholeFlag n inReach v = .ok b ↔ n = if b then 1 else 0 := by
  unfold wholeFlag
  by_cases none : n = 0
  · cases b <;> simp [none]
  · by_cases one : n = 1
    · cases b <;> simp [one]
    · cases b <;> simp [none, one, misfit]

theorem flag_eq_ok_iff {b : Bool} : flag v = .ok b ↔ ToFlag v b := by
  constructor
  · intro read
    unfold flag at read
    split at read
    · cases read
      exact .flag b
    · cases wholeFlag_eq_ok_iff.mp read
      exact .whole b
    · split at read
      · rename_i n is
        cases wholeFlag_eq_ok_iff.mp read
        exact .real (Binary64.toInt?_eq_some_iff.mp is)
      · cases read
    · dsimp only at read
      split at read
      · cases read
        exact .text (List.contains_iff_mem.mp ‹_›)
      · split at read <;> cases read
        exact .text (List.contains_iff_mem.mp ‹_›)
    · cases read
  · intro is
    cases is with
    | flag => rfl
    | whole => exact wholeFlag_eq_ok_iff.mpr rfl
    | real is =>
        rw [flag, Binary64.toInt?_eq_some_iff.mpr is]
        exact wholeFlag_eq_ok_iff.mpr rfl
    | text word =>
        have found := List.contains_iff_mem.mpr word
        cases b with
        | true => exact if_pos found
        | false =>
            have apart : ∀ w ∈ wordsFor false, trueWords.contains w = false := by decide
            refine (if_neg ?_).trans (if_pos found)
            exact Bool.eq_false_iff.mp (apart _ word)

theorem real_eq_ok_iff {x : Binary64} : real v = .ok x ↔ ToReal v x := by
  constructor
  · intro read
    unfold real at read
    split at read
    · cases read
      exact .flag _
    · split at read <;> cases read
      exact .whole ‹_›
    · cases read
      exact .real x
    · split at read <;> cases read
      exact .text ‹_›
    · cases read
  · intro is
    cases is with
    | flag | real => rfl
    | whole near => rw [real, near]
    | text spelled => rw [real, spelled]

theorem spanned_eq_ok_iff {span : Except Time.SpanFault Time.Span} {d : Duration} :
    spanned v span = .ok d ↔ Spans span d := by
  unfold Spans
  cases span with
  | error fault => exact iff_of_false nofun fun ⟨_, failed, _⟩ => nomatch failed
  | ok s =>
      rw [spanned, mapError_eq_ok_iff]
      constructor
      · exact fun fits => ⟨s, rfl, fits⟩
      · rintro ⟨_, ⟨⟩, fits⟩
        exact fits

/-- A span without a surplus has too many days or stays as it is. -/
theorem normalized_eq {s : Time.Span} (seconds : s.seconds < 86400) (micros : s.micros = 0)
    (days : s.days < 2 ^ 32) :
    s.normalized = if 999999999 < s.days then .error .dayRange else .ok s := by
  have fits {n : Nat} (small : n < 2 ^ 32) : Time.Span.counted n = .ok n :=
    if_pos (show n < Nat.pow 2 32 from small)
  obtain ⟨negative, d, n, m⟩ := s
  change m = 0 at micros
  subst micros
  change n < 86400 at seconds
  have none : d + n / 86400 = d := by omega
  have whole : n % 86400 = n := Nat.mod_eq_of_lt seconds
  unfold Time.Span.normalized
  simp only [Time.Span.secondsPerDay, Time.Span.microsPerSecond, Nat.zero_div, Nat.zero_mod,
    Nat.add_zero]
  rw [fits (by omega)]
  change (Time.Span.counted (d + n / 86400) >>= fun _ => _) = _
  rw [none, fits days, whole]
  rfl

theorem checked_eq_ok_iff {d d' : Duration} :
    d'.checked = .ok d ↔ d' = d ∧ d.days.natAbs ≤ 999999999 := by
  unfold Duration.checked Duration.inRange
  split
  · rename_i fits
    rw [Except.ok.injEq]
    exact ⟨fun same => ⟨same, same ▸ of_decide_eq_true fits⟩, And.left⟩
  · rename_i wide
    exact iff_of_false nofun fun ⟨same, fits⟩ => wide (same ▸ decide_eq_true fits)

theorem micros_toDuration (negative : Bool) (days seconds micros : Nat) :
    (⟨negative, days, seconds, micros⟩ : Time.Span).toDuration.micros =
      if negative then -Int.ofNat ((days * 86400 + seconds) * 1000000 + micros)
      else Int.ofNat ((days * 86400 + seconds) * 1000000 + micros) := rfl

/-- The sign of a span is that of its number. -/
theorem toDuration_eq_iff {n : Int} {days seconds : Nat} (zero : n = 0 → days * 86400 + seconds = 0)
    {d : Duration} : ({ negative := n < 0, days, seconds } : Time.Span).toDuration = d ↔
      d.micros = n.sign * ((days * 86400 + seconds : Nat) * 1000000) := by
  have same (d' : Duration) : d' = d ↔ d.micros = d'.micros := by
    cases d
    cases d'
    rw [Duration.mk.injEq, eq_comm]
  rw [same, micros_toDuration, Nat.add_zero, Int.ofNat_eq_natCast, Nat.cast_mul, Nat.cast_ofNat]
  rcases lt_trichotomy n 0 with below | rfl | above
  · rw [if_pos (decide_eq_true below), Int.sign_eq_neg_one_of_neg below, neg_one_mul]
  · rw [zero rfl]
    simp
  · rw [if_neg (by simpa using above.le), Int.sign_eq_one_of_pos above, one_mul]

theorem spans_ofWhole_iff {n : Int} {d : Duration} : Spans (Time.Span.ofWhole n) d ↔ Seconds n d := by
  have own : Time.Span.ofWhole n = _ :=
    normalized_eq (Nat.mod_lt _ (by decide)) rfl (Nat.mod_lt _ (by decide))
  rw [Spans, own]
  split
  · rename_i many
    exact iff_of_false (fun ⟨_, failed, _⟩ => nomatch failed) fun is => absurd is.days (not_le.mpr many)
  · rename_i few
    simp only [Except.ok.injEq, exists_eq_left', checked_eq_ok_iff]
    rw [toDuration_eq_iff (by rintro rfl; rfl)]
    exact ⟨fun ⟨micros, inRange⟩ => ⟨not_lt.mp few, micros, inRange⟩, fun is => ⟨is.micros, is.inRange⟩⟩

theorem duration_eq_ok_iff {d : Duration} : duration v = .ok d ↔ ToDuration v d := by
  constructor
  · intro read
    unfold duration at read
    split at read
    · cases read
      exact .duration d
    · exact .flag (spans_ofWhole_iff.mp (spanned_eq_ok_iff.mp read))
    · split at read
      · exact .whole (isWord_iff.mp ‹_›) (spans_ofWhole_iff.mp (spanned_eq_ok_iff.mp read))
      · split at read
        · cases read
        · exact .large (mt isWord_iff.mpr ‹_›) (spanned_eq_ok_iff.mp read)
    · exact .real (spanned_eq_ok_iff.mp read)
    · exact .text (spanned_eq_ok_iff.mp read)
    · cases read
  · intro is
    cases is with
    | duration => rfl
    | flag seconds => exact spanned_eq_ok_iff.mpr (spans_ofWhole_iff.mpr seconds)
    | real spans | text spans => exact spanned_eq_ok_iff.mpr spans
    | whole word seconds =>
        rw [duration, if_pos (isWord_iff.mpr word)]
        exact spanned_eq_ok_iff.mpr (spans_ofWhole_iff.mpr seconds)
    | @large n _ beyond spans =>
        rw [duration, if_neg (mt isWord_iff.mp beyond)]
        cases far : Binary64.ofInt n with
        | infinite negative =>
            rw [far] at spans
            obtain ⟨s, none, -⟩ := spans
            cases none
        | nan | finite => exact spanned_eq_ok_iff.mpr (far ▸ spans)

theorem optional_eq_ok_iff {α : Type} {read : Value → Read α} {takes : Value → α → Prop}
    (reads : ∀ v a, read v = .ok a ↔ takes v a) {held : Option α} :
    Settings.optional read v = .ok held ↔ Perhaps takes v held := by
  unfold Settings.optional
  split
  · constructor
    · rintro ⟨⟩
      exact .unset
    · rintro (_ | ⟨given, -⟩)
      · rfl
      · exact absurd rfl given
  · rename_i given
    constructor
    · intro read
      obtain ⟨a, own, rfl⟩ := map_eq_ok_iff.mp read
      exact .set given ((reads v a).mp own)
    · rintro (_ | ⟨-, is⟩)
      · exact absurd rfl given
      · exact map_eq_ok_iff.mpr ⟨_, (reads v _).mpr is, rfl⟩

end Reading
end BlobStorage
