import BlobStorage.Proofs.Action
import BlobStorage.S3.Adapter
import Mathlib.Data.List.Forall2

/-!
Pages, as the service's replies tell them. What a reply shows is said of the reply itself: what is listed
in it, whether it is marked as truncated, and where the next page begins. The adapter reads each reply as
the page that it shows.
-/
namespace BlobStorage

/-- A type whose members are told apart from all other values. -/
class LawfulSayable (α : Type) [Sayable α] : Prop where
  ofValue?_eq_some_iff : ∀ {v : Value} {a : α}, Sayable.ofValue? v = some a ↔ v = Sayable.value a

instance : LawfulSayable String where
  ofValue?_eq_some_iff {v a} := by cases v <;> simp [Sayable.ofValue?, Sayable.value]

instance : LawfulSayable Int where
  ofValue?_eq_some_iff {v a} := by cases v <;> simp [Sayable.ofValue?, Sayable.value]

instance : LawfulSayable Moment where
  ofValue?_eq_some_iff {v a} := by cases v <;> simp [Sayable.ofValue?, Sayable.value]

namespace Reported
variable {α : Type} [Sayable α]

/-- A value is handed on as a member of the type if it is one, and else as it came. -/
inductive Stands : Value → Reported α → Prop
  | known (a : α) : Stands (Sayable.value a) (.known a)
  | other {v : Value} (foreign : ∀ a : α, v ≠ Sayable.value a) : Stands v (.other v)

theorem ofValue_eq_iff [LawfulSayable α] {v : Value} {r : Reported α} :
    ofValue v = r ↔ Stands v r := by
  unfold ofValue
  constructor
  · rintro rfl
    split
    · rename_i a said
      cases LawfulSayable.ofValue?_eq_some_iff.mp said
      exact .known a
    · rename_i unsaid
      refine .other fun a is => ?_
      rw [LawfulSayable.ofValue?_eq_some_iff.mpr is] at unsaid
      cases unsaid
  · intro stands
    cases stands with
    | known a => rw [LawfulSayable.ofValue?_eq_some_iff.mpr rfl]
    | other foreign =>
        split
        · rename_i a said
          exact absurd (LawfulSayable.ofValue?_eq_some_iff.mp said) (foreign a)
        · rfl

end Reported

namespace S3

section Parts
variable {α : Type} (v : Value) (name : String)

/-- What a value has under a name that it must have. -/
def Has [Sayable α] (r : Reported α) : Prop := ∃ x, v.part? name = .ok (some x) ∧ r.Stands x

/-- What a value may have under a name. A null there says nothing. -/
inductive Mentions [Sayable α] : Option (Reported α) → Prop
  | missing (absent : v.part? name = .ok none) : Mentions none
  | null (has : v.part? name = .ok (some .null)) : Mentions none
  | said {x : Value} {r : Reported α} (has : v.part? name = .ok (some x)) (given : x ≠ .null)
      (stands : r.Stands x) : Mentions (some r)

/-- A size is zero where none is told. -/
inductive Sized : Reported Int → Prop
  | missing (absent : v.part? name = .ok none) : Sized (.known 0)
  | told {x : Value} {r : Reported Int} (has : v.part? name = .ok (some x)) (stands : r.Stands x) :
      Sized r

inductive Marked : Bool → Prop
  | missing (absent : v.part? name = .ok none) : Marked false
  | flag {b : Bool} (has : v.part? name = .ok (some (.flag b))) : Marked b
  /-- What is no truth value counts as one by whether it is given. -/
  | other {x : Value} (has : v.part? name = .ok (some x)) (foreign : ∀ b, x ≠ .flag b) :
      Marked x.isGiven

/-- The items of a list in their order, or none where there is no list. -/
inductive Listed (tells : Value → α → Prop) : List α → Prop
  | missing (absent : v.part? name = .ok none) : Listed tells []
  | items {items : List Value} {told : List α} (has : v.part? name = .ok (some (.list items)))
      (each : List.Forall₂ tells items told) : Listed tells told

end Parts

section Pages

structure ShowsBlob (v : Value) (b : BlobInfo) : Prop where
  key : Has v "Key" b.key
  size : Sized v "Size" b.size
  lastModified : Mentions v "LastModified" b.lastModified
  etag : Mentions v "ETag" b.etag
  version : b.version = none

structure ShowsPage (reply : Value) (p : Page) : Prop where
  blobs : Listed reply "Contents" ShowsBlob p.blobs
  commonPrefixes : Listed reply "CommonPrefixes" (fun v => Has v "Prefix") p.commonPrefixes
  truncated : Marked reply "IsTruncated" p.isTruncated
  token : Mentions reply "NextContinuationToken" p.nextToken

/-- Where a listing goes on after a page: nowhere after the last one, nor after one whose token is
missing or empty. -/
inductive GoesOn (p : Page) : Option PageToken → Prop
  | last (whole : p.isTruncated = false) : GoesOn p none
  | stuck (untold : ∀ t ∈ p.nextToken, t.isGiven = false) : GoesOn p none
  | next {t : PageToken} (truncated : p.isTruncated = true) (told : p.nextToken = some t)
      (given : t.isGiven = true) : GoesOn p (some t)

/-- A page of a listing, and where the listing goes on. -/
structure TellsPage (reply : Value) (p : Page) (next : Option PageToken) : Prop where
  shows : ShowsPage reply p
  goes_on : GoesOn p next

structure ShowsPart (v : Value) (p : ListedPart) : Prop where
  number : Has v "PartNumber" p.number
  etag : Has v "ETag" p.etag
  size : Sized v "Size" p.size

/-- Where the next page of parts begins, if this one is truncated. -/
inductive Continues (reply : Value) : Option Value → Prop
  | last (whole : Marked reply "IsTruncated" false) : Continues reply none
  | next {marker : Value} (truncated : Marked reply "IsTruncated" true)
      (has : reply.part? "NextPartNumberMarker" = .ok (some marker)) : Continues reply (some marker)

/-- A page of the parts of an upload, and where the next one begins. -/
structure TellsParts (reply : Value) (parts : List ListedPart) (next : Option Value) : Prop where
  shows : Listed reply "Parts" ShowsPart parts
  goes_on : Continues reply next

end Pages

section Reading
variable {α : Type} [Sayable α] [LawfulSayable α] {β : Type} {v x fallback : Value} {name : String}

theorem part_of_has (has : v.part? name = .ok (some x)) : v.part name = .ok x := by
  cases v with
  | table entries =>
      have found : (Value.table entries).at? name = some x := Except.ok.inj has
      rw [Value.part, found]
  | _ => cases has

theorem partOr_of_missing (absent : v.part? name = .ok none) :
    v.partOr name fallback = .ok fallback := by
  rw [Value.partOr, absent]
  rfl

theorem partOr_of_has (has : v.part? name = .ok (some x)) : v.partOr name fallback = .ok x := by
  rw [Value.partOr, has]
  rfl

theorem said_of_has {r : Reported α} (has : Has v name r) : Document.said v name = .ok r := by
  obtain ⟨x, has, stands⟩ := has
  rw [Document.said, part_of_has has]
  exact congrArg Except.ok (Reported.ofValue_eq_iff.mpr stands)

theorem said?_of_mentions {r : Option (Reported α)} (mentions : Mentions v name r) :
    Document.said? v name = .ok r := by
  cases mentions with
  | missing absent =>
      rw [Document.said?, partOr_of_missing absent]
      rfl
  | null has =>
      rw [Document.said?, partOr_of_has has]
      rfl
  | @said x r has given stands =>
      rw [Document.said?, partOr_of_has has]
      have told : Reported.ofValue? x = some r := by
        rw [← Reported.ofValue_eq_iff.mpr stands, Reported.ofValue?]
        exact given
      exact congrArg Except.ok told

theorem size_of_sized {r : Reported Int} (sized : Sized v name r) :
    Document.size v name = .ok r := by
  cases sized with
  | missing absent =>
      rw [Document.size, partOr_of_missing absent]
      rfl
  | told has stands =>
      rw [Document.size, partOr_of_has has]
      exact congrArg Except.ok (Reported.ofValue_eq_iff.mpr stands)

theorem isGiven_of_marked {b : Bool} (marked : Marked v name b) :
    Document.isGiven v name = .ok b := by
  cases marked with
  | missing absent =>
      rw [Document.isGiven, partOr_of_missing absent]
      rfl
  | flag has | other has =>
      rw [Document.isGiven, partOr_of_has has]
      rfl

theorem mapM_eq_ok_iff {read : Value → Except Ambient β} {items : List Value} {told : List β} :
    items.mapM read = .ok told ↔ List.Forall₂ (fun x b => read x = .ok b) items told := by
  induction items generalizing told with
  | nil => cases told <;> simp [pure, Except.pure]
  | cons item rest ih =>
      rw [List.mapM_cons, bind_eq_ok_iff, List.forall₂_cons_left_iff]
      constructor
      · rintro ⟨b, here, later⟩
        obtain ⟨more, later, same⟩ := bind_eq_ok_iff.mp later
        exact ⟨b, more, here, ih.mp later, (Except.ok.inj same).symm⟩
      · rintro ⟨b, more, here, later, rfl⟩
        exact ⟨b, here, bind_eq_ok_iff.mpr ⟨more, ih.mpr later, rfl⟩⟩

theorem each_of_listed {tells : Value → β → Prop} {read : Value → Except Ambient β}
    {told : List β} (listed : Listed v name tells told)
    (reads : ∀ x b, tells x b → read x = .ok b) : Document.each v name read = .ok told := by
  cases listed with
  | missing absent =>
      rw [Document.each, partOr_of_missing absent]
      rfl
  | items has each =>
      rw [Document.each, partOr_of_has has]
      exact mapM_eq_ok_iff.mpr (each.imp reads)

end Reading

section Readings

theorem blobOf_of_shows {v : Value} {b : BlobInfo} (shows : ShowsBlob v b) :
    Store.blobOf v = .ok b := by
  obtain ⟨key, size, lastModified, version, etag⟩ := b
  obtain ⟨keyed, sized, dated, tagged, ⟨⟩⟩ := shows
  rw [Store.blobOf, said_of_has keyed, size_of_sized sized, said?_of_mentions dated,
    said?_of_mentions tagged]
  rfl

/-- The adapter reads a reply as the page that it shows. -/
theorem pageOf_of_shows {reply : Value} {p : Page} (shows : ShowsPage reply p) :
    Store.pageOf reply = .ok p := by
  have blobs : Document.each reply "Contents" Store.blobOf = .ok p.blobs :=
    each_of_listed shows.blobs fun _ _ => blobOf_of_shows
  have commonPrefixes : Document.each reply "CommonPrefixes" (fun v => Document.said v "Prefix") =
      .ok p.commonPrefixes := each_of_listed shows.commonPrefixes fun _ _ => said_of_has
  rw [Store.pageOf, blobs, isGiven_of_marked shows.truncated, said?_of_mentions shows.token,
    commonPrefixes]
  rfl

theorem follow?_of_goes_on {p : Page} {next : Option PageToken} (goes_on : GoesOn p next) :
    p.follow? = next := by
  unfold Page.follow?
  cases goes_on with
  | last whole => rw [whole, if_neg Bool.false_ne_true]
  | stuck untold =>
      split
      · exact Option.filter_eq_none_iff.mpr fun t told => Bool.eq_false_iff.mp (untold t told)
      · rfl
  | next truncated told given => rw [if_pos truncated, told, Option.filter_some, if_pos given]

theorem partOf_of_shows {v : Value} {p : ListedPart} (shows : ShowsPart v p) :
    Store.partOf v = .ok p := by
  rw [Store.partOf, said_of_has shows.number, said_of_has shows.etag, size_of_sized shows.size]
  rfl

theorem TellsPage.unique {reply : Value} {p p' : Page} {next next' : Option PageToken}
    (told : TellsPage reply p next) (told' : TellsPage reply p' next') : p = p' ∧ next = next' := by
  have same : p = p' :=
    Except.ok.inj ((pageOf_of_shows told.shows).symm.trans (pageOf_of_shows told'.shows))
  subst same
  exact ⟨rfl, (follow?_of_goes_on told.goes_on).symm.trans (follow?_of_goes_on told'.goes_on)⟩

theorem TellsParts.unique {reply : Value} {parts parts' : List ListedPart} {next next' : Option Value}
    (told : TellsParts reply parts next) (told' : TellsParts reply parts' next') :
    parts = parts' ∧ next = next' := by
  have read {ps : List ListedPart} (shows : Listed reply "Parts" ShowsPart ps) :=
    each_of_listed shows fun _ _ => partOf_of_shows
  refine ⟨Except.ok.inj ((read told.shows).symm.trans (read told'.shows)), ?_⟩
  have marked {b b' : Bool} (is : Marked reply "IsTruncated" b)
      (is' : Marked reply "IsTruncated" b') : b = b' :=
    Except.ok.inj ((isGiven_of_marked is).symm.trans (isGiven_of_marked is'))
  obtain whole | ⟨truncated, has⟩ := told.goes_on
  · obtain _ | ⟨truncated', -⟩ := told'.goes_on
    · rfl
    · cases marked whole truncated'
  · obtain whole' | ⟨-, has'⟩ := told'.goes_on
    · cases marked truncated whole'
    · exact congrArg some (Except.ok.inj ((part_of_has has).symm.trans (part_of_has has')))

end Readings

section Legible
variable {α : Type} [Sayable α] [LawfulSayable α] {β : Type} {v : Value} {name : String}

/-- Something stands under the name. -/
def Holds (v : Value) (name : String) : Prop := ∃ x, v.part? name = .ok (some x)

/-- What stands under the name, if anything does, is a list of such items. -/
def Lists (v : Value) (name : String) (fine : Value → Prop) : Prop :=
  v.part? name = .ok none ∨ ∃ items, v.part? name = .ok (some (.list items)) ∧ ∀ x ∈ items, fine x

theorem exists_stands (v : Value) : ∃ r : Reported α, r.Stands v :=
  ⟨Reported.ofValue v, Reported.ofValue_eq_iff.mp rfl⟩

theorem exists_part? {found : Option Value} (some_table : v.part? name = .ok found) (other : String) :
    ∃ found, v.part? other = .ok found := by
  cases v with
  | table entries => exact ⟨_, rfl⟩
  | _ => cases some_table

theorem exists_has (holds : Holds v name) : ∃ r : Reported α, Has v name r := by
  obtain ⟨x, has⟩ := holds
  obtain ⟨r, stands⟩ : ∃ r : Reported α, r.Stands x := exists_stands x
  exact ⟨r, x, has, stands⟩

theorem exists_mentions {found : Option Value} (has : v.part? name = .ok found) :
    ∃ r : Option (Reported α), Mentions v name r := by
  cases found with
  | none => exact ⟨none, .missing has⟩
  | some x =>
      by_cases null : x = .null
      · exact ⟨none, .null (null ▸ has)⟩
      · obtain ⟨r, stands⟩ : ∃ r : Reported α, r.Stands x := exists_stands x
        exact ⟨some r, .said has null stands⟩

theorem exists_sized {found : Option Value} (has : v.part? name = .ok found) :
    ∃ r, Sized v name r := by
  cases found with
  | none => exact ⟨_, .missing has⟩
  | some x =>
      obtain ⟨r, stands⟩ : ∃ r : Reported Int, r.Stands x := exists_stands x
      exact ⟨r, .told has stands⟩

theorem exists_marked {found : Option Value} (has : v.part? name = .ok found) :
    ∃ b, Marked v name b := by
  cases found with
  | none => exact ⟨false, .missing has⟩
  | some x =>
      by_cases flag : ∃ b, x = .flag b
      · obtain ⟨b, rfl⟩ := flag
        exact ⟨b, .flag has⟩
      · exact ⟨_, .other has (not_exists.mp flag)⟩

theorem exists_forall₂ {tells : Value → β → Prop} {items : List Value}
    (tell : ∀ x ∈ items, ∃ b, tells x b) : ∃ told, List.Forall₂ tells items told := by
  induction items with
  | nil => exact ⟨[], .nil⟩
  | cons x rest ih =>
      obtain ⟨here, later⟩ := List.forall_mem_cons.mp tell
      obtain ⟨b, first⟩ := here
      obtain ⟨told, each⟩ := ih later
      exact ⟨b :: told, .cons first each⟩

theorem exists_listed {fine : Value → Prop} {tells : Value → β → Prop} (lists : Lists v name fine)
    (tell : ∀ x, fine x → ∃ b, tells x b) : ∃ told, Listed v name tells told := by
  rcases lists with absent | ⟨items, has, fine⟩
  · exact ⟨[], .missing absent⟩
  · obtain ⟨told, each⟩ := exists_forall₂ fun x hx => tell x (fine x hx)
    exact ⟨told, .items has each⟩

theorem exists_showsBlob (keyed : Holds v "Key") : ∃ b, ShowsBlob v b := by
  obtain ⟨key, has⟩ : ∃ r : Reported String, Has v "Key" r := exists_has keyed
  obtain ⟨_, some_table⟩ := keyed
  have part := exists_part? some_table
  obtain ⟨size, sized⟩ := exists_sized (part "Size").choose_spec
  obtain ⟨lastModified, dated⟩ : ∃ r : Option (Reported Moment), Mentions v "LastModified" r :=
    exists_mentions (part "LastModified").choose_spec
  obtain ⟨etag, tagged⟩ : ∃ r : Option (Reported String), Mentions v "ETag" r :=
    exists_mentions (part "ETag").choose_spec
  exact ⟨⟨key, size, lastModified, none, etag⟩, has, sized, dated, tagged, rfl⟩

theorem exists_showsPart (numbered : Holds v "PartNumber") (tagged : Holds v "ETag") :
    ∃ p, ShowsPart v p := by
  obtain ⟨number, has_number⟩ : ∃ r : Reported Int, Has v "PartNumber" r := exists_has numbered
  obtain ⟨etag, has_tag⟩ : ∃ r : Reported String, Has v "ETag" r := exists_has tagged
  obtain ⟨_, some_table⟩ := numbered
  obtain ⟨size, sized⟩ := exists_sized (exists_part? some_table "Size").choose_spec
  exact ⟨⟨number, etag, size⟩, has_number, has_tag, sized⟩

/-- Where every blob has a key and every common prefix its text, a reply tells a page. -/
theorem exists_tellsPage {reply : Value} (contents : Lists reply "Contents" (Holds · "Key"))
    (commonPrefixes : Lists reply "CommonPrefixes" (Holds · "Prefix")) :
    ∃ p next, TellsPage reply p next := by
  have part : ∀ other, ∃ found, reply.part? other = .ok found := by
    rcases contents with absent | ⟨items, has, -⟩
    · exact exists_part? absent
    · exact exists_part? has
  obtain ⟨blobs, listed⟩ := exists_listed contents fun _ => exists_showsBlob
  have rolls : ∀ x, Holds x "Prefix" → ∃ r : Reported String, Has x "Prefix" r := fun _ => exists_has
  obtain ⟨rolled, shown⟩ := exists_listed commonPrefixes rolls
  obtain ⟨truncated, marked⟩ := exists_marked (part "IsTruncated").choose_spec
  obtain ⟨token, told⟩ : ∃ r : Option (Reported String), Mentions reply "NextContinuationToken" r :=
    exists_mentions (part "NextContinuationToken").choose_spec
  have shows : ShowsPage reply ⟨⟨blobs, rolled⟩, truncated, token⟩ := ⟨listed, shown, marked, told⟩
  cases truncated with
  | false => exact ⟨_, none, shows, .last rfl⟩
  | true =>
      by_cases given : ∃ t ∈ token, t.isGiven = true
      · obtain ⟨t, told, given⟩ := given
        exact ⟨_, some t, shows, .next rfl told given⟩
      · refine ⟨_, none, shows, .stuck fun t told => ?_⟩
        exact Bool.eq_false_iff.mpr fun is => given ⟨t, told, is⟩

/-- So does a reply about parts that have numbers and tags, if a truncated one has a marker. -/
theorem exists_tellsParts {reply : Value}
    (parts : Lists reply "Parts" fun v => Holds v "PartNumber" ∧ Holds v "ETag")
    (marked : Marked reply "IsTruncated" true → Holds reply "NextPartNumberMarker") :
    ∃ told next, TellsParts reply told next := by
  obtain ⟨told, listed⟩ := exists_listed parts fun _ fine => exists_showsPart fine.1 fine.2
  have part : ∃ found, reply.part? "IsTruncated" = .ok found := by
    rcases parts with absent | ⟨items, has, -⟩
    · exact exists_part? absent _
    · exact exists_part? has _
  obtain ⟨truncated, is⟩ := exists_marked part.choose_spec
  cases truncated with
  | false => exact ⟨told, none, listed, .last is⟩
  | true =>
      obtain ⟨marker, has⟩ := marked is
      exact ⟨told, some marker, listed, .next is has⟩

end Legible
end S3
end BlobStorage
