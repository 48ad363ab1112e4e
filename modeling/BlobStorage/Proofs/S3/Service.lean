import BlobStorage.Proofs.Action
import BlobStorage.Proofs.Number.Numeral
import BlobStorage.S3.Adapter
import BlobStorage.S3.Service
import Mathlib.Data.List.Infix

/-!
Clients over a store that keeps versions. Each request is answered from what is held in one instant
between its beginning and its end, and what is held then may be anything that others have made of it.
Only a version never changes. The service that keeps a log of all that was written is such a store.
-/
namespace BlobStorage.S3

/-- A store of versions, as seen by those who share it. -/
structure Versioned (ρ : Type) where
  /-- The versions of a key, the newest last. -/
  versions : ρ → (bucket key : String) → List ObjectVersion
  /-- The one state may become the other, whoever acts. -/
  Later : ρ → ρ → Prop
  later_trans : ∀ {r s t}, Later r s → Later s t → Later r t
  /-- Versions with one identifier are one version, now and later. -/
  same_of_id : ∀ {r s bucket key o o'}, Later r s → o ∈ versions r bucket key →
    o' ∈ versions s bucket key → o.id = o'.id → o = o'

namespace Versioned
variable {ρ : Type} (v : Versioned ρ)

/-- In some instant from one state to another, this is the version that is asked for. -/
def Sees (s t : ρ) (bucket key : String) (id : Option String) (o : ObjectVersion) : Prop :=
  ∃ now, v.Later s now ∧ v.Later now t ∧
    ObjectVersion.asked? (v.versions now bucket key) id = some o

variable {v} {s t u : ρ} {bucket key : String} {id : Option String} {o o' : ObjectVersion}

theorem later_of_sees (seen : v.Sees s t bucket key id o) : v.Later s t := by
  obtain ⟨now, before, after, -⟩ := seen
  exact v.later_trans before after

theorem sees_of_later (seen : v.Sees s t bucket key id o) (later : v.Later t u) :
    v.Sees s u bucket key id o := by
  obtain ⟨now, before, after, found⟩ := seen
  exact ⟨now, before, v.later_trans after later, found⟩

end Versioned

/-- A reply tells of a version of which so many bytes are sent. -/
structure Describes (reply : Value) (o : ObjectVersion) (length : Nat) : Prop where
  etag : reply.part? "ETag" = .ok (some (.text o.etag))
  version : reply.part? "VersionId" = .ok (some (.text o.id))
  size : reply.part? "ContentLength" = .ok (some (.whole length))

/-- The parameter that asks for a range, if one is asked for. -/
def rangeParameter : Option String → Parameters
  | some header => Parameters.text "Range" header
  | none => []

/-- The client reads from the store: it is answered by looks at one version each, which it is told of as
it is, and of which it is sent the bytes that it asks for. -/
structure Answers {ρ : Type} (c : Client ρ) (v : Versioned ρ) : Prop where
  later : ∀ call w, v.Later w.remote ((c.send call).runFrom w).2.remote
  /-- Local files are none of its business. -/
  files : ∀ call w, ((c.send call).runFrom w).2.files = w.files
  head : ∀ {bucket key id w w' reply},
    (c.send { method := .headObject, named := Parameters.place bucket key id }).runFrom w =
      (.ok reply, w') →
    ∃ o, v.Sees w.remote w'.remote bucket key id o ∧ Describes reply.value o o.content.length
  get : ∀ {bucket key id header w w' reply},
    (c.send { method := .getObject
              named := Parameters.place bucket key id ++ rangeParameter header }).runFrom w =
      (.ok reply, w') →
    ∃ o part, v.Sees w.remote w'.remote bucket key id o ∧
      ByteRange.cut? header o.content = some part ∧
      Describes reply.value o part.length ∧ reply.value.part "Body" = .ok (.stream part)
  download : ∀ {bucket key id config w w' reply},
    (c.send { method := .downloadStream
              positional := [.text bucket, .text key]
              named := [("ExtraArgs", Store.extra (Parameters.givenText "VersionId" id)),
                ("Config", config)] }).runFrom w = (.ok reply, w') →
    ∃ o, v.Sees w.remote w'.remote bucket key id o ∧ reply.written = o.content

namespace ObjectVersion
variable {versions : List ObjectVersion} {id : Option String} {o : ObjectVersion}

theorem mem_of_asked? (found : asked? versions id = some o) : o ∈ versions := by
  unfold asked? at found
  split at found
  · exact List.mem_of_getLast? found
  · exact List.mem_of_find?_eq_some found

theorem asked?_newest (unnamed : id.getD "" = "") :
    asked? versions id = asked? versions none := by
  rw [asked?, if_pos unnamed]
  rfl

theorem id_of_asked? (found : asked? versions id = some o) (named : id.getD "" ≠ "") :
    id = some o.id := by
  rw [asked?, if_neg named] at found
  simpa [eq_comm] using List.find?_some found

end ObjectVersion

namespace Versioned
variable {ρ : Type} {v : Versioned ρ} {s t u : ρ} {bucket key : String} {id id' : Option String}
  {o o' : ObjectVersion}

theorem id_of_sees (seen : v.Sees s t bucket key id o) (named : id.getD "" ≠ "") :
    id = some o.id := by
  obtain ⟨now, -, -, found⟩ := seen
  exact ObjectVersion.id_of_asked? found named

theorem sees_newest (unnamed : id.getD "" = "") (seen : v.Sees s t bucket key id o) :
    v.Sees s t bucket key none o := by
  obtain ⟨now, before, after, found⟩ := seen
  exact ⟨now, before, after, ObjectVersion.asked?_newest unnamed ▸ found⟩

/-- Versions that are seen one after the other under one identifier are one version. -/
theorem same_of_sees (first : v.Sees s t bucket key id o)
    (second : v.Sees t u bucket key id' o') (same : o.id = o'.id) : o = o' := by
  obtain ⟨now, -, after, found⟩ := first
  obtain ⟨later, before, -, found'⟩ := second
  exact v.same_of_id (v.later_trans after before) (ObjectVersion.mem_of_asked? found)
    (ObjectVersion.mem_of_asked? found') same

end Versioned

namespace Service

/-- An entry of the log as it was when it was written. -/
def origin (e : Written) : Written := { e with gone := false }

theorem idOf_inj {m n : Nat} : idOf m = idOf n ↔ m = n := by
  rw [idOf, idOf, String.append_right_inj, Number.Numeral.toString_inj]

section Log
variable {s t : Service} {bucket key : String} {o o' : ObjectVersion}

/-- A version is an entry of the log that is not gone. -/
theorem mem_versions_iff :
    o ∈ s.versions bucket key ↔ ∃ n e, s.log[n]? = some e ∧
      (e.bucket = bucket ∧ e.key = key ∧ e.gone = false) ∧
      { id := idOf n, etag := e.etag, content := e.content } = o := by
  simp only [versions, List.mem_filterMap, Prod.exists, List.mk_mem_zipIdx_iff_getElem?, versionOf?,
    Option.ite_none_right_eq_some, Option.some.injEq]
  exact exists_comm

/-- What is put under a key is its newest version from then on. -/
theorem versions_put (s : Service) (bucket key etag : String) (content : Content) :
    (s.apply (.put bucket key etag content)).versions bucket key =
      s.versions bucket key ++ [{ id := idOf s.log.length, etag, content }] := by
  rw [versions, apply, List.zipIdx_append, List.filterMap_append]
  simp [versions, versionOf?]

/-- What was written before is in the log, in its place and as it was. -/
def Continues (s t : Service) : Prop := s.log.map origin <+: t.log.map origin

theorem continues_refl (s : Service) : Continues s s := List.prefix_rfl

theorem continues_apply (s : Service) (change : Change) : Continues s (s.apply change) := by
  unfold Continues
  cases change with
  | put bucket key etag content =>
      rw [apply, List.map_append]
      exact List.prefix_append ..
  | remove number =>
      have same : (s.log.modify number fun e => { e with gone := true }).map origin =
          s.log.map origin := by
        refine List.ext_getElem? fun n => ?_
        rw [List.getElem?_map, List.getElem?_modify, List.getElem?_map]
        split <;> cases s.log[n]? <;> rfl
      rw [apply, same]

theorem continues_foldl (changes : List Change) (s : Service) :
    Continues s (changes.foldl apply s) := by
  induction changes generalizing s with
  | nil => exact continues_refl s
  | cons change rest ih => exact (continues_apply s change).trans (ih _)

theorem continues_turn (s : Service) : Continues s s.turn := by
  rw [turn]
  cases s.others with
  | nil => exact continues_refl s
  | cons changes rest => exact continues_foldl changes { s with others := rest }

theorem same_of_continues (later : Continues s t) (ho : o ∈ s.versions bucket key)
    (ho' : o' ∈ t.versions bucket key) (same : o.id = o'.id) : o = o' := by
  obtain ⟨n, e, here, -, rfl⟩ := mem_versions_iff.mp ho
  obtain ⟨m, e', there, -, rfl⟩ := mem_versions_iff.mp ho'
  obtain rfl := idOf_inj.mp same
  have kept : (t.log.map origin)[n]? = some (origin e) := by
    obtain ⟨more, whole⟩ := later
    have early : (s.log.map origin)[n]? = some (origin e) := by rw [List.getElem?_map, here]; rfl
    rw [← whole, List.getElem?_append_left (List.getElem?_eq_some_iff.mp early).1, early]
  rw [List.getElem?_map, there, Option.map_some, Option.some.injEq] at kept
  rw [show e.etag = e'.etag from congrArg (·.etag) kept.symm,
    show e.content = e'.content from congrArg (·.content) kept.symm]

end Log

def versioned : Versioned Service where
  versions := versions
  Later := Continues
  later_trans := List.IsPrefix.trans
  same_of_id := same_of_continues

theorem runFrom_send {call : Call} {w : World Service} {reply : Reply}
    (answered : w.remote.turn.answer call = .ok reply) :
    (client.send call).runFrom w = (.ok reply, { w with remote := w.remote.turn }) :=
  congrArg (·, { w with remote := w.remote.turn }) answered

/-- What a run of a request gives, and when. -/
theorem ok_of_send {call : Call} {w w' : World Service} {reply : Reply}
    (ran : (client.send call).runFrom w = (.ok reply, w')) :
    w.remote.turn.answer call = .ok reply ∧ w'.remote = w.remote.turn := by
  obtain ⟨answered, left⟩ := Prod.mk.inj ran
  exact ⟨answered, left ▸ rfl⟩

theorem look_newest {s : Service} {bucket key : String} {o : ObjectVersion}
    (newest : (s.versions bucket key).getLast? = some o) (operation : String) :
    s.look operation bucket key none = .ok o := by
  rw [look, show ObjectVersion.asked? (s.versions bucket key) none = some o from newest]

theorem asked_of_look {s : Service} {operation bucket key : String} {id : Option String}
    {o : ObjectVersion} (found : s.look operation bucket key id = .ok o) :
    ObjectVersion.asked? (s.versions bucket key) id = some o := by
  unfold look at found
  split at found
  · rename_i o' chosen
    rw [chosen, Except.ok.inj found]
  · cases found

theorem lookNamed_place (s : Service) (operation bucket key : String) (id header : Option String) :
    s.lookNamed operation (Parameters.place bucket key id ++ rangeParameter header) =
      s.look operation bucket key id := by
  have version : s.lookNamed operation (Parameters.place bucket key id ++ rangeParameter header) =
      s.look operation bucket key
        (text? (Parameters.givenText "VersionId" id ++ rangeParameter header) "VersionId") := rfl
  have unranged : text? (rangeParameter header) "VersionId" = none := by cases header <;> rfl
  rw [version]
  cases id with
  | none => rw [Parameters.givenText, List.nil_append, unranged]
  | some id =>
      by_cases blank : id = ""
      · have newest : s.look operation bucket key (some "") = s.look operation bucket key none := rfl
        rw [blank, newest, ← unranged]
        rfl
      · simp [Parameters.givenText, Parameters.text, text?, Table.get?, blank]

theorem text?_range (bucket key : String) (id header : Option String) :
    text? (Parameters.place bucket key id ++ rangeParameter header) "Range" = header := by
  have behind : text? (Parameters.place bucket key id ++ rangeParameter header) "Range" =
      text? (Parameters.givenText "VersionId" id ++ rangeParameter header) "Range" := rfl
  have own : text? (rangeParameter header) "Range" = header := by cases header <;> rfl
  have passed : Table.get? (Parameters.givenText "VersionId" id ++ rangeParameter header) "Range" =
      Table.get? (rangeParameter header) "Range" := by
    unfold Parameters.givenText
    split
    · split <;> rfl
    · rfl
  rw [behind, text?, passed]
  exact own

/-- The version that a managed download names, or none. -/
theorem asked_of_extra {s : Service} {operation bucket key : String} {id : Option String}
    {o : ObjectVersion}
    (found : s.look operation bucket key
      (match (Store.extra (Parameters.givenText "VersionId" id)).at? "VersionId" with
        | some (.text id) => some id
        | _ => none) = .ok o) : s.look operation bucket key id = .ok o := by
  cases id with
  | none => exact found
  | some id =>
      by_cases blank : id = ""
      · rw [blank] at found ⊢
        exact found
      · simpa [Parameters.givenText, Parameters.text, Store.extra, Value.map, Value.at?, Value.texted,
          blank] using found

section Looks
variable {w w' : World Service} {bucket key : String} {id : Option String} {o : ObjectVersion}

/-- What is found when the others have acted is what the store sees. -/
theorem sees_of_look {operation : String} (left : w'.remote = w.remote.turn)
    (found : w.remote.turn.look operation bucket key id = .ok o) :
    versioned.Sees w.remote w'.remote bucket key id o :=
  ⟨w.remote.turn, continues_turn _, left ▸ continues_refl _, asked_of_look found⟩

end Looks

theorem describes_described (o : ObjectVersion) (length : Nat) (more : Parameters) :
    Describes (.map (described o length ++ more)) o length := ⟨rfl, rfl, rfl⟩

/-- The service is one that a client reads from as it should. -/
theorem answers : Answers client versioned where
  later _ w := continues_turn w.remote
  files _ _ := rfl
  head {bucket key id w w' reply} ran := by
    obtain ⟨answered, left⟩ := ok_of_send ran
    obtain ⟨o, found, told⟩ := bind_eq_ok_iff.mp answered
    cases told
    have named := lookNamed_place w.remote.turn "HeadObject" bucket key id none
    rw [rangeParameter, List.append_nil] at named
    exact ⟨o, sees_of_look left (named ▸ found), describes_described o _ []⟩
  get {bucket key id header w w' reply} ran := by
    obtain ⟨answered, left⟩ := ok_of_send ran
    obtain ⟨o, found, told⟩ := bind_eq_ok_iff.mp answered
    rw [lookNamed_place] at found
    rw [text?_range] at told
    cases cut : ByteRange.cut? header o.content with
    | none =>
        rw [cut] at told
        cases told
    | some part =>
        rw [cut] at told
        cases told
        exact ⟨o, part, sees_of_look left found, cut, describes_described o _ _, rfl⟩
  download {bucket key id config w w' reply} ran := by
    obtain ⟨answered, left⟩ := ok_of_send ran
    obtain ⟨o, found, told⟩ := bind_eq_ok_iff.mp answered
    cases told
    exact ⟨o, sees_of_look left (asked_of_extra found), rfl⟩

end Service
end BlobStorage.S3
