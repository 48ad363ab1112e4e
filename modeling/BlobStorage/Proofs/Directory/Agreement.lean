import BlobStorage.Proofs.Directory.Playback
import BlobStorage.Proofs.Memory.Run

/-!
Those who wait for a transfer of a directory and those who await it are told the same of it, whatever
the store, but for how failures are handed over; and where it is settled what becomes of each unit, the
turns that the work takes for either of them do not show.
-/
namespace BlobStorage

/-- A failure that is built again is the same, unless it names files: those are lost. -/
theorem Described.rebuilt_cases (d : Described) : d.rebuilt = d ∨ ∃ number reason rest,
    Described.files d.label rest ≠ [] ∧ d.arguments = number :: reason :: rest ∧
    d.rebuilt = ⟨d.label, [number, reason]⟩ := by
  unfold Described.rebuilt
  split
  · rename_i number reason rest own
    split
    · exact .inl rfl
    · rename_i named
      exact .inr ⟨number, reason, rest, fun none => named (.inr none), own, rfl⟩
  · exact .inl rfl

namespace Failure

/-- A failure is handed over as it is, unless it is a timeout that names files. -/
theorem handed_cases (f : Failure) : f.handed = f ∨ ∃ number reason rest,
    Described.files "TimeoutError" rest ≠ [] ∧
    f = .ambient (.described ⟨"TimeoutError", number :: reason :: rest⟩) ∧
    f.handed = .ambient (.described ⟨"TimeoutError", [number, reason]⟩) := by
  cases f with
  | ambient a =>
      cases a with
      | described d =>
          obtain ⟨label, arguments⟩ := d
          by_cases late : label = "TimeoutError"
          · subst late
            obtain same | ⟨number, reason, rest, named, rfl, again⟩ :=
              Described.rebuilt_cases ⟨"TimeoutError", arguments⟩
            · exact .inl (congrArg (fun d => ambient (.described d)) same)
            · exact .inr ⟨number, reason, rest, named, rfl,
                congrArg (fun d => ambient (.described d)) again⟩
          · exact .inl (if_neg late)
      | _ => exact .inl rfl
  | _ => exact .inl rfl

/-- Whoever hears of a failure, it has the same class, names the same key, and belongs to the same
category for either provider. -/
theorem handed_alike (f : Failure) : f.handed.label = f.label ∧ f.handed.key? = f.key? ∧
    Memory.classify f.handed = Memory.classify f ∧ S3.classify f.handed = S3.classify f := by
  obtain same | ⟨number, reason, rest, _, rfl, handed⟩ := f.handed_cases
  · simp only [same, and_self]
  · rw [handed]
    exact ⟨rfl, rfl, rfl, rfl⟩

end Failure

namespace Directory
variable {ρ α β : Type}

def uploadTold (style : CallStyle) (result : UploadItem → Except Failure Unit)
    (category : Failure → ErrorKind) (plan : Except Failure (List UploadItem)) :
    Except Failure (List FailedUpload) :=
  match plan with
  | .error f => .error (style.hand f)
  | .ok items => .ok <| records style category (fun i f => ⟨i.path, f⟩) (fun i => some i.key)
      (failed result items)

/-- The plan of a download whose listing goes on in a course. -/
def Course.plan (request : DirectoryDownload) (course : Course none) :
    Except Failure (List DownloadItem × List FailedDownload) :=
  match course.ending with
  | .failed f => .error f
  | _ => (planDownload request (course.blobs.map (·.key))).mapError .ambient

def downloadTold (style : CallStyle) (result : DownloadItem → Except Failure Unit)
    (category : Failure → ErrorKind) (plan : Except Failure (List DownloadItem × List FailedDownload)) :
    Except Failure (List FailedDownload) :=
  match plan with
  | .error f => .error (style.hand f)
  | .ok (items, refused) => .ok <| refused ++ records style category (fun i f => ⟨i.target, f⟩)
      (fun i => some i.key) (failed result items)

def deletionTold (style : CallStyle) (result : List Target → Except Failure Unit)
    (category : Failure → ErrorKind) (ending : Ending) (batches : List (List Target)) :
    Except Failure DirectoryDeletion :=
  match ending with
  | .failed f => .error (style.hand f)
  | _ => .ok
      { deleted := (batches.filter fun batch => (result batch).isOk).flatten.length
        failed := records style category FailedDelete.mk (fun _ => none) (failed result batches) }

def unitsOf {ε : Type} (plan : Except ε (List α)) : List α := plan.toOption.getD []

/-- The styles agree on the directories of a store. Whatever it does, each transfer is one program in
both styles, in which the same turns carry out the same units. Where the store's answers are settled,
both styles carry out the same units in any turns of their own, and tell the same of them. -/
structure Agreement (a : Adapter ρ) : Prop where
  upload : ∀ style request turns, uploadIn style a request turns = (do
    let plan ← style.reach (planning request)
    let told ← trials turns plan (uploadItem a request.tags)
    recording a style (fun i f => FailedUpload.mk i.path f) (fun i => some i.key) (failures told))
  download : ∀ style request turns, downloadIn style a request turns = (do
    let listed ← Listing.blobs a { stem := request.stem }
    match listed.ending with
    | .failed f => throw (style.hand f)
    | _ => do
        let (plan, refused) ← style.reach (Action.ofAmbient <|
          planDownload request (listed.delivered.map (·.key)))
        let told ← trials turns plan (downloadItem a)
        let failed ← recording a style (fun i f => FailedDownload.mk i.target f)
          (fun i => some i.key) (failures told)
        return refused ++ failed)
  delete : ∀ style stem pace turns, deleteIn style a stem pace turns = (do
    let (outcomes, ending) ← attempts a stem pace turns
    match ending with
    | .failed f => throw (style.hand f)
    | _ => accounting a style outcomes)
  uploads : ∀ request result category Inv w,
    Settled a none (uploadItem a request.tags) result category
      (unitsOf (planUpload w.files request)) Inv → Inv none [] w →
    ∀ style turns, Tells (uploadIn style a request turns)
      (uploadTold style result category (planUpload w.files request))
      (unitsOf (planUpload w.files request)) (Inv none) w
  downloads : ∀ request result category (course : Course none) Inv w,
    Settled a request.stem (downloadItem a) result category
      (unitsOf ((course.plan request).map (·.1))) Inv → Inv (some ⟨none, course⟩) [] w →
    ∀ style turns, Tells (downloadIn style a request turns)
      (downloadTold style result category (course.plan request))
      (unitsOf ((course.plan request).map (·.1))) (Inv none) w
  deletions : ∀ stem result category (course : Course none) Inv w,
    Settled a stem (Store.deleteMany a) result category
      (course.batches a.deleteLimit.toNat []) Inv → Inv (some ⟨none, course⟩) [] w →
    ∀ style pace turns, Tells (deleteIn style a stem pace turns)
      (deletionTold style result category course.ending (course.batches a.deleteLimit.toNat []))
      (course.batches a.deleteLimit.toNat []) (Inv none) w
  /-- Only timeouts that name files are not handed over as they are. -/
  handed : ∀ f : Failure, f.handed = f ∨ ∃ number reason rest,
    Described.files "TimeoutError" rest ≠ [] ∧
    f = .ambient (.described ⟨"TimeoutError", number :: reason :: rest⟩) ∧
    f.handed = .ambient (.described ⟨"TimeoutError", [number, reason]⟩)
  alike : ∀ f : Failure, f.handed.label = f.label ∧ f.handed.key? = f.key? ∧
    Memory.classify f.handed = Memory.classify f ∧ S3.classify f.handed = S3.classify f
  /-- Where all failures are handed over as they are, the same is recorded. -/
  same : ∀ {α β : Type} (category : Failure → ErrorKind) (record : α → Failure → β)
    (key : α → Option String) (bad : List (α × Failure)), (∀ r ∈ bad, r.2.handed = r.2) →
    records .awaited category record key bad = records .blocking category record key bad

theorem records_awaited (category : Failure → ErrorKind) (record : α → Failure → β)
    (key : α → Option String) {bad : List (α × Failure)} (kept : ∀ r ∈ bad, r.2.handed = r.2) :
    records .awaited category record key bad = records .blocking category record key bad := by
  refine List.map_congr_left fun r hr => ?_
  dsimp only [CallStyle.hand]
  rw [kept r hr]

section Telling
variable {a : Adapter ρ} {category : Failure → ErrorKind} {w : World ρ} (style : CallStyle)
  (turns : Turns)

theorem tells_uploadIn {request : DirectoryUpload} {result : UploadItem → Except Failure Unit}
    {Inv : Stage → List UploadItem → World ρ → Prop}
    (settled : Settled a none (uploadItem a request.tags) result category
      (unitsOf (planUpload w.files request)) Inv) (inv : Inv none [] w) :
    Tells (uploadIn style a request turns)
      (uploadTold style result category (planUpload w.files request))
      (unitsOf (planUpload w.files request)) (Inv none) w := by
  rw [uploadIn_eq]
  have planned : (style.reach (planning request)).runFrom w =
      ((planUpload w.files request).mapError style.hand, w) := by
    rw [CallStyle.runFrom_reach]
    rfl
  cases plan : planUpload w.files request with
  | error f =>
      rw [plan] at planned
      exact ⟨[], w, Action.runFrom_bind_error planned _, .nil, inv⟩
  | ok items =>
      rw [plan] at planned settled
      obtain ⟨done, w', ran, all, kept⟩ := settled.transferred inv turns style
        (fun (i : UploadItem) f => FailedUpload.mk i.path f) (fun i => some i.key)
      exact ⟨done, w', (Action.runFrom_bind_ok planned _).trans ran, all, kept⟩

theorem tells_downloadIn {request : DirectoryDownload} {result : DownloadItem → Except Failure Unit}
    {course : Course none} {Inv : Stage → List DownloadItem → World ρ → Prop}
    (settled : Settled a request.stem (downloadItem a) result category
      (unitsOf ((course.plan request).map (·.1))) Inv) (inv : Inv (some ⟨none, course⟩) [] w) :
    Tells (downloadIn style a request turns)
      (downloadTold style result category (course.plan request))
      (unitsOf ((course.plan request).map (·.1))) (Inv none) w := by
  obtain ⟨w₁, listed, there⟩ := settled.listed course inv
  rw [downloadIn_eq]
  unfold Tells
  rw [Action.runFrom_bind_ok listed]
  unfold Course.plan at settled ⊢
  cases ending : course.ending with
  | failed f => exact ⟨[], w₁, rfl, .nil, there⟩
  | complete | cut =>
      rw [ending] at settled
      have planned : (style.reach (Action.ofAmbient (planDownload request
          (course.blobs.map (·.key))))).runFrom w₁ =
            (((planDownload request (course.blobs.map (·.key))).mapError .ambient).mapError style.hand,
              w₁) := style.runFrom_reach _ w₁
      dsimp only at settled ⊢
      cases plan : planDownload request (course.blobs.map (·.key)) with
      | error e =>
          rw [plan] at planned
          exact ⟨[], w₁, Action.runFrom_bind_error planned _, .nil, there⟩
      | ok found =>
          obtain ⟨items, refused⟩ := found
          rw [plan] at planned settled
          obtain ⟨done, w', ran, all, kept⟩ := settled.transferred there turns style
            (fun (i : DownloadItem) f => FailedDownload.mk i.target f) (fun i => some i.key)
          refine ⟨done, w', (Action.runFrom_bind_ok planned _).trans ?_, all, kept⟩
          dsimp only
          rw [← bind_assoc]
          exact (Action.runFrom_bind_ok ran _).trans rfl

theorem failing_map (result : List Target → Except Failure Unit) (batches : List (List Target)) :
    failing (batches.map fun batch => (batch, failureOf (result batch))) = failed result batches := by
  unfold failing failed failures
  rw [List.filterMap_map, List.filterMap_map]
  refine List.filterMap_congr fun batch _ => ?_
  dsimp only [Function.comp_apply]
  cases result batch <;> rfl

theorem deletedIn_map (result : List Target → Except Failure Unit) (batches : List (List Target)) :
    deletedIn (batches.map fun batch => (batch, failureOf (result batch))) =
      (batches.filter fun batch => (result batch).isOk).flatten.length := by
  induction batches with
  | nil => rfl
  | cons batch rest ih =>
      rw [List.map_cons, List.filter_cons]
      cases result batch with
      | ok _ =>
          change _ = (batch :: rest.filter fun batch => (result batch).isOk).flatten.length
          rw [List.flatten_cons, List.length_append, ← ih]
          exact deletedIn_cons_ok ..
      | error f => exact ih

theorem tells_deleteIn {stem : Option String} {result : List Target → Except Failure Unit}
    {course : Course none} {Inv : Stage → List (List Target) → World ρ → Prop}
    (settled : Settled a stem (Store.deleteMany a) result category
      (course.batches a.deleteLimit.toNat []) Inv) (inv : Inv (some ⟨none, course⟩) [] w)
    (pace : Pace) :
    Tells (deleteIn style a stem pace turns)
      (deletionTold style result category course.ending (course.batches a.deleteLimit.toNat []))
      (course.batches a.deleteLimit.toNat []) (Inv none) w := by
  obtain ⟨done, w₁, attempted, all, kept⟩ := attempts_settled course settled inv pace turns
  rw [deleteIn_eq]
  unfold Tells
  rw [Action.runFrom_bind_ok attempted]
  cases course.ending with
  | failed f => exact ⟨done, w₁, rfl, all, kept⟩
  | complete | cut =>
      obtain ⟨w₂, recorded, still⟩ := settled.recorded kept style FailedDelete.mk (fun _ => none)
        (failed result (course.batches a.deleteLimit.toNat []))
      refine ⟨done, w₂, ?_, all, still⟩
      dsimp only
      unfold accounting
      rw [Action.runFrom_map, failing_map, deletedIn_map, recorded]
      rfl

end Telling

theorem agreement_of_styles (a : Adapter ρ) : Agreement a where
  upload style request turns := uploadIn_eq a style request turns
  download style request turns := downloadIn_eq a style request turns
  delete style stem pace turns := deleteIn_eq a style stem pace turns
  uploads _ _ _ _ _ settled inv style turns := tells_uploadIn style turns settled inv
  downloads _ _ _ _ _ _ settled inv style turns := tells_downloadIn style turns settled inv
  deletions _ _ _ _ _ _ settled inv style pace turns := tells_deleteIn style turns settled inv pace
  handed := Failure.handed_cases
  alike := Failure.handed_alike
  same category record key _ kept := records_awaited category record key kept

section Broken

def denied : Failure := .foreign { label := "PermissionError", text := "denied" }

/-- A listing that fails after its first page, of three blobs. -/
def brokenCourse : Course none :=
  let blob (key : String) : BlobInfo := { key, size := .known 1 }
  .next { blobs := [blob "p/a", blob "p/b", blob "p/c"], commonPrefixes := [], isTruncated := true,
          nextToken := some (.known "t") }
    (.known "t") rfl (.failed denied rfl)

/-- A store that plays the listing back, and deletes nothing. -/
def brokenStore : Adapter Tape := Tape.player 2 (fun _ => .error denied) fun _ => .unknown

/-- What is told of deleting the directory, after a batch that was full. -/
def BrokenTold (style : CallStyle) : Prop :=
  Tells (deleteIn style brokenStore (some "p") Pace.eager [])
    (.error denied : Except Failure DirectoryDeletion) [[⟨.known "p/a", none⟩, ⟨.known "p/b", none⟩]]
    (fun done w => w.remote = ⟨none, done⟩) { remote := { stage := some ⟨none, brokenCourse⟩ } }

theorem broken_told_alike : BrokenTold .blocking ∧ BrokenTold .awaited := by
  have settled : Settled brokenStore (some "p") (Store.deleteMany brokenStore) (fun _ => .error denied)
      (fun _ => .unknown) (brokenCourse.batches 2 []) fun stage done w => w.remote = ⟨stage, done⟩ :=
    Tape.settled_player (by decide) (some "p") brokenCourse (by decide)
  have batches : brokenCourse.batches 2 [] = [[⟨.known "p/a", none⟩, ⟨.known "p/b", none⟩]] := by
    with_unfolding_all rfl
  have told (style : CallStyle) := (agreement_of_styles brokenStore).deletions (some "p") _ _ brokenCourse _
    { remote := { stage := some ⟨none, brokenCourse⟩ } } settled rfl style Pace.eager []
  have same : brokenStore.deleteLimit.toNat = 2 := rfl
  rw [same, batches] at told
  exact ⟨told .blocking, told .awaited⟩

end Broken

section Timeout
open Memory

/-- A timeout that names what follows its number and its reason. -/
def timeout (named : List Value) : Failure :=
  .ambient (.described ⟨"TimeoutError", .whole 110 :: .text "x" :: named⟩)

/-- A bucket in which nothing is yet, next to a directory of one file. Every upload to it fails with a
timeout that names a file. -/
def timedOutWorld : World Backend where
  remote := (Backend.fresh [] ⟨0, none⟩).ensureBucket "b" none
  files := { entries := [(["s"], .directory), (["s", "f"], .file [1])] }
  interceptions :=
    [{ store := 0, primitive := .uploadBytes, failure := timeout [.text "f"] }]

def timedOutCaller : Caller :=
  { store := { config := { provider := "memory" }, bucket := "b" }, plans := some 0 }

def timedOutTold (style : CallStyle) : Except Failure (List FailedUpload) :=
  ((uploadIn style timedOutCaller.adapter { source := ⟨"", ["s"]⟩ }).runFrom timedOutWorld).1

def timedOutRecord (cause : Failure) : FailedUpload :=
  ⟨⟨"", ["s", "f"]⟩, .categorized .deadlineExceeded "f" cause false⟩

/-- Those who await the upload are not told of the file that the timeout names. -/
theorem file_lost_when_awaited :
    timedOutTold .blocking = .ok [timedOutRecord (timeout [.text "f"])] ∧
      timedOutTold .awaited = .ok [timedOutRecord (timeout [])] ∧
      (timedOutRecord (timeout [.text "f"])).failure.text = "[Errno 110] x: 'f'" ∧
      (timedOutRecord (timeout [])).failure.text = "[Errno 110] x" ∧
      timedOutTold .blocking ≠ timedOutTold .awaited := by
  have waited : timedOutTold .blocking = .ok [timedOutRecord (timeout [.text "f"])] := by
    with_unfolding_all rfl
  have awaited : timedOutTold .awaited = .ok [timedOutRecord (timeout [])] := by
    with_unfolding_all rfl
  refine ⟨waited, awaited, by decide, by decide, fun same => ?_⟩
  rw [waited, awaited] at same
  simp [timedOutRecord, timeout] at same

end Timeout
end Directory
end BlobStorage
