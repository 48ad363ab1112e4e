import BlobStorage.Multipart
import BlobStorage.Proofs.Directory.Batcher
import BlobStorage.Proofs.Queue
import BlobStorage.Proofs.Store
import Mathlib.Data.List.Perm.Subperm

/-!
Uploading a source in parts through any client, in any order. Each part that is submitted is one of the
source's and is sent at most once, its outcome is told in the place of the part, and an upload in which
no step fails has sent them all.
-/
namespace BlobStorage.Multipart
variable {σ : Type}

section Cutting

def contentOf : Source → Content
  | .bytes content | .stream content => content

/-- A stream that is asked for so many bytes gives them, or those that are left. -/
def Reads (source : Source) (size : Int) : Prop :=
  match source with
  | .bytes _ => True
  | .stream content => 0 ≤ size → content.read size = .ok (content.take size.toNat)

/-- How many parts of a size it takes for so many bytes. -/
def partCount (length : Nat) (size : Int) : Nat :=
  max 1 ((length + size.toNat - 1) / size.toNat)

theorem drain_eq_pieces (size : Nat) (content : Content) :
    drain size content = Content.pieces size content := by
  fun_induction Content.pieces size content with
  | case1 items none =>
      rw [drain, if_pos]
      simpa using none
  | case2 items more ih =>
      rw [drain, if_neg, ih]
      simpa using more

theorem length_number (n : Int) (cs : List Content) : (number n cs).length = cs.length := by
  induction cs generalizing n with
  | nil => rfl
  | cons c rest ih => simp [number, ih]

theorem numbers_number (n : Int) (cs : List Content) :
    (number n cs).map (·.number) = (List.range cs.length).map fun i : Nat => n + Int.ofNat i := by
  induction cs generalizing n with
  | nil => rfl
  | cons c rest ih =>
      simp only [number, List.map_cons, List.length_cons, List.range_succ_eq_map, ih, List.map_map]
      refine congr (congrArg _ (Int.add_zero n).symm) (List.map_congr_left fun i _ => ?_)
      simp only [Function.comp_apply, Int.ofNat_eq_natCast]
      omega

theorem ascending_number (n : Int) (cs : List Content) :
    ((number n cs).map (·.number)).Pairwise (· < ·) := by
  rw [numbers_number, List.pairwise_map]
  refine List.pairwise_lt_range.imp fun {i j} lt => ?_
  simp only [Int.ofNat_eq_natCast]
  omega

theorem mem_number_iff {n : Int} {cs : List Content} {m : Int} :
    m ∈ (number n cs).map (·.number) ↔ n ≤ m ∧ m < n + cs.length := by
  simp only [numbers_number, List.mem_map, List.mem_range, Int.ofNat_eq_natCast]
  constructor
  · rintro ⟨i, lt, rfl⟩
    omega
  · intro ⟨le, lt⟩
    exact ⟨(m - n).toNat, by omega, by omega⟩

theorem data_of_mem_number {n : Int} {cs : List Content} {part : Part} (h : part ∈ number n cs) :
    ∃ c, part.source = .bytes c ∧ part.data = .ok c := by
  induction cs generalizing n with
  | nil => cases h
  | cons c rest ih =>
      rcases List.mem_cons.mp h with rfl | later
      · exact ⟨c, rfl, rfl⟩
      · exact ih later

theorem joined_number (n : Int) (cs : List Content) :
    (number n cs).flatMap (fun part => part.data.toOption.getD []) = cs.flatten := by
  induction cs generalizing n with
  | nil => rfl
  | cons c rest ih =>
      rw [number, List.flatMap_cons, ih]
      rfl

/-- What the parts of a source are, where it can be cut. -/
theorem parts_spec {source : Source} {size : Int} {ps : List Part} (h : parts source size = .ok ps) :
    1 ≤ size ∧ ∃ pieces, ps = number 1 pieces ∧ pieces.flatten = contentOf source ∧
      pieces.length = partCount (contentOf source).length size := by
  unfold parts at h
  split at h
  · cases h
  · rename_i small
    have positive : 0 < size.toNat := by omega
    have cut : ∀ pieces, chunks source size.toNat = .ok pieces →
        pieces = Content.pieces size.toNat (contentOf source) := by
      intro pieces cut
      cases source with
      | bytes content => exact (Except.ok.inj cut).symm
      | stream content =>
          obtain ⟨_, _, drained⟩ := bind_eq_ok_iff.mp cut
          exact (Except.ok.inj drained).symm.trans (drain_eq_pieces ..)
    have cutting := Directory.cut_pieces positive (contentOf source)
    have count := cutting.count
    have whole := cutting.whole
    refine ⟨by omega, ?_⟩
    split at h
    · cases h
    · rename_i none
      cases h
      rw [← cut [] none] at count whole
      refine ⟨[[]], rfl, whole, ?_⟩
      rw [partCount, ← count]
      rfl
    · rename_i pieces some own
      cases h
      rw [← cut pieces own] at count whole
      refine ⟨pieces, rfl, whole, ?_⟩
      have nonempty : pieces ≠ [] := fun is => some is
      have atLeast := List.length_pos_iff.mpr nonempty
      rw [partCount, ← count]
      omega

theorem parts_ok {source : Source} {size : Int} (positive : 1 ≤ size) (reads : Reads source size) :
    ∃ ps, parts source size = .ok ps := by
  have cut : ∃ pieces, chunks source size.toNat = .ok pieces := by
    cases source with
    | bytes content => exact ⟨_, rfl⟩
    | stream content =>
        refine ⟨_, bind_eq_ok_iff.mpr ⟨content.take size.toNat, ?_, rfl⟩⟩
        rw [show Int.ofNat size.toNat = size from Int.toNat_of_nonneg (by omega)]
        exact reads (by omega)
  obtain ⟨pieces, cut⟩ := cut
  unfold parts
  rw [if_neg (by omega), cut]
  cases pieces with
  | nil => exact ⟨_, rfl⟩
  | cons first rest => exact ⟨_, rfl⟩

end Cutting

section Sending
variable {client : Client σ} {token : UploadToken}

abbrev sending (client : Client σ) (token : UploadToken) :
    Part → Action σ (Part × Except Failure PartReceipt) :=
  Queue.labelled (sendPart client token)

theorem runFrom_sending (part : Part) (s : σ) :
    (sending client token part).runFrom s =
      (.ok (part, ((client.sendPart token part).runFrom s).1),
        ((client.sendPart token part).runFrom s).2) := rfl

variable (client token) in
theorem total_sending (part : Part) (s : σ) :
    ∃ x t, (sending client token part).runFrom s = (.ok (part, x), t) :=
  ⟨_, _, runFrom_sending part s⟩

/-- Of the parts that were submitted, some were sent one after the other, with these outcomes. -/
structure Sent (client : Client σ) (token : UploadToken) (s : σ) (submitted : List Part)
    (outcomes : List (Part × Except Failure PartReceipt))
    (q : Queue Part (Part × Except Failure PartReceipt)) (t : σ) : Prop where
  carried : Queue.Carried (sending client token) s outcomes t
  done : q.done.map (·.1) = outcomes.reverse
  holds : q.Holds submitted

variable {s t : σ} {submitted : List Part} {outcomes : List (Part × Except Failure PartReceipt)}
  {q : Queue Part (Part × Except Failure PartReceipt)}

theorem sent_nil (s : σ) : Sent client token s [] [] {} s := ⟨.nil s, rfl, Queue.holds_nil⟩

theorem Sent.submit (h : Sent client token s submitted outcomes q t) (more : List Part) :
    Sent client token s (submitted ++ more) outcomes (q.submit more) t :=
  ⟨h.carried, h.done, h.holds.submit more⟩

theorem Sent.of_advanced (h : Sent client token s submitted outcomes q t)
    {q' : Queue Part (Part × Except Failure PartReceipt)} {t' : σ}
    {more : List (Part × Except Failure PartReceipt)}
    (advanced : Queue.Advanced (sending client token) q t more q' t') :
    Sent client token s submitted (outcomes ++ more) q' t' where
  carried := h.carried.append advanced.carried
  done := by rw [advanced.done, h.done, List.reverse_append]
  holds := advanced.holds h.holds

theorem Sent.advance (h : Sent client token s submitted outcomes q t) (turns : Turns) :
    ∃ q' t' more, (q.plain.advance (sendPart client token) turns).runFrom t = (.ok q'.plain, t') ∧
      Sent client token s submitted (outcomes ++ more) q' t' := by
  obtain ⟨q', t', more, ran, advanced, _⟩ := Queue.advance_spec (total_sending client token) turns q t
  refine ⟨q', t', more, ?_, h.of_advanced advanced⟩
  rw [Queue.runFrom_advance_plain, Action.runFrom_map, ran]
  rfl

theorem Sent.finish (h : Sent client token s submitted outcomes q t) (turns : Turns) :
    ∃ q' t' more, (q.plain.finish (sendPart client token) turns).runFrom t = (.ok q'.plain, t') ∧
      Sent client token s submitted (outcomes ++ more) q' t' ∧ q'.waiting = [] := by
  obtain ⟨q', t', more, ran, advanced, finished⟩ :=
    Queue.finish_spec (total_sending client token) turns q t
  refine ⟨q', t', more, ?_, h.of_advanced advanced, finished⟩
  rw [Queue.runFrom_finish_plain, Action.runFrom_map, ran]
  rfl

theorem Sent.failed_iff (h : Sent client token s submitted outcomes q t) :
    Sending.failed q.plain = true ↔ ∃ outcome ∈ outcomes, outcome.2.isOk = false := by
  have listed (outcome : Part × Except Failure PartReceipt) :
      outcome ∈ q.done.map (·.1) ↔ outcome ∈ outcomes := by
    rw [h.done, List.mem_reverse]
  simp only [← listed]
  simp [Sending.failed, Queue.plain, Queue.map]

/-- Parts are submitted in their order, and the rest are held back only after a failure. -/
theorem Sent.submitWithin (h : Sent client token s submitted outcomes q t) (window : Nat)
    (pace : Pace) (ps : List Part) :
    ∃ q' t' more taken,
      (submitWithin client token window pace q.plain ps).runFrom t = (.ok q'.plain, t') ∧
      Sent client token s (submitted ++ taken) (outcomes ++ more) q' t' ∧ taken <+: ps ∧
      (Sending.failed q'.plain = true ∨ taken = ps) := by
  induction ps generalizing submitted outcomes q t with
  | nil =>
      refine ⟨q, t, [], [], rfl, ?_, List.prefix_refl _, .inr rfl⟩
      simpa using h
  | cons p rest ih =>
      unfold Multipart.submitWithin
      split
      · obtain ⟨q', t', more, taken, ran, sent, first, all⟩ := ih (h.submit [p])
        refine ⟨q', t', more, p :: taken, ran, by simpa using sent,
          List.cons_prefix_cons.mpr ⟨rfl, first⟩, ?_⟩
        exact all.imp id (congrArg (p :: ·))
      · obtain ⟨q₁, t₁, more, ran, sent⟩ := h.advance (if (pace q.plain.done.length
          q.plain.waiting.length).isEmpty then [0] else pace q.plain.done.length q.plain.waiting.length)
        dsimp only
        rw [Action.runFrom_bind_ok ran]
        split
        · rename_i failed
          refine ⟨q₁, t₁, more, [], rfl, by simpa using sent, List.nil_prefix, .inl failed⟩
        · obtain ⟨q', t', later, taken, ran', sent', first, all⟩ := ih (sent.submit [p])
          refine ⟨q', t', more ++ later, p :: taken, ran', by simpa using sent',
            List.cons_prefix_cons.mpr ⟨rfl, first⟩, ?_⟩
          exact all.imp id (congrArg (p :: ·))

variable (client token) in
theorem sendParts_spec (concurrency : Concurrency) (pace : Pace) (ps : List Part) (s : σ) :
    ∃ q t outcomes taken,
      (sendParts client token concurrency pace ps).runFrom s = (.ok q.plain, t) ∧
      Sent client token s taken outcomes q t ∧ taken <+: ps ∧
      (Sending.failed q.plain = true ∨ taken = ps ∧ q.waiting = []) := by
  unfold sendParts
  split
  · rename_i window _
    obtain ⟨q₁, t₁, outcomes, taken, ran, sent, first, all⟩ :=
      (sent_nil s).submitWithin window pace ps
    obtain ⟨q, t, more, ran', sent', finished⟩ :=
      sent.finish (pace q₁.plain.done.length q₁.plain.waiting.length)
    rw [List.nil_append, List.nil_append] at sent sent'
    refine ⟨q, t, outcomes ++ more, taken, (Action.runFrom_bind_ok ran _).trans ran', sent', first, ?_⟩
    rcases all with failed | whole
    · obtain ⟨outcome, listed, bad⟩ := sent.failed_iff.mp failed
      exact .inl (sent'.failed_iff.mpr ⟨outcome, List.mem_append_left _ listed, bad⟩)
    · exact .inr ⟨whole, finished⟩
  · obtain ⟨q₁, t₁, outcomes, ran, sent⟩ := ((sent_nil s).submit ps).advance (pace 0 ps.length)
    rw [List.nil_append, List.nil_append] at sent
    have ran : (Queue.advance (sendPart client token) (pace 0 ps.length)
        (({} : Sending).submit ps)).runFrom s = (.ok q₁.plain, t₁) := ran
    dsimp only
    rw [Action.runFrom_bind_ok ran]
    split
    · rename_i failed
      exact ⟨q₁, t₁, outcomes, ps, rfl, sent, List.prefix_refl _, .inl failed⟩
    · obtain ⟨q, t, more, ran', sent', finished⟩ := sent.finish []
      exact ⟨q, t, outcomes ++ more, ps, ran', sent', List.prefix_refl _, .inr ⟨rfl, finished⟩⟩

theorem Sent.once (h : Sent client token s submitted outcomes q t) :
    (outcomes.map (·.1)).Subperm submitted := by
  have done : (outcomes.map (·.1)).Perm (q.done.map fun entry => entry.1.1) := by
    have same := congrArg (List.map Prod.fst) h.done
    rw [List.map_map, List.map_reverse] at same
    exact (List.reverse_perm _).symm.trans (List.Perm.of_eq same.symm)
  have all := h.holds.numbered.map Prod.fst
  rw [List.zipIdx_map_fst, Queue.numbered, List.map_append, List.map_map] at all
  exact done.subperm.trans ((List.sublist_append_right ..).subperm.trans all.subperm)

def Concurrency.told : Concurrency → Failure → Failure
  | .workers _, f => f.within .generator
  | .limit _, f => f

theorem mapM_id_eq_ok_iff {α ε : Type} {rs : List (Except ε α)} {xs : List α} :
    rs.mapM id = .ok xs ↔ rs = xs.map .ok := by
  induction rs generalizing xs with
  | nil =>
      cases xs with
      | nil => exact iff_of_true rfl rfl
      | cons x xs => exact iff_of_false nofun nofun
  | cons r rs ih =>
      simp only [List.mapM_cons, id_eq, bind_eq_ok_iff, pure, Except.pure, Except.ok.injEq, ih]
      cases xs with
      | nil => simp
      | cons x xs => simp [and_comm]

theorem mem_of_mapM_id_error {α ε : Type} {rs : List (Except ε α)} {e : ε}
    (h : rs.mapM id = .error e) : .error e ∈ rs := by
  induction rs with
  | nil => cases h
  | cons r rs ih =>
      rw [List.mapM_cons] at h
      cases r with
      | error f =>
          cases h
          exact List.mem_cons_self ..
      | ok x =>
          rcases rest : rs.mapM id with f | xs
          · rw [rest] at h
            cases h
            exact List.mem_cons_of_mem _ (ih rest)
          · rw [rest] at h
            cases h

theorem receipts_cases (q : Sending) (concurrency : Concurrency) :
    (∃ f, .error f ∈ q.results ∧ Sending.receipts q concurrency = .error (concurrency.told f)) ∨
      ∃ receipts, q.results = receipts.map .ok ∧ Sending.receipts q concurrency = .ok receipts := by
  unfold Sending.receipts
  rcases gathered : q.results.mapM id with f | receipts
  · refine .inl ⟨f, mem_of_mapM_id_error gathered, ?_⟩
    cases concurrency <;> rfl
  · refine .inr ⟨receipts, mapM_id_eq_ok_iff.mp gathered, ?_⟩
    cases concurrency <;> rfl

theorem Sent.mem_results (h : Sent client token s submitted outcomes q t)
    (outcome : Part × Except Failure PartReceipt) : outcome ∈ q.results ↔ outcome ∈ outcomes := by
  have told : q.results.Perm (q.done.map (·.1)) := (List.mergeSort_perm ..).map _
  rw [told.mem_iff, h.done, List.mem_reverse]

/-- At least one part may be on its way at a time. -/
def Concurrency.Moving : Concurrency → Prop
  | .workers none => True
  | .workers (some n) | .limit n => 1 ≤ n

theorem Concurrency.Moving.workers {concurrency : Concurrency} (moving : concurrency.Moving) :
    checkWorkers concurrency = .ok () := by
  cases concurrency with
  | workers count =>
      cases count with
      | none => rfl
      | some n => exact if_neg (Int.not_lt.mpr moving)
  | limit n => rfl

theorem Concurrency.Moving.limit {concurrency : Concurrency} (moving : concurrency.Moving) :
    checkLimit concurrency = .ok () := by
  cases concurrency with
  | workers count => rfl
  | limit n => exact if_neg (Int.not_lt.mpr (Int.le_trans (by decide) moving))

/-- What sending the parts of a source and joining them may come to. -/
inductive Ends (client : Client σ) (token : UploadToken) (source : Source) (size : Int)
    (concurrency : Concurrency) (s : σ) : Except Failure MultipartReceipt → σ → Prop
  /-- The source can not be cut. -/
  | uncut {e : Failure} (cut : parts source size = .error e) :
      Ends client token source size concurrency s (.error e) s
  /-- A part fails. -/
  | unsent {ps : List Part} {outcomes : List (Part × Except Failure PartReceipt)} {part : Part}
      {f : Failure} {t : σ} (cut : parts source size = .ok ps)
      (carried : Queue.Carried (sending client token) s outcomes t)
      (once : (outcomes.map (·.1)).Subperm ps) (failed : (part, .error f) ∈ outcomes) :
      Ends client token source size concurrency s (.error (concurrency.told f)) t
  /-- All parts are sent, and their receipts are listed to join them. -/
  | joined {ps : List Part} {outcomes : List (Part × Except Failure PartReceipt)}
      {receipts : List PartReceipt} {outcome : Except Failure MultipartReceipt} {t u : σ}
      (cut : parts source size = .ok ps)
      (carried : Queue.Carried (sending client token) s outcomes t)
      (paired : receipts.length = ps.length) (sent : outcomes.Perm (ps.zip (receipts.map .ok)))
      (completed : (client.complete token receipts).runFrom t = (outcome, u)) :
      Ends client token source size concurrency s outcome u

variable (client token) in
theorem send_spec (source : Source) (size : Int) {concurrency : Concurrency}
    (moving : concurrency.Moving) (pace : Pace) (s : σ) :
    ∃ outcome t, ∃ q : Queue Part (Part × Except Failure PartReceipt),
      (send client token source size concurrency pace).runFrom s = (.ok (outcome, q.plain), t) ∧
      Ends client token source size concurrency s outcome t := by
  unfold send
  rw [moving.workers]
  cases cut : parts source size with
  | error e => exact ⟨.error e, s, {}, rfl, .uncut cut⟩
  | ok ps =>
      obtain ⟨q, t, outcomes, taken, ran, sent, first, all⟩ :=
        sendParts_spec client token concurrency pace ps s
      have within : taken.Subperm ps := first.sublist.subperm
      dsimp only
      rw [Action.runFrom_bind_ok ran]
      rcases receipts_cases q.plain concurrency with ⟨f, bad, told⟩ | ⟨receipts, good, told⟩
      · rw [Queue.results_plain] at bad
        obtain ⟨⟨part, _⟩, listed, rfl⟩ := List.mem_map.mp bad
        rw [told]
        exact ⟨_, t, q, rfl,
          .unsent cut sent.carried (sent.once.trans within) ((sent.mem_results _).mp listed)⟩
      · rw [Queue.results_plain] at good
        have passed : Sending.failed q.plain ≠ true := by
          intro failed
          obtain ⟨outcome, listed, bad⟩ := sent.failed_iff.mp failed
          have told : outcome.2 ∈ q.results.map (·.2) :=
            List.mem_map_of_mem ((sent.mem_results _).mpr listed)
          rw [good] at told
          obtain ⟨receipt, _, is⟩ := List.mem_map.mp told
          rw [← is] at bad
          cases bad
        obtain ⟨rfl, finished⟩ := all.resolve_left passed
        obtain ⟨units, perm⟩ := Queue.results_of_finished sent.holds finished
        have paired : q.results = taken.zip (receipts.map .ok) := by
          rw [← units, ← good]
          exact List.zip_of_prod rfl rfl
        have sent_all : outcomes.Perm (taken.zip (receipts.map .ok)) := by
          rw [← paired]
          refine (List.reverse_perm _).symm.trans ?_
          rw [← sent.done]
          exact perm.symm
        have length : receipts.length = taken.length := by
          rw [← units, List.length_map, ← List.length_map (f := Prod.snd), good, List.length_map]
        rw [told]
        exact ⟨_, _, q, rfl, .joined cut sent.carried length sent_all rfl⟩

/-- What an upload in parts comes to once it is opened: where a step fails, it is aborted, and parts
that still wait may be sent even then. -/
theorem upload_spec {request : MultipartRequest} (source : Source) (size : Int)
    {concurrency : Concurrency} (moving : concurrency.Moving) (schedule : Schedule) {s s₁ : σ}
    (opened : (client.initiate request).runFrom s = (.ok token, s₁)) :
    ∃ outcome t, Ends client token source size concurrency s₁ outcome t ∧
      match outcome with
      | .ok receipt =>
          (upload client request source size concurrency schedule).runFrom s = (.ok receipt, t)
      | .error e => ∃ late u,
          Queue.Carried (sending client token) ((client.abort token).runFrom t).2 late u ∧
          (upload client request source size concurrency schedule).runFrom s = (.error e, u) := by
  obtain ⟨outcome, t, q, ran, ends⟩ := send_spec client token source size moving schedule.pace s₁
  refine ⟨outcome, t, ends, ?_⟩
  have whole : (upload client request source size concurrency schedule).runFrom s = _ :=
    (Action.runFrom_bind_ok opened _).trans
      ((Action.runFrom_bind_ok (by rw [moving.limit]; rfl) _).trans (Action.runFrom_bind_ok ran _))
  cases outcome with
  | ok receipt => exact whole
  | error e =>
      obtain ⟨q', u, late, ran', advanced, _⟩ := Queue.advance_spec (total_sending client token)
        schedule.late q ((client.abort token).runFrom t).2
      refine ⟨late, u, advanced.carried, whole.trans ?_⟩
      have aborted : (abortQuietly client token).runFrom t =
          (.ok (), ((client.abort token).runFrom t).2) := rfl
      have sent : (q.plain.advance (sendPart client token) schedule.late).runFrom
          ((client.abort token).runFrom t).2 = (.ok q'.plain, u) := by
        rw [Queue.runFrom_advance_plain, Action.runFrom_map, ran']
        rfl
      dsimp only
      rw [Action.runFrom_bind_ok aborted, Action.runFrom_bind_ok sent]
      rfl

end Sending
end BlobStorage.Multipart
