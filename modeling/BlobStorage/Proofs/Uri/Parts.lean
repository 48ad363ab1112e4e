import BlobStorage.Proofs.Action
import BlobStorage.Proofs.Uri
import Mathlib.Data.List.TakeWhile

/-!
The parts of an identifier as they stand in its text, and what parsing makes of them. An authority is
announced by two slashes, at the start or behind a scheme. Parsing fails just if there is an authority
that cannot be read: one whose brackets do not match, or are not around a numeric address, or one with
a character that stands for a mark.
-/
namespace BlobStorage.Uri

section Marks
variable {mark : Char} {text before after last : List Char}

/-- A part as it stands behind its mark; it may be missing together with the mark. -/
def Announced (mark : Char) (part text : List Char) : Prop :=
  text = [] ∧ part = [] ∨ text = mark :: part

/-- What stands behind the last mark of a text, or all of the text if it has none. -/
def Trailing (mark : Char) (text last : List Char) : Prop :=
  ∃ front, text = front ++ last ∧ mark ∉ last ∧ (front = [] ∨ ∃ before, front = before ++ [mark])

theorem span_eq_iff (p : Char → Bool) (text front rest : List Char) :
    text.span p = (front, rest) ↔
      text = front ++ rest ∧ (∀ c ∈ front, p c = true) ∧ ∀ c ∈ rest.head?, p c = false := by
  rw [List.span_eq_takeWhile_dropWhile, Prod.mk.injEq]
  constructor
  · rintro ⟨rfl, rfl⟩
    refine ⟨List.takeWhile_append_dropWhile.symm, fun c hc => List.mem_takeWhile_imp hc, ?_⟩
    intro c hc
    have stop := List.head?_dropWhile_not p text
    rw [Option.mem_def.mp hc] at stop
    exact stop
  · rintro ⟨rfl, all, stop⟩
    rw [List.takeWhile_append_of_pos all, List.dropWhile_append_of_pos all]
    cases rest with
    | nil => simp
    | cons c rest => simp [stop c rfl]

theorem cutAt_announced {tail : List Char} (h : mark ∉ before) (announced : Announced mark after tail) :
    cutAt mark (before ++ tail) = (before, after) := by
  rcases announced with ⟨rfl, rfl⟩ | rfl
  · rw [List.append_nil]
    exact cutAt_none mark before h
  · exact cutAt_append mark before after h

theorem cutAt_eq_iff :
    cutAt mark text = (before, after) ↔
      mark ∉ before ∧ ∃ tail, text = before ++ tail ∧ Announced mark after tail := by
  constructor
  · intro cut
    obtain ⟨spelled, front, stop⟩ :=
      (span_eq_iff _ _ _ _).mp (Prod.mk.eta (p := text.span (· ≠ mark))).symm
    simp only [cutAt, Prod.mk.injEq] at cut
    rw [cut.1] at spelled front
    refine ⟨fun found => by simpa using front mark found, _, spelled, ?_⟩
    cases rest : (text.span (· ≠ mark)).2 with
    | nil => exact .inl ⟨rfl, by rw [← cut.2, rest]; rfl⟩
    | cons c more =>
        rw [rest] at stop
        have is : c = mark := by simpa using stop c rfl
        exact .inr (by rw [← cut.2, rest, is]; rfl)
  · rintro ⟨absent, tail, rfl, announced⟩
    exact cutAt_announced absent announced

theorem trailing_iff : Trailing mark text last ↔ last = afterLast mark text := by
  have cut (front rest : List Char) :=
    span_eq_iff (· ≠ mark) text.reverse front rest
  simp only [List.span_eq_takeWhile_dropWhile, Prod.mk.injEq] at cut
  constructor
  · rintro ⟨front, spelled, absent, starts⟩
    have whole := (cut last.reverse front.reverse).mpr ⟨by rw [spelled, List.reverse_append], ?_, ?_⟩
    · rw [afterLast, whole.1, List.reverse_reverse]
    · intro c hc
      exact decide_eq_true fun same => absent (same ▸ List.mem_reverse.mp hc)
    · rcases starts with rfl | ⟨before, rfl⟩ <;> simp
  · rintro rfl
    obtain ⟨spelled, front, stop⟩ := (cut _ _).mp ⟨rfl, rfl⟩
    have turned := congrArg List.reverse spelled
    rw [List.reverse_reverse, List.reverse_append] at turned
    refine ⟨_, turned, fun found => by simpa using front mark (List.mem_reverse.mp found), ?_⟩
    cases rest : text.reverse.dropWhile (· ≠ mark) with
    | nil => exact .inl rfl
    | cons c more =>
        rw [rest] at stop
        have is : c = mark := by simpa using stop c rfl
        exact .inr ⟨more.reverse, by rw [List.reverse_cons, is]⟩

end Marks

section Authorities
variable {authority place host : List Char}

/-- The host that a place names: what stands before a colon, or within brackets. -/
inductive HostOf (place host : List Char) : Prop where
  | plain {number tail : List Char} (unbracketed : '[' ∉ place) (spelled : place = host ++ tail)
      (whole : ':' ∉ host) (announced : Announced ':' number tail)
  | bracketed {before behind tail : List Char} (spelled : place = before ++ '[' :: (host ++ tail))
      (first : '[' ∉ before) (whole : ']' ∉ host) (announced : Announced ']' behind tail)

theorem hostOf_outside (unbracketed : '[' ∉ place) :
    HostOf place host ↔ host = (cutAt ':' place).1 := by
  constructor
  · rintro (⟨-, rfl, whole, announced⟩ | ⟨rfl, -, -, -⟩)
    · rw [cutAt_announced whole announced]
    · exact absurd (by simp) unbracketed
  · rintro rfl
    obtain ⟨whole, tail, spelled, announced⟩ := cutAt_eq_iff.mp (Prod.mk.eta (p := cutAt ':' place)).symm
    exact .plain unbracketed spelled whole announced

theorem hostOf_inside {before inside : List Char} (first : '[' ∉ before) :
    HostOf (before ++ '[' :: inside) host ↔ host = (cutAt ']' inside).1 := by
  constructor
  · rintro (⟨unbracketed, -, -, -⟩ | ⟨spelled, first', whole, announced⟩)
    · exact absurd (by simp) unbracketed
    · have same := congrArg (cutAt '[') spelled
      rw [cutAt_append _ _ _ first, cutAt_append _ _ _ first', Prod.mk.injEq] at same
      rw [same.2, cutAt_announced whole announced]
  · rintro rfl
    obtain ⟨whole, tail, spelled, announced⟩ := cutAt_eq_iff.mp (Prod.mk.eta (p := cutAt ']' inside)).symm
    exact .bracketed (by rw [← spelled]) first whole announced

theorem hostOf_iff {u : Uri} : HostOf (afterLast '@' u.authority) host ↔ host = u.host := by
  by_cases found : '[' ∈ afterLast '@' u.authority
  · obtain ⟨before, inside, spelled, first⟩ := List.eq_append_cons_of_mem found
    have own : u.host = (cutAt ']' inside).1 := by
      simp [Uri.host, spelled, cutAt_append _ _ _ first]
    rw [own, spelled, hostOf_inside first]
  · have own : u.host = (cutAt ':' (afterLast '@' u.authority)).1 := by simp [Uri.host, found]
    rw [own, hostOf_outside found]

/-- The host of a place in an authority that has brackets: where they stand in the place itself, they
are around the whole host, and only a colon may follow. -/
inductive Enclosed (place host : List Char) : Prop where
  | outside (unbracketed : '[' ∉ place) (named : HostOf place host)
  | inside {behind : List Char} (spelled : place = '[' :: (host ++ behind)) (whole : ']' ∉ host)
      (ends : behind = [] ∨ behind = [']'] ∨ ∃ number, behind = ']' :: ':' :: number)

/-- An address of a future version, or one in eight parts. -/
def Numeric (host : List Char) : Prop :=
  if host.head? = some 'v' then isFuture host = true
  else Address.isEightPart host = true ∧ Address.isFourPart host = false

/-- An authority that can be read. -/
structure Readable (authority : List Char) : Prop where
  balanced : '[' ∈ authority ↔ ']' ∈ authority
  numeric : '[' ∈ authority →
    ∃ place host, Trailing '@' authority place ∧ Enclosed place host ∧ Numeric host
  undisguised : ∀ c ∈ authority, c.toNat ∉ disguised

theorem bracketedHost_outside (unbracketed : '[' ∉ afterLast '@' authority) :
    bracketedHost authority = .ok (cutAt ':' (afterLast '@' authority)).1 := by
  have cut := (span_eq_iff (· ≠ '[') (afterLast '@' authority) _ []).mpr
    ⟨(List.append_nil _).symm, fun c hc => decide_eq_true fun same => unbracketed (same ▸ hc), by simp⟩
  simp only [bracketedHost, cut]

theorem bracketedHost_inside {before inside : List Char}
    (spelled : afterLast '@' authority = before ++ '[' :: inside) (first : '[' ∉ before) :
    bracketedHost authority =
      if before = [] ∧ ((cutAt ']' inside).2 = [] ∨ (cutAt ']' inside).2.head? = some ':') then
        .ok (cutAt ']' inside).1
      else .error .unbalancedBrackets := by
  have cut := (span_eq_iff (· ≠ '[') (afterLast '@' authority) _ _).mpr
    ⟨spelled, fun c hc => decide_eq_true fun same => first (same ▸ hc), by simp⟩
  simp only [bracketedHost, cut]
  cases before with
  | nil => by_cases none : (cutAt ']' inside).2 = [] <;> simp [none]
  | cons c rest => simp

theorem bracketedHost_eq_ok_iff :
    bracketedHost authority = .ok host ↔ Enclosed (afterLast '@' authority) host := by
  by_cases found : '[' ∈ afterLast '@' authority
  · obtain ⟨before, inside, spelled, first⟩ := List.eq_append_cons_of_mem found
    rw [bracketedHost_inside spelled first]
    constructor
    · intro accepted
      split at accepted
      · rename_i ordered
        obtain ⟨rfl, ends⟩ := ordered
        cases accepted
        obtain ⟨whole, tail, split, announced⟩ :=
          cutAt_eq_iff.mp (Prod.mk.eta (p := cutAt ']' inside)).symm
        refine @Enclosed.inside _ _ tail (by rw [← split]; exact spelled) whole ?_
        rcases announced with ⟨rfl, -⟩ | is
        · exact .inl rfl
        · rw [is]
          cases rest : (cutAt ']' inside).2 with
          | nil => exact .inr (.inl rfl)
          | cons c number =>
              rw [rest] at ends
              have is : c = ':' := by simpa using ends
              exact .inr (.inr ⟨number, by rw [is]⟩)
      · cases accepted
    · rintro (⟨unbracketed, -⟩ | ⟨spelled', whole, ends⟩)
      · exact absurd found unbracketed
      · rw [spelled] at spelled'
        cases before with
        | cons c rest =>
            have is : c = '[' := (List.cons.inj spelled').1
            exact absurd (by simp [is]) first
        | nil =>
            have inner : inside = host ++ _ := (List.cons.inj spelled').2
            rcases ends with rfl | rfl | ⟨number, rfl⟩
            · rw [inner, cutAt_announced whole (.inl ⟨rfl, rfl⟩)]
              simp
            · rw [inner, cutAt_announced whole (.inr rfl)]
              simp
            · rw [inner, cutAt_announced whole (.inr rfl)]
              simp
  · rw [bracketedHost_outside found]
    constructor
    · intro same
      exact .outside found ((hostOf_outside found).mpr (Except.ok.inj same).symm)
    · rintro (⟨-, named⟩ | ⟨spelled, -, -⟩)
      · rw [(hostOf_outside found).mp named]
      · exact absurd (by simp [spelled]) found

theorem checkHost_eq_ok_iff : checkHost host = .ok () ↔ Numeric host := by
  unfold checkHost Numeric
  split
  · split <;> simp [*]
  · split
    · simp [*]
    · split <;> simp [*]

theorem checkBrackets_eq (authority : List Char) :
    checkBrackets authority =
      if '[' ∈ authority ↔ ']' ∈ authority then
        if '[' ∈ authority then bracketedHost authority >>= checkHost else .ok ()
      else .error .unbalancedBrackets := by
  unfold checkBrackets
  by_cases opened : '[' ∈ authority <;> by_cases closed : ']' ∈ authority <;>
    simp [opened, closed, bind, Except.bind, pure, Except.pure, throw, throwThe, MonadExceptOf.throw]

theorem bracketedHost_bind_eq_ok_iff :
    (bracketedHost authority >>= checkHost) = .ok () ↔
      ∃ place host, Trailing '@' authority place ∧ Enclosed place host ∧ Numeric host := by
  simp only [bind_eq_ok_iff, bracketedHost_eq_ok_iff, checkHost_eq_ok_iff, trailing_iff]
  constructor
  · rintro ⟨host, enclosed, numeric⟩
    exact ⟨_, host, rfl, enclosed, numeric⟩
  · rintro ⟨_, host, rfl, enclosed, numeric⟩
    exact ⟨host, enclosed, numeric⟩

theorem checkBrackets_eq_ok_iff :
    checkBrackets authority = .ok () ↔
      ('[' ∈ authority ↔ ']' ∈ authority) ∧ ('[' ∈ authority →
        ∃ place host, Trailing '@' authority place ∧ Enclosed place host ∧ Numeric host) := by
  rw [checkBrackets_eq, ← bracketedHost_bind_eq_ok_iff]
  split
  · rename_i balanced
    rw [and_iff_right balanced]
    split
    · rename_i opened
      exact (imp_iff_right opened).symm
    · rename_i plain
      exact iff_of_true rfl fun opened => absurd opened plain
  · rename_i unbalanced
    exact iff_of_false nofun fun h => unbalanced h.1

theorem checkDisguise_eq_ok_iff :
    checkDisguise authority = .ok () ↔ ∀ c ∈ authority, c.toNat ∉ disguised := by
  unfold checkDisguise
  split
  · rename_i found
    simpa using found
  · rename_i none
    simpa using none

theorem readable_iff :
    Readable authority ↔ checkBrackets authority = .ok () ∧ checkDisguise authority = .ok () := by
  rw [checkBrackets_eq_ok_iff, checkDisguise_eq_ok_iff]
  exact ⟨fun h => ⟨⟨h.balanced, h.numeric⟩, h.undisguised⟩, fun h => ⟨h.1.1, h.1.2, h.2⟩⟩

theorem label_of_bracketedHost {a : Ambient} (h : bracketedHost authority = .error a) :
    a.label = "ValueError" := by
  by_cases found : '[' ∈ afterLast '@' authority
  · obtain ⟨before, inside, spelled, first⟩ := List.eq_append_cons_of_mem found
    rw [bracketedHost_inside spelled first] at h
    split at h <;> cases h
    rfl
  · rw [bracketedHost_outside found] at h
    cases h

theorem label_of_checkHost {a : Ambient} (h : checkHost host = .error a) : a.label = "ValueError" := by
  unfold checkHost at h
  split at h
  · split at h <;> cases h
    rfl
  · split at h
    · cases h
      rfl
    · split at h <;> cases h
      rfl

theorem label_of_checkBrackets {a : Ambient} (h : checkBrackets authority = .error a) :
    a.label = "ValueError" := by
  rw [checkBrackets_eq] at h
  split at h
  · split at h
    · cases named : bracketedHost authority with
      | error e =>
          rw [named] at h
          cases h
          exact label_of_bracketedHost named
      | ok host =>
          rw [named] at h
          exact label_of_checkHost h
    · cases h
  · cases h
    rfl

theorem label_of_checkDisguise {a : Ambient} (h : checkDisguise authority = .error a) :
    a.label = "ValueError" := by
  unfold checkDisguise at h
  split at h <;> cases h
  rfl

end Authorities

section Placing
variable {text scheme authority rest : List Char}

/-- What stands before the two slashes that announce an authority: nothing, or a scheme and a colon. The
scheme counts in small letters. -/
inductive Heading : List Char → List Char → Prop where
  | none : Heading [] []
  | scheme {c : Char} {more : List Char} (letter : c.isAlpha = true)
      (allowed : ∀ d ∈ c :: more, isSchemeChar d = true) :
      Heading ((c :: more).map Char.toLower) (c :: more ++ [':'])

/-- A text that has an authority. -/
structure Placed (text scheme authority rest : List Char) : Prop where
  spelled : ∃ heading, Heading scheme heading ∧ text = heading ++ '/' :: '/' :: (authority ++ rest)
  whole : ∀ c ∈ authority, c ≠ '/' ∧ c ≠ '?' ∧ c ≠ '#'
  ends : ∀ c ∈ rest.head?, c = '/' ∨ c = '?' ∨ c = '#'

/-- Text that starts with a slash has no scheme. -/
theorem cutScheme_slash (more : List Char) : cutScheme ('/' :: more) = ([], '/' :: more) := by
  rcases cut : ('/' :: more).span (· ≠ ':') with ⟨front, tail⟩
  obtain ⟨spelled, -, stop⟩ := (span_eq_iff _ _ _ _).mp cut
  simp only [cutScheme, cut]
  cases front with
  | nil => rfl
  | cons c front =>
      have is : c = '/' := (List.cons.inj spelled).1.symm
      cases tail with
      | nil => rfl
      | cons d tail => simp [is, show Char.isAlpha '/' = false from by decide]

theorem cutScheme_heading {heading : List Char} (h : Heading scheme heading) (more : List Char) :
    cutScheme (heading ++ '/' :: more) = (scheme, '/' :: more) := by
  cases h with
  | none => exact cutScheme_slash more
  | @scheme c rest letter allowed =>
      have cut := (span_eq_iff (· ≠ ':') _ (c :: rest) _).mpr
        ⟨List.append_assoc (c :: rest) [':'] ('/' :: more), fun d hd => decide_eq_true fun same =>
          absurd (allowed d hd) (by rw [same]; decide), by simp⟩
      have valid : (c.isAlpha && (c :: rest).all isSchemeChar) = true := by
        rw [letter, List.all_eq_true.mpr allowed]
        rfl
      simp only [cutScheme, cut, List.singleton_append, valid, if_true]

theorem heading_of_cutScheme {more : List Char} (h : cutScheme text = (scheme, more)) :
    ∃ heading, Heading scheme heading ∧ text = heading ++ more := by
  rcases cut : text.span (· ≠ ':') with ⟨front, tail⟩
  obtain ⟨spelled, -, stop⟩ := (span_eq_iff _ _ _ _).mp cut
  simp only [cutScheme, cut] at h
  split at h
  · rename_i c front d tail
    have is : d = ':' := by simpa using stop d rfl
    split at h
    · rename_i valid
      rw [Bool.and_eq_true, List.all_eq_true] at valid
      cases h
      refine ⟨_, .scheme valid.1 valid.2, ?_⟩
      rw [spelled, is, List.append_assoc]
      rfl
    · cases h
      exact ⟨[], .none, rfl⟩
  · cases h
    exact ⟨[], .none, rfl⟩

theorem Placed.cut (h : Placed text scheme authority rest) :
    cutScheme text = (scheme, '/' :: '/' :: (authority ++ rest)) ∧
      cutAuthority ('/' :: '/' :: (authority ++ rest)) = (authority, rest) := by
  obtain ⟨heading, headed, spelled⟩ := h.spelled
  refine ⟨spelled ▸ cutScheme_heading headed _, (span_eq_iff _ _ _ _).mpr ⟨rfl, ?_, ?_⟩⟩
  · intro c hc
    obtain ⟨slash, question, number⟩ := h.whole c hc
    simp [slash, question, number]
  · intro c hc
    rcases h.ends c hc with rfl | rfl | rfl <;> rfl

/-- A text has an authority, or what is taken for one is empty. -/
theorem placed_or (text : List Char) :
    (∃ scheme authority rest, Placed text scheme authority rest) ∨
      (∀ scheme authority rest, ¬ Placed text scheme authority rest) ∧
        ∃ scheme rest, cutScheme text = (scheme, rest) ∧ cutAuthority rest = ([], rest) := by
  rcases cut : cutScheme text with ⟨scheme, more⟩
  obtain ⟨heading, headed, spelled⟩ := heading_of_cutScheme cut
  by_cases slashes : ∃ rest, more = '/' :: '/' :: rest
  · obtain ⟨rest, rfl⟩ := slashes
    rcases split : rest.span (fun c => c ≠ '/' && c ≠ '?' && c ≠ '#') with ⟨authority, rest'⟩
    obtain ⟨rfl, whole, ends⟩ := (span_eq_iff _ _ _ _).mp split
    refine .inl ⟨scheme, authority, rest', ⟨heading, headed, spelled⟩, ?_, ?_⟩
    · intro c hc
      simpa [and_assoc] using whole c hc
    · intro c hc
      have stops := ends c hc
      simp only [Bool.and_eq_false_iff, decide_eq_false_iff_not, not_not] at stops
      tauto
  · right
    refine ⟨fun s a r placed => slashes ?_, scheme, more, rfl, ?_⟩
    · rw [placed.cut.1] at cut
      exact ⟨a ++ r, (Prod.mk.inj cut).2.symm⟩
    · unfold cutAuthority
      split
      · exact absurd ⟨_, rfl⟩ slashes
      · rfl

end Placing

section Following
variable {rest path : List Char}

/-- What follows an authority has this path: parameters may stand behind its last segment, then a query,
and then a fragment. -/
structure Follows (rest path : List Char) : Prop where
  spelled : ∃ parameters query fragment p q f, rest = path ++ (p ++ (q ++ f)) ∧
    Announced ';' parameters p ∧ Announced '?' query q ∧ Announced '#' fragment f ∧
    '?' ∉ path ++ p ∧ '#' ∉ path ++ (p ++ q) ∧ '/' ∉ p
  unparted : ∀ last, Trailing '/' path last → ';' ∉ last

/-- The path of an identifier whose scheme knows parameters. -/
def pathOf (rest : List Char) : List Char :=
  (cutParameters (cutAt '?' (cutAt '#' rest).1).1).1

theorem cutParameters_eq {p parameters : List Char} (announced : Announced ';' parameters p)
    (flat : '/' ∉ p) (unparted : ∀ last, Trailing '/' path last → ';' ∉ last) :
    cutParameters (path ++ p) = (path, parameters) := by
  obtain ⟨front, spelled, whole, starts⟩ := trailing_iff.mpr (rfl : afterLast '/' path = _)
  have last : afterLast '/' (path ++ p) = afterLast '/' path ++ p := by
    refine (trailing_iff.mp ⟨front, ?_, ?_, starts⟩).symm
    · rw [← List.append_assoc, ← spelled]
    · simp [whole, flat]
  have cut := cutAt_announced (unparted _ (trailing_iff.mpr rfl)) announced
  have before : (path ++ p).take ((path ++ p).length - (afterLast '/' path ++ p).length) = front := by
    have length := congrArg List.length spelled
    rw [List.length_append] at length
    rw [List.length_append, List.length_append, show path.length + p.length -
      ((afterLast '/' path).length + p.length) = front.length by omega, spelled, List.append_assoc,
      List.take_left]
  simp only [cutParameters, last, cut, before, ← spelled]

theorem cutParameters_spec {text parameters : List Char} (h : cutParameters text = (path, parameters)) :
    ∃ p, text = path ++ p ∧ Announced ';' parameters p ∧ '/' ∉ p ∧
      ∀ last, Trailing '/' path last → ';' ∉ last := by
  obtain ⟨front, spelled, whole, starts⟩ := trailing_iff.mpr (rfl : afterLast '/' text = _)
  rcases cut : cutAt ';' (afterLast '/' text) with ⟨segment, after⟩
  obtain ⟨unparted, p, split, announced⟩ := cutAt_eq_iff.mp cut
  have before : text.take (text.length - (afterLast '/' text).length) = front := by
    have length := congrArg List.length spelled
    rw [List.length_append] at length
    rw [show text.length - (afterLast '/' text).length = front.length by omega, spelled, List.take_left]
  simp only [cutParameters, cut, before, Prod.mk.injEq] at h
  obtain ⟨rfl, rfl⟩ := h
  rw [split, List.mem_append, not_or] at whole
  refine ⟨p, by rw [List.append_assoc, ← split, ← spelled], announced, whole.2, fun last trailing => ?_⟩
  rw [trailing_iff.mp trailing, ← trailing_iff.mp ⟨front, rfl, whole.1, starts⟩]
  exact unparted

theorem follows_iff : Follows rest path ↔ path = pathOf rest := by
  constructor
  · rintro ⟨⟨parameters, query, fragment, p, q, f, rfl, hp, hq, hf, noQuery, noFragment, flat⟩, unparted⟩
    have first : cutAt '#' (path ++ (p ++ (q ++ f))) = (path ++ (p ++ q), fragment) := by
      have := cutAt_announced noFragment hf
      simpa only [List.append_assoc] using this
    have second : cutAt '?' (path ++ (p ++ q)) = (path ++ p, query) := by
      have := cutAt_announced noQuery hq
      simpa only [List.append_assoc] using this
    simp only [pathOf, first, second, cutParameters_eq hp flat unparted]
  · rintro rfl
    obtain ⟨noFragment, f, whole, hf⟩ := cutAt_eq_iff.mp (Prod.mk.eta (p := cutAt '#' rest)).symm
    obtain ⟨noQuery, q, front, hq⟩ :=
      cutAt_eq_iff.mp (Prod.mk.eta (p := cutAt '?' (cutAt '#' rest).1)).symm
    obtain ⟨p, path, hp, flat, unparted⟩ :=
      cutParameters_spec (Prod.mk.eta (p := cutParameters (cutAt '?' (cutAt '#' rest).1).1)).symm
    rw [← pathOf] at path unparted
    rw [path] at front noQuery
    rw [front] at whole noFragment
    simp only [List.append_assoc] at whole noFragment
    exact ⟨⟨_, _, _, p, q, f, whole, hp, hq, hf, noQuery, noFragment, flat⟩, unparted⟩

end Following

section Parsing
variable {text scheme authority rest more : List Char}

/-- The parts behind an authority, for a scheme in front of it. -/
def assembled (scheme authority rest : List Char) : Uri :=
  let path := (cutAt '?' (cutAt '#' rest).1).1
  let parts :=
    if parameterSchemes.contains (String.ofList scheme) then cutParameters path else (path, [])
  { scheme, authority, path := parts.1, parameters := parts.2
    query := (cutAt '?' (cutAt '#' rest).1).2, fragment := (cutAt '#' rest).2 }

theorem parse_of_cut (cut : cutScheme (cleaned text) = (scheme, more))
    (split : cutAuthority more = (authority, rest)) :
    parse text = checkBrackets authority >>= fun _ => checkDisguise authority >>= fun _ =>
      .ok (assembled scheme authority rest) := by
  simp only [parse, cut, split]
  rfl

theorem parse_readable (placed : Placed (cleaned text) scheme authority rest)
    (readable : Readable authority) : parse text = .ok (assembled scheme authority rest) := by
  obtain ⟨brackets, disguise⟩ := readable_iff.mp readable
  rw [parse_of_cut placed.cut.1 placed.cut.2, brackets, disguise]
  rfl

theorem parse_unreadable (placed : Placed (cleaned text) scheme authority rest)
    (unreadable : ¬ Readable authority) : ∃ a, parse text = .error a ∧ a.label = "ValueError" := by
  rw [parse_of_cut placed.cut.1 placed.cut.2]
  cases brackets : checkBrackets authority with
  | error a => exact ⟨a, rfl, label_of_checkBrackets brackets⟩
  | ok _ =>
      cases disguise : checkDisguise authority with
      | error a => exact ⟨a, rfl, label_of_checkDisguise disguise⟩
      | ok _ => exact absurd (readable_iff.mpr ⟨brackets, disguise⟩) unreadable

/-- Where there is no authority, nothing can be wrong with it. -/
theorem parse_unplaced (unplaced : ∀ scheme authority rest, ¬ Placed (cleaned text) scheme authority rest) :
    ∃ u, parse text = .ok u ∧ u.host = [] := by
  obtain ⟨_, _, _, placed⟩ | ⟨-, scheme, rest, cut, split⟩ := placed_or (cleaned text)
  · exact absurd placed (unplaced _ _ _)
  · exact ⟨assembled scheme [] rest, parse_of_cut cut split, rfl⟩

/-- A text has at most one authority. -/
theorem Placed.unique {scheme' authority' rest' : List Char} (h : Placed text scheme authority rest)
    (h' : Placed text scheme' authority' rest') :
    scheme = scheme' ∧ authority = authority' ∧ rest = rest' := by
  have first := h.cut.1.symm.trans h'.cut.1
  rw [Prod.mk.injEq] at first
  have second := h.cut.2
  rw [first.2, h'.cut.2, Prod.mk.injEq] at second
  exact ⟨first.1, second.1.symm, second.2.symm⟩

end Parsing
end BlobStorage.Uri
