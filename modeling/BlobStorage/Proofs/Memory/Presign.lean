import BlobStorage.Memory.Presign
import BlobStorage.Proofs.Number.Numeral
import BlobStorage.Proofs.Time.Seconds
import BlobStorage.Proofs.Uri

/-!
Presigned addresses are read before they are checked. What is signed is the reading, so an address is
genuine as soon as the four lines of its reading are lines that were signed, whichever fields they
are taken from.
-/
namespace BlobStorage.Memory.Presign
open Text.Percent

structure Reading where
  operation : Option String
  bucket : String
  key : String
  expires : Option String
  signature : String

namespace Reading

def payload (r : Reading) : Content :=
  Presign.payload (r.operation.getD "") r.bucket r.key (r.expires.getD "")

def IsGenuine (s : Backend) (r : Reading) : Prop :=
  r.signature = Digest.Sha256.signHex s.signingKey r.payload

instance (s : Backend) (r : Reading) : Decidable (r.IsGenuine s) :=
  inferInstanceAs (Decidable (_ = _))

/-- What a genuine reading grants at a moment. -/
def granted (r : Reading) (now : Moment) : Except Failure Grant :=
  match r.expires with
  | none => .error (.ambient (.fieldMissing (.text "expires")))
  | some expires => do
      let second ← numeral expires
      if second < (← secondOf now) then throw (.memory .expired)
      match r.operation with
      | none => throw (.ambient (.fieldMissing (.text "operation")))
      | some operation => return ⟨operation, r.bucket, r.key⟩

def check (s : Backend) (r : Reading) (now : Moment) : Except Failure Grant :=
  if !isAscii r.signature then .error (.ambient .strangeSignature)
  else if ¬ r.IsGenuine s then .error (.memory .signature)
  else r.granted now

end Reading

def read (address : String) : Except Ambient Reading := do
  let uri ← Uri.parse address.toList
  let query := fields uri.query
  let field (name : String) : Option String := (query.find? (·.1 = name)).map (·.2)
  return {
    operation := field "operation"
    bucket := String.ofList uri.authority
    key := String.ofList (decode (uri.path.dropWhile (· = '/')))
    expires := field "expires"
    signature := (field "signature").getD "" }

theorem verify_eq (s : Backend) (address : String) (now : Moment) :
    verify s address now =
      match read address with
      | .error a => .error (.ambient a)
      | .ok r => r.check s now := by
  cases parsed : Uri.parse address.toList with
  | error a => simp [verify, read, parsed, Except.mapError, bind, Except.bind]
  | ok uri =>
      simp only [verify, read, parsed, Except.mapError, bind, Except.bind, pure, Except.pure]
      rfl

theorem isAscii_signHex (key message : Content) :
    isAscii (Digest.Sha256.signHex key message) = true := by
  rw [isAscii, List.all_eq_true]
  intro c hc
  rw [Digest.Sha256.signHex, String.toList_ofList] at hc
  have plain : unreserved c = true := by
    simp [unreserved, Text.Hex.alphanum_of_mem_encode hc]
  simpa using (visible_of_unreserved plain).2

namespace Reading

theorem check_of_genuine {s : Backend} {r : Reading} (h : r.IsGenuine s) (now : Moment) :
    r.check s now = r.granted now := by
  have ascii : isAscii r.signature = true := by
    rw [h]
    exact isAscii_signHex _ _
  simp [check, ascii, h]

theorem check_of_not_genuine {s : Backend} {r : Reading} (h : ¬ r.IsGenuine s) (now : Moment) :
    r.check s now = .error (if isAscii r.signature then .memory .signature
      else .ambient .strangeSignature) := by
  cases ascii : isAscii r.signature <;> simp [check, ascii, h]

end Reading

section Fields

theorem fields_encodePairs (pairs : List (String × String)) (some_pairs : pairs ≠ []) :
    fields (encodePairs pairs) = pairs.filter (·.2 ≠ "") := by
  have split : (encodePairs pairs).splitOn '&' =
      pairs.map fun pair => encodeForm pair.1.toList ++ '=' :: encodeForm pair.2.toList := by
    apply List.splitOn_intercalate
    · intro piece hp
      simp only [List.mem_map] at hp
      obtain ⟨pair, _, rfl⟩ := hp
      intro mark
      have := mem_encodePair pair '&' mark
      revert this
      decide
    · simpa using some_pairs
  have each (pair : String × String) :
      Uri.cutAt '=' (encodeForm pair.1.toList ++ '=' :: encodeForm pair.2.toList) =
        (encodeForm pair.1.toList, encodeForm pair.2.toList) := by
    apply Uri.cutAt_append
    intro mark
    have := mem_encodeForm mark
    revert this
    decide
  rw [fields, split, List.filterMap_map, ← List.filterMap_eq_filter]
  congr 1
  funext pair
  have blank_iff : encodeForm pair.2.toList = [] ↔ pair.2 = "" := by
    rw [encodeForm_eq_nil_iff, String.toList_eq_nil_iff]
  simp only [Function.comp_apply, each, decodeForm_encodeForm, List.isEmpty_iff, blank_iff]
  by_cases blank : pair.2 = "" <;> simp [blank, Option.guard]

/-- A field as it is found again; an empty one is not. -/
def fieldOf (text : String) : Option String :=
  if text = "" then none else some text

end Fields

/-- A written address reads as what it was written for, but for the slashes before the key. -/
theorem read_address (operation bucket key expires signature : String)
    (plain : ∀ c ∈ bucket.toList, unreserved c = true) :
    read (address operation bucket key expires signature) = .ok {
      operation := fieldOf operation
      bucket
      key := String.ofList (key.toList.dropWhile (· = '/'))
      expires := fieldOf expires
      signature } := by
  have text : (address operation bucket key expires signature).toList =
      "memory://".toList ++ (bucket.toList ++ '/' :: (encodePath key.toList ++ '?' :: encodePairs
        [("operation", operation), ("expires", expires), ("signature", signature)])) := by
    simp [address, String.toList_append]
  have path : ∀ c ∈ encodePath key.toList, 0x20 < c.toNat ∧ c ≠ '?' ∧ c ≠ '#' := by
    intro c hc
    cases mem_encodePath hc with
    | inl plain =>
        exact ⟨(visible_of_unreserved plain).1, ne_of_unreserved plain (by decide),
          ne_of_unreserved plain (by decide)⟩
    | inr mark => cases mark with
      | inl slash => subst slash; decide
      | inr percent => subst percent; decide
  have query : ∀ c ∈ encodePairs
      [("operation", operation), ("expires", expires), ("signature", signature)],
      0x20 < c.toNat ∧ c ≠ '#' := by
    intro c hc
    cases mem_encodePairs _ c hc with
    | inl plain => exact ⟨(visible_of_unreserved plain).1, ne_of_unreserved plain (by decide)⟩
    | inr mark =>
        have marks : ∀ d ∈ ['+', '%', '=', '&'], 0x20 < d.toNat ∧ d ≠ '#' := by simp
        exact marks c (by simpa using mark)
  rw [read, text, Uri.parse_memory _ _ _ plain path query]
  simp only [fields_encodePairs _ (List.cons_ne_nil _ _), bind, Except.bind, pure, Except.pure]
  have path_key : ('/' :: encodePath key.toList).dropWhile (· = '/') =
      encodePath (key.toList.dropWhile (· = '/')) := by
    rw [List.dropWhile_cons_of_pos (by decide), dropWhile_encodePath]
  simp only [path_key, decode_encodePath, String.ofList_toList]
  by_cases no_operation : operation = "" <;> by_cases no_expires : expires = "" <;>
    by_cases no_signature : signature = "" <;>
      simp [fieldOf, no_operation, no_expires, no_signature]

section Lines

def lines (operation bucket key expires : String) : List Char :=
  operation.toList ++ '\n' :: (bucket.toList ++ '\n' :: (key.toList ++ '\n' :: expires.toList))

theorem payload_eq (operation bucket key expires : String) :
    payload operation bucket key expires =
      Content.ofText (String.ofList (lines operation bucket key expires)) := by
  rw [payload]
  congr 1
  rw [← String.toList_inj]
  simp [String.toList_append, lines]

theorem payload_inj {operation bucket key expires operation' bucket' key' expires' : String} :
    payload operation bucket key expires = payload operation' bucket' key' expires' ↔
      lines operation bucket key expires = lines operation' bucket' key' expires' := by
  rw [payload_eq, payload_eq, Content.ofText_inj, String.ofList_inj]

theorem first_line {line rest other more : List Char} (whole : '\n' ∉ line)
    (same : line ++ '\n' :: rest = other ++ '\n' :: more) :
    other = line ∨ ∃ tail, other = line ++ '\n' :: tail := by
  cases List.append_eq_append_iff.mp same with
  | inl longer =>
      obtain ⟨tail, whole_other, rest⟩ := longer
      cases tail with
      | nil => exact .inl (by simpa using whole_other)
      | cons c tail =>
          simp only [List.cons_append, List.cons.injEq] at rest
          exact .inr ⟨tail, by rw [whole_other, ← rest.1]⟩
  | inr shorter =>
      obtain ⟨tail, whole_line, rest⟩ := shorter
      cases tail with
      | nil => exact .inl (by simpa using whole_line.symm)
      | cons c tail =>
          simp only [List.cons_append, List.cons.injEq] at rest
          rw [whole_line, ← rest.1] at whole
          simp at whole

theorem last_line {line front other before : List Char} (whole : '\n' ∉ line)
    (same : front ++ '\n' :: line = before ++ '\n' :: other) :
    other = line ∨ ∃ tail, other = tail ++ '\n' :: line := by
  have reversed := congrArg List.reverse same
  simp only [List.reverse_append, List.reverse_cons, List.append_assoc, List.singleton_append]
    at reversed
  cases first_line (by simpa using whole) reversed with
  | inl eq => exact .inl (List.reverse_inj.mp eq)
  | inr longer =>
      obtain ⟨tail, eq⟩ := longer
      refine .inr ⟨tail.reverse, ?_⟩
      rw [← List.reverse_inj, eq]
      simp

theorem splitOn_eq_self (text : List Char) (h : (text.splitOn '\n').length = 1) :
    text.splitOn '\n' = [text] := by
  obtain ⟨only, eq⟩ := List.length_eq_one_iff.mp h
  have whole : ['\n'].intercalate (text.splitOn '\n') = text := List.intercalate_splitOn '\n'
  rw [eq, List.intercalate_singleton] at whole
  rw [eq, whole]

/-- Four texts that make up the same lines as four whole lines are these lines. -/
theorem lines_inj {operation bucket key expires operation' bucket' key' expires' : String}
    (whole : ∀ text ∈ [operation, bucket, key, expires], '\n' ∉ text.toList)
    (same : lines operation bucket key expires = lines operation' bucket' key' expires') :
    operation' = operation ∧ bucket' = bucket ∧ key' = key ∧ expires' = expires := by
  simp only [List.forall_mem_cons, List.not_mem_nil, false_imp_iff, implies_true, and_true] at whole
  have split := congrArg (List.splitOn '\n') same
  simp only [lines, List.splitOn_append_cons_self, List.splitOn_eq_singleton whole.1,
    List.splitOn_eq_singleton whole.2.1, List.splitOn_eq_singleton whole.2.2.1,
    List.splitOn_eq_singleton whole.2.2.2] at split
  have count := congrArg List.length split
  simp only [List.length_append, List.length_singleton] at count
  have some (text : List Char) : 0 < (text.splitOn '\n').length :=
    List.length_pos_iff.mpr (List.splitOn_ne_nil _ _)
  have := some operation'.toList
  have := some bucket'.toList
  have := some key'.toList
  have := some expires'.toList
  rw [splitOn_eq_self operation'.toList (by omega),
    splitOn_eq_self bucket'.toList (by omega),
    splitOn_eq_self key'.toList (by omega),
    splitOn_eq_self expires'.toList (by omega)] at split
  simp only [List.cons_append, List.nil_append, List.cons.injEq, String.toList_inj, and_true]
    at split
  exact ⟨split.1.symm, split.2.1.symm, split.2.2.1.symm, split.2.2.2.symm⟩

end Lines

/-- What an address is made for. -/
structure Issue where
  operation : PresignedOperation
  bucket : String
  key : String
  second : Int

namespace Issue

def signature (i : Issue) (s : Backend) : String :=
  sign s i.operation.name i.bucket i.key (toString i.second)

def address (i : Issue) (s : Backend) : String :=
  Presign.address i.operation.name i.bucket i.key (toString i.second) (i.signature s)

def lines (i : Issue) : List Char :=
  Presign.lines i.operation.name i.bucket i.key (toString i.second)

/-- Neither name runs over a line end. -/
def IsWhole (i : Issue) : Prop := '\n' ∉ i.bucket.toList ∧ '\n' ∉ i.key.toList

theorem whole_operation (operation : PresignedOperation) :
    operation.name ≠ "" ∧ '\n' ∉ operation.name.toList := by
  cases operation <;> decide

theorem whole_second (second : Int) : '\n' ∉ (toString second).toList := fun found =>
  absurd (Number.Numeral.isSpace_toString second _ found) (by decide)

theorem whole_lines (i : Issue) (whole : i.IsWhole) :
    ∀ text ∈ [i.operation.name, i.bucket, i.key, toString i.second], '\n' ∉ text.toList := by
  simp only [List.forall_mem_cons, List.not_mem_nil, false_imp_iff, implies_true, and_true]
  exact ⟨(whole_operation i.operation).2, whole.1, whole.2, whole_second i.second⟩

end Issue

theorem create_eq_ok_iff (s : Backend) (operation : PresignedOperation) (bucket key : String)
    (duration : Duration) (text : String) :
    create s operation bucket key duration = .ok text ↔
      ∃ deadline second, s.now.add? duration = some deadline ∧
        deadline.timestamp? = some second ∧
        text = Issue.address ⟨operation, bucket, key, second⟩ s := by
  cases sum : s.now.add? duration with
  | none => simp [create, sum]
  | some deadline =>
      cases counted : deadline.timestamp? with
      | none => simp [create, sum, secondOf, counted, bind, Except.bind]
      | some second =>
          have made : create s operation bucket key duration =
              .ok (Issue.address ⟨operation, bucket, key, second⟩ s) := by
            simp [create, sum, secondOf, counted, bind, Except.bind, pure, Except.pure,
              Issue.address, Issue.signature]
          rw [made]
          simp [counted, eq_comm]

theorem numeral_eq_ok_iff (text : String) (n : Int) :
    numeral text = .ok n ↔ Number.Numeral.int text.toList = .ok n := by
  rw [numeral]
  cases Number.Numeral.int text.toList with
  | ok m => simp
  | error f => cases f <;> simp

theorem secondOf_aware {now : Moment} (aware : now.Aware) :
    secondOf now = .ok (Duration.wholeSeconds ⟨now.universal⟩) := by
  rw [secondOf, aware.timestamp?_eq]

/-- Whatever a reading of signed lines takes for the operation and the second, it takes the first
line for a part of the one and the last line for a part of the other. -/
theorem fields_of_lines {i : Issue} {r : Reading}
    (same : i.lines = lines (r.operation.getD "") r.bucket r.key (r.expires.getD "")) :
    ∃ operation expires, r.operation = some operation ∧ r.expires = some expires ∧
      (expires.toList = (toString i.second).toList ∨
        ∃ tail, expires.toList = tail ++ '\n' :: (toString i.second).toList) := by
  have first := first_line (Issue.whole_operation i.operation).2 same
  have ends : (i.operation.name.toList ++ '\n' :: (i.bucket.toList ++ '\n' :: i.key.toList)) ++
      '\n' :: (toString i.second).toList =
        ((r.operation.getD "").toList ++ '\n' :: (r.bucket.toList ++ '\n' :: r.key.toList)) ++
          '\n' :: (r.expires.getD "").toList := by
    simpa [Issue.lines, lines] using same
  have last := last_line (Issue.whole_second i.second) ends
  cases named : r.operation with
  | none =>
      rw [named] at first
      cases first with
      | inl eq => exact absurd (String.toList_inj.mp eq).symm (Issue.whole_operation i.operation).1
      | inr longer =>
          obtain ⟨tail, eq⟩ := longer
          simp at eq
  | some operation =>
      cases dated : r.expires with
      | none =>
          rw [dated] at last
          cases last with
          | inl eq => exact absurd eq.symm (Number.Numeral.toString_ne_nil i.second)
          | inr longer =>
              obtain ⟨tail, eq⟩ := longer
              simp at eq
      | some expires =>
          rw [dated] at last
          exact ⟨operation, expires, rfl, rfl, last⟩

/-- A genuine reading grants what it reads until the second it names. -/
theorem Reading.granted_of_second {r : Reading} {operation expires : String} {second : Int}
    {now : Moment} (named : r.operation = some operation) (dated : r.expires = some expires)
    (number : numeral expires = .ok second) (aware : now.Aware) :
    r.granted now = if second < Duration.wholeSeconds ⟨now.universal⟩ then
      .error (.memory .expired) else .ok ⟨operation, r.bucket, r.key⟩ := by
  simp only [granted, named, dated, number, secondOf_aware aware, bind, Except.bind, pure,
    Except.pure]
  split <;> rfl

section Granting
variable {i : Issue} {r : Reading} {now : Moment} (aware : now.Aware)
  (counted : i.second.natAbs < 10 ^ Number.Numeral.digitLimit)
include aware counted

/-- A reading with the lines that were signed grants what it reads until the second that was signed.
If a name has a line end in it, the lines may be read in other ways, and then there may be no number
where the second is looked for. -/
theorem granted_of_lines
    (same : i.lines = lines (r.operation.getD "") r.bucket r.key (r.expires.getD "")) :
    (∃ operation, r.operation = some operation ∧
      Duration.wholeSeconds ⟨now.universal⟩ ≤ i.second ∧
      r.granted now = .ok ⟨operation, r.bucket, r.key⟩) ∨
    (i.second < Duration.wholeSeconds ⟨now.universal⟩ ∧
      r.granted now = .error (.memory .expired)) ∨
    (¬ i.IsWhole ∧ ∃ expires f, r.expires = some expires ∧ numeral expires = .error f ∧
      r.granted now = .error f) := by
  obtain ⟨operation, expires, named, dated, last⟩ := fields_of_lines same
  cases read : numeral expires with
  | ok second =>
      have parsed := (numeral_eq_ok_iff _ _).mp read
      have signed : second = i.second := by
        cases last with
        | inl eq =>
            rw [eq, Number.Numeral.int_toString i.second counted] at parsed
            exact (Except.ok.inj parsed).symm
        | inr longer =>
            obtain ⟨tail, eq⟩ := longer
            rw [eq] at parsed
            exact Number.Numeral.int_lines tail i.second second counted parsed
      have granted := Reading.granted_of_second named dated read aware
      split at granted
      case isTrue late => exact .inr (.inl ⟨signed ▸ late, granted⟩)
      case isFalse early => exact .inl ⟨operation, named, by omega, granted⟩
  | error f =>
      refine .inr (.inr ⟨fun whole => ?_, expires, f, dated, read, ?_⟩)
      · have own := lines_inj (i.whole_lines whole) same
        rw [dated, Option.getD_some] at own
        have good := (numeral_eq_ok_iff expires i.second).mpr
          (own.2.2.2 ▸ Number.Numeral.int_toString i.second counted)
        rw [read] at good
        cases good
      · simp [Reading.granted, dated, read, bind, Except.bind]

end Granting

end BlobStorage.Memory.Presign
