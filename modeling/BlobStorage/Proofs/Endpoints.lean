import BlobStorage.Proofs.Settings.Calls
import BlobStorage.Proofs.Uri.Parts
import BlobStorage.Proofs.Validation

/-!
Endpoints. A text is taken for one just if it is the address of a host on the web and its authority can
be read. Any other text whose authority can be read is refused as an invalid argument; where it cannot,
parsing fails, and that failure is what comes out. A builder keeps the text or stays as it was.
-/
namespace BlobStorage

namespace Uri

/-- The address of a host on the web. That of a proxy has no path but a slash. -/
def Web (proxy : Bool) (text : List Char) : Prop :=
  ∃ scheme authority rest, Placed (cleaned text) scheme authority rest ∧
    (scheme = "http".toList ∨ scheme = "https".toList) ∧
    (∃ place host, Trailing '@' authority place ∧ HostOf place host ∧ host ≠ []) ∧
    (proxy = true → ∃ path, Follows rest path ∧ (path = [] ∨ path = ['/']))

/-- Where a text has an authority, it can be read. -/
def Legible (text : List Char) : Prop :=
  ∀ scheme authority rest, Placed (cleaned text) scheme authority rest → Readable authority

/-- An identifier that is the address of a host on the web. -/
structure Reaches (u : Uri) (proxy : Bool) : Prop where
  scheme : u.scheme = "http".toList ∨ u.scheme = "https".toList
  host : u.host ≠ []
  path : proxy = true → u.path = [] ∨ u.path = ['/']

theorem web_iff {proxy : Bool} {text scheme authority rest : List Char}
    (placed : Placed (cleaned text) scheme authority rest) :
    Web proxy text ↔ (assembled scheme authority rest).Reaches proxy := by
  have path (web : scheme = "http".toList ∨ scheme = "https".toList) :
      (assembled scheme authority rest).path = pathOf rest := by
    rcases web with rfl | rfl <;> rfl
  constructor
  · rintro ⟨_, _, _, placed', web, ⟨place, host, trailing, named, some⟩, bare⟩
    obtain ⟨rfl, rfl, rfl⟩ := placed.unique placed'
    rw [trailing_iff.mp trailing] at named
    have own : host = (assembled scheme authority rest).host := hostOf_iff.mp named
    refine ⟨web, own ▸ some, fun is => ?_⟩
    obtain ⟨path', follows, bare⟩ := bare is
    rwa [path web, ← follows_iff.mp follows]
  · rintro ⟨web, host, bare⟩
    refine ⟨scheme, authority, rest, placed, web, ?_, fun is => ⟨_, follows_iff.mpr rfl, ?_⟩⟩
    · exact ⟨_, _, trailing_iff.mpr rfl, hostOf_iff (u := assembled scheme authority rest).mpr rfl, host⟩
    · rw [← path web]
      exact bare is

end Uri

namespace Check
open Uri
variable {proxy : Bool} {text : String} {u : Uri}

theorem address_eq_ok (parsed : parse text.toList = .ok u) (reaches : u.Reaches proxy) :
    address proxy text = .ok () := by
  unfold address
  rw [parsed]
  dsimp only
  rw [if_neg, if_neg, if_neg]
  · rintro ⟨is, neither, nor⟩
    rcases reaches.path is with path | path
    · exact neither path
    · exact nor path
  · simpa using reaches.host
  · rintro ⟨neither, nor⟩
    rcases reaches.scheme with scheme | scheme
    · exact neither scheme
    · exact nor scheme

theorem address_eq_refused (parsed : parse text.toList = .ok u) (misses : ¬ u.Reaches proxy) :
    ∃ reason, address proxy text = .error (.refused reason) ∧ reason.kind = .invalidArgument := by
  unfold address
  rw [parsed]
  dsimp only
  split
  · exact ⟨_, rfl, rfl⟩
  · split
    · exact ⟨_, rfl, rfl⟩
    · split
      · exact ⟨_, rfl, rfl⟩
      · rename_i scheme host path
        refine absurd ⟨?_, ?_, fun is => ?_⟩ misses
        · tauto
        · simpa using host
        · tauto

theorem address_of_web (legible : Legible text.toList) (web : Web proxy text.toList) :
    address proxy text = .ok () := by
  obtain ⟨scheme, authority, rest, placed, -⟩ := id web
  exact address_eq_ok (parse_readable placed (legible _ _ _ placed)) ((web_iff placed).mp web)

theorem address_of_not_web (legible : Legible text.toList) (other : ¬ Web proxy text.toList) :
    ∃ reason, address proxy text = .error (.refused reason) ∧ reason.kind = .invalidArgument := by
  by_cases found : ∃ scheme authority rest, Placed (cleaned text.toList) scheme authority rest
  · obtain ⟨scheme, authority, rest, placed⟩ := found
    exact address_eq_refused (parse_readable placed (legible _ _ _ placed))
      (mt (web_iff placed).mpr other)
  · obtain ⟨u, parsed, none⟩ := parse_unplaced fun s a r placed => found ⟨s, a, r, placed⟩
    exact address_eq_refused parsed fun reaches => reaches.host none

theorem address_of_illegible (illegible : ¬ Legible text.toList) :
    ∃ a, address proxy text = .error (.ambient a) ∧ a.label = "ValueError" := by
  simp only [Legible, not_forall] at illegible
  obtain ⟨scheme, authority, rest, placed, unreadable⟩ := illegible
  obtain ⟨a, failed, label⟩ := parse_unreadable placed unreadable
  exact ⟨a, by rw [address, failed], label⟩

theorem address_eq_ok_iff :
    address proxy text = .ok () ↔ Legible text.toList ∧ Web proxy text.toList := by
  constructor
  · intro accepted
    by_cases legible : Legible text.toList
    · by_cases web : Web proxy text.toList
      · exact ⟨legible, web⟩
      · obtain ⟨_, refused, -⟩ := address_of_not_web legible web
        rw [accepted] at refused
        cases refused
    · obtain ⟨_, failed, -⟩ := @address_of_illegible proxy _ legible
      rw [accepted] at failed
      cases failed
  · rintro ⟨legible, web⟩
    exact address_of_web legible web

end Check

def endpointSetting (proxy : Bool) : String := if proxy then "proxy_endpoint" else "endpoint"

def endpointSetter (proxy : Bool) : String :=
  if proxy then "with_proxy_endpoint" else "with_endpoint"

def endpointCall (proxy : Bool) (receiver : Receiver) (text : String) : SetterCall :=
  ⟨receiver, endpointSetter proxy, [.plain (.text text)]⟩

theorem settingOf?_endpointSetter (proxy : Bool) :
    Factory.settingOf? (endpointSetter proxy) = some (endpointSetting proxy) := by
  cases proxy <;> decide

theorem rule_endpointSetting (proxy : Bool) :
    SetterRule.of? (endpointSetting proxy) = some (.endpoint proxy) := by
  cases proxy <;> decide

theorem runFrom_endpointCall (f : Factory) {b : Builder} (standard : b.validator = none) (proxy : Bool)
    (receiver : Receiver) (text : String) :
    (f.carryOut (endpointCall proxy receiver text)).runFrom b =
      match Check.address proxy text with
      | .ok _ => (.ok receiver,
          { b with settings := b.settings.set (endpointSetting proxy) (.plain (.text text)) })
      | .error e => (.error e, b) := by
  have kept : (SetterRule.endpoint proxy).accept (endpointSetting proxy) (.plain (.text text)) =
      (Check.address proxy text).map fun _ => .plain (.text text) := by
    change (Check.address proxy text >>= fun _ => .ok (Setting.plain (.text text))) = _
    cases Check.address proxy text <;> rfl
  rw [Factory.runFrom_carryOut, endpointCall, Factory.callSetter_eq standard
    (settingOf?_endpointSetter proxy) (rule_endpointSetting proxy), kept]
  cases Check.address proxy text <;> rfl

structure EndpointLaws (proxy : Bool) (text : String) : Prop where
  accepted : Check.endpoint proxy (.text text) = .ok () ↔
    Uri.Legible text.toList ∧ Uri.Web proxy text.toList
  refused : Uri.Legible text.toList → ¬ Uri.Web proxy text.toList →
    ∃ reason, Check.endpoint proxy (.text text) = .error (.refused reason) ∧
      (Failure.refused reason).label = "InvalidArgumentError"
  /-- Where an authority cannot be read, parsing fails, whatever else is wrong with the text. -/
  failed : ¬ Uri.Legible text.toList →
    ∃ a, Check.endpoint proxy (.text text) = .error (.ambient a) ∧ a.label = "ValueError"
  /-- A text that is accepted is kept as it is. -/
  kept : ∀ {f : Factory} {b : Builder} {receiver}, b.validator = none →
    Check.endpoint proxy (.text text) = .ok () →
    (f.carryOut (endpointCall proxy receiver text)).runFrom b =
      (.ok receiver,
        { b with settings := b.settings.set (endpointSetting proxy) (.plain (.text text)) })
  /-- Otherwise the failure comes out, and nothing is changed. -/
  rejected : ∀ {f : Factory} {b : Builder} {receiver e}, b.validator = none →
    Check.endpoint proxy (.text text) = .error e →
    (f.carryOut (endpointCall proxy receiver text)).runFrom b = (.error e, b)

theorem endpoints_of_texts (proxy : Bool) (text : String) : EndpointLaws proxy text where
  accepted := Check.address_eq_ok_iff
  refused legible other := by
    obtain ⟨reason, refused, kind⟩ := Check.address_of_not_web legible other
    exact ⟨reason, refused, congrArg ErrorKind.label kind⟩
  failed := Check.address_of_illegible
  kept standard accepted := by
    have accepted : Check.address proxy text = .ok () := accepted
    rw [runFrom_endpointCall _ standard, accepted]
  rejected standard rejected := by
    have rejected : Check.address proxy text = .error _ := rejected
    rw [runFrom_endpointCall _ standard, rejected]

example : Check.endpoint false (.text "http://[]") = .error (.ambient (.notAddress "")) := by
  rfl

end BlobStorage
