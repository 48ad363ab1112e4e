import BlobStorage.Proofs.Table
import BlobStorage.Proxy

/-!
Where the proxies of a client come from. What both sources report is gathered first, the environment
over the system, and then the explicit proxy is set over it; so proxies are read scheme by scheme, and a
source that is switched off has no say in any of them.
-/
namespace BlobStorage

/-- What a source reports: no scheme comes twice. -/
structure ProxySource where
  proxies : Proxies
  distinct : proxies.Distinct

namespace Proxies
variable {c : Config} {system environment : ProxySource} {scheme address : String}

/-- A toggle that is not set counts as switched on. -/
def Enabled (toggle : Option Bool) : Prop := toggle ≠ some false

instance (toggle : Option Bool) : Decidable (Enabled toggle) := inferInstanceAs (Decidable (_ ≠ _))

/-- An address that a source reports for a scheme, with none that goes before it. -/
inductive Reported (c : Config) (system environment : Proxies) (scheme address : String) : Prop
  | environment : Enabled c.useEnvironmentProxies → environment.get? scheme = some address →
      Reported c system environment scheme address
  | system : Enabled c.useSystemProxies → system.get? scheme = some address →
      (Enabled c.useEnvironmentProxies → environment.get? scheme = none) →
      (¬ Enabled c.useEnvironmentProxies → environment.get? scheme ≠ some address) →
      Reported c system environment scheme address

section Gathering

def ofSystem (c : Config) (system : Proxies) : Proxies :=
  if Enabled c.useSystemProxies then Table.ofPairs system else []

/-- What the sources report together. -/
def gathered (c : Config) (system environment : Proxies) : Proxies :=
  if Enabled c.useEnvironmentProxies then (ofSystem c system).merge environment
  else (ofSystem c system).without environment

/-- The explicit proxy, set over what was found. -/
def overridden (c : Config) (found : Proxies) : Proxies :=
  match c.proxyEndpoint with
  | some address => (found.set "http" address).set "https" address
  | none => found

theorem resolve_eq (c : Config) (system environment : Proxies) :
    resolve c system environment =
      if c.hasProxySettings then some ((overridden c (gathered c system environment)).erase "no")
      else none := by
  have found : gathered c system environment =
      (if Enabled c.useEnvironmentProxies then (ofSystem c system).merge environment
      else if Enabled c.useSystemProxies then (ofSystem c system).without environment
      else ofSystem c system) := by
    by_cases on : Enabled c.useSystemProxies
    · rw [if_pos on]
      rfl
    · have nothing : ofSystem c system = [] := if_neg on
      rw [if_neg on, gathered, nothing]
      rfl
  rw [found]
  cases settings : c.hasProxySettings <;> rw [resolve, settings] <;> rfl

theorem distinct_ofSystem (c : Config) (system : Proxies) : (ofSystem c system).Distinct := by
  have empty : Table.Distinct ([] : Proxies) := List.nodup_nil
  unfold ofSystem
  split
  · exact empty.merge system
  · exact empty

theorem get?_ofSystem (c : Config) (system : ProxySource) (scheme : String) :
    (ofSystem c system.proxies).get? scheme =
      if Enabled c.useSystemProxies then system.proxies.get? scheme else none := by
  unfold ofSystem
  split
  · have read := Table.get?_merge [] system.distinct scheme
    rwa [Table.get?_nil, Option.or_none] at read
  · rfl

theorem distinct_gathered (c : Config) (system environment : Proxies) :
    (gathered c system environment).Distinct := by
  unfold gathered
  split
  · exact (distinct_ofSystem c system).merge environment
  · exact (distinct_ofSystem c system).filter _

theorem get?_without {t : Proxies} (distinct : t.Distinct) (other : Proxies) :
    (t.without other).get? scheme = some address ↔
      t.get? scheme = some address ∧ other.get? scheme ≠ some address := by
  rw [without, Table.get?_filter distinct, Option.filter_eq_some_iff, decide_eq_true_iff]

/-- What is gathered for a scheme is what a source reports for it. -/
theorem get?_gathered :
    (gathered c system.proxies environment.proxies).get? scheme = some address ↔
      Reported c system.proxies environment.proxies scheme address := by
  unfold gathered
  split
  · rename_i on
    rw [Table.get?_merge _ environment.distinct, get?_ofSystem, Option.or_eq_some_iff]
    constructor
    · rintro (found | ⟨missing, found⟩)
      · exact .environment on found
      · obtain ⟨systemOn, found⟩ := Option.ite_none_right_eq_some.mp found
        exact .system systemOn found (fun _ => missing) fun off => absurd on off
    · rintro (⟨-, found⟩ | ⟨systemOn, found, missing, -⟩)
      · exact .inl found
      · exact .inr ⟨missing on, Option.ite_none_right_eq_some.mpr ⟨systemOn, found⟩⟩
  · rename_i off
    rw [get?_without (distinct_ofSystem _ _), get?_ofSystem, Option.ite_none_right_eq_some]
    constructor
    · rintro ⟨⟨systemOn, found⟩, differs⟩
      exact .system systemOn found (fun on => absurd on off) fun _ => differs
    · rintro (⟨on, -⟩ | ⟨systemOn, found, -, differs⟩)
      · exact absurd on off
      · exact ⟨⟨systemOn, found⟩, differs off⟩

end Gathering

section Overriding

theorem distinct_overridden (c : Config) {found : Proxies} (distinct : found.Distinct) :
    (overridden c found).Distinct := by
  unfold overridden
  split
  · exact (distinct.set _ _).set _ _
  · exact distinct

/-- Whether an explicit proxy is set for a scheme. -/
def Explicit (c : Config) (scheme : String) : Prop :=
  c.proxyEndpoint.isSome ∧ (scheme = "http" ∨ scheme = "https")

theorem get?_overridden_of_explicit {found : Proxies} (explicit : Explicit c scheme) :
    (overridden c found).get? scheme = c.proxyEndpoint := by
  obtain ⟨set, web⟩ := explicit
  obtain ⟨address, given⟩ := Option.isSome_iff_exists.mp set
  unfold overridden
  rw [given]
  dsimp only
  rcases web with rfl | rfl
  · rw [Table.get?_set_ne _ _ (by decide), Table.get?_set_self]
  · rw [Table.get?_set_self]

theorem get?_overridden_of_not_explicit {found : Proxies} (free : ¬ Explicit c scheme) :
    (overridden c found).get? scheme = found.get? scheme := by
  unfold overridden
  split
  · rename_i given
    have other : ¬ (scheme = "http" ∨ scheme = "https") := fun web =>
      free ⟨Option.isSome_iff_exists.mpr ⟨_, given⟩, web⟩
    rw [Table.get?_set_ne _ _ fun same => other (.inr same.symm),
      Table.get?_set_ne _ _ fun same => other (.inl same.symm)]
  · rfl

end Overriding

section Resolving
variable {proxies : Proxies}

/-- An entry of the proxies of a client: the explicit one, or one that a source reports. -/
def Sourced (c : Config) (system environment : Proxies) (scheme address : String) : Prop :=
  scheme ≠ "no" ∧
    (Explicit c scheme → c.proxyEndpoint = some address) ∧
    (¬ Explicit c scheme → Reported c system environment scheme address)

theorem resolve_eq_some_iff : resolve c system.proxies environment.proxies = some proxies ↔
    c.hasProxySettings = true ∧
      proxies = (overridden c (gathered c system.proxies environment.proxies)).erase "no" := by
  rw [resolve_eq]
  split
  · rename_i settings
    exact ⟨fun same => ⟨settings, (Option.some.inj same).symm⟩, fun ⟨_, same⟩ => same ▸ rfl⟩
  · rename_i settings
    exact ⟨nofun, fun ⟨set, _⟩ => absurd set settings⟩

theorem distinct_of_resolve (resolved : resolve c system.proxies environment.proxies = some proxies) :
    proxies.Distinct := by
  obtain ⟨-, rfl⟩ := resolve_eq_some_iff.mp resolved
  exact (distinct_overridden c (distinct_gathered c _ _)).erase "no"

theorem mem_resolve_iff (resolved : resolve c system.proxies environment.proxies = some proxies) :
    (scheme, address) ∈ proxies ↔
      Sourced c system.proxies environment.proxies scheme address := by
  rw [Table.mem_iff_get? (distinct_of_resolve resolved)]
  obtain ⟨-, rfl⟩ := resolve_eq_some_iff.mp resolved
  rw [Table.get?_erase]
  by_cases no : "no" = scheme
  · rw [if_pos no]
    exact iff_of_false nofun fun sourced => sourced.1 no.symm
  · rw [if_neg no]
    by_cases explicit : Explicit c scheme
    · rw [get?_overridden_of_explicit explicit]
      exact ⟨fun own => ⟨Ne.symm no, fun _ => own, absurd explicit⟩, fun own => own.2.1 explicit⟩
    · rw [get?_overridden_of_not_explicit explicit, get?_gathered]
      exact ⟨fun own => ⟨Ne.symm no, (absurd · explicit), fun _ => own⟩, fun own => own.2.2 explicit⟩

end Resolving
end Proxies

/-- What the proxies of a client are made of, whatever the sources report. -/
structure ProxyLaws (c : Config) (system environment : ProxySource) : Prop where
  unset : Proxies.resolve c system.proxies environment.proxies = none ↔
    c.proxyEndpoint = none ∧ c.useSystemProxies = none ∧ c.useEnvironmentProxies = none
  /-- No scheme comes twice. -/
  once : ∀ {proxies}, Proxies.resolve c system.proxies environment.proxies = some proxies →
    proxies.Distinct
  /-- No entry is there but the explicit ones and those that a source reports, and none is missing. -/
  entries : ∀ {proxies}, Proxies.resolve c system.proxies environment.proxies = some proxies →
    ∀ scheme address, (scheme, address) ∈ proxies ↔
      Proxies.Sourced c system.proxies environment.proxies scheme address
  no : ∀ {proxies}, Proxies.resolve c system.proxies environment.proxies = some proxies →
    "no" ∉ proxies.names
  explicit : ∀ {proxies address},
    Proxies.resolve c system.proxies environment.proxies = some proxies →
    c.proxyEndpoint = some address → ("http", address) ∈ proxies ∧ ("https", address) ∈ proxies
  withoutSystem : c.useSystemProxies = some false → ∀ system' : ProxySource,
    Proxies.resolve c system'.proxies environment.proxies =
      Proxies.resolve c system.proxies environment.proxies
  withoutBoth : c.useSystemProxies = some false → c.useEnvironmentProxies = some false →
    ∀ system' environment' : ProxySource,
      Proxies.resolve c system'.proxies environment'.proxies =
        Proxies.resolve c system.proxies environment.proxies
  /-- With the environment switched off, an entry of it comes back only as the explicit proxy. -/
  withoutEnvironment : ∀ {proxies scheme address},
    Proxies.resolve c system.proxies environment.proxies = some proxies →
    c.useEnvironmentProxies = some false → (scheme, address) ∈ environment.proxies →
    (scheme, address) ∈ proxies →
    c.proxyEndpoint = some address ∧ (scheme = "http" ∨ scheme = "https")

namespace Proxies

theorem resolve_eq_none_iff (c : Config) (system environment : Proxies) :
    resolve c system environment = none ↔
      c.proxyEndpoint = none ∧ c.useSystemProxies = none ∧ c.useEnvironmentProxies = none := by
  have nothing : c.hasProxySettings = false ↔
      c.proxyEndpoint = none ∧ c.useSystemProxies = none ∧ c.useEnvironmentProxies = none := by
    simp [Config.hasProxySettings, and_assoc]
  rw [resolve_eq, ← nothing]
  cases c.hasProxySettings <;> simp

theorem resolve_of_no_system (off : c.useSystemProxies = some false)
    (system system' environment : Proxies) :
    resolve c system' environment = resolve c system environment := by
  have nothing (t : Proxies) : ofSystem c t = [] := if_neg fun on => on off
  simp only [resolve_eq, gathered, nothing]

theorem resolve_of_neither (systemOff : c.useSystemProxies = some false)
    (off : c.useEnvironmentProxies = some false) (system system' environment environment' : Proxies) :
    resolve c system' environment' = resolve c system environment := by
  have nothing (t t' : Proxies) : gathered c t t' = [] := by
    have empty : ofSystem c t = [] := if_neg fun on => on systemOff
    have disabled : ¬ Enabled c.useEnvironmentProxies := fun on => on off
    rw [gathered, if_neg disabled, empty]
    rfl
  simp only [resolve_eq, nothing]

theorem proxies_of_sources (c : Config) (system environment : ProxySource) :
    ProxyLaws c system environment where
  unset := resolve_eq_none_iff c _ _
  once := distinct_of_resolve
  entries resolved _ _ := mem_resolve_iff resolved
  no resolved present := by
    obtain ⟨⟨_, address⟩, found, rfl⟩ := List.mem_map.mp present
    exact ((mem_resolve_iff resolved).mp found).1 rfl
  explicit resolved given := by
    have set : c.proxyEndpoint.isSome := Option.isSome_iff_exists.mpr ⟨_, given⟩
    constructor
    · exact (mem_resolve_iff resolved).mpr
        ⟨by decide, fun _ => given, fun free => absurd ⟨set, .inl rfl⟩ free⟩
    · exact (mem_resolve_iff resolved).mpr
        ⟨by decide, fun _ => given, fun free => absurd ⟨set, .inr rfl⟩ free⟩
  withoutSystem off _ := resolve_of_no_system off _ _ _
  withoutBoth systemOff off _ _ := resolve_of_neither systemOff off _ _ _ _
  withoutEnvironment resolved off inside found := by
    obtain ⟨-, own, reported⟩ := (mem_resolve_iff resolved).mp found
    rename_i scheme address
    by_cases explicit : Explicit c scheme
    · exact ⟨own explicit, explicit.2⟩
    · rcases reported explicit with ⟨on, -⟩ | ⟨-, -, -, differs⟩
      · exact absurd off on
      · exact absurd (Table.get?_of_mem environment.distinct inside) (differs fun on => on off)

example :
    resolve { provider := "memory", useEnvironmentProxies := some false }
      [("http", "http://a"), ("ftp", "http://b"), ("no", "host")]
      [("http", "http://a"), ("ftp", "http://c")] = some [("ftp", "http://b")] := by
  decide

end Proxies
end BlobStorage
