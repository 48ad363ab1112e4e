import BlobStorage.Settings.Config

/-!
The proxies of a client. Two sources report proxies by scheme: the system and the environment. Each
can be switched off, and counts as switched on while it is not set. Since the system may report
what the environment says, switching the environment off also removes its entries from what the
system reports. An explicit proxy goes before both.
-/
namespace BlobStorage

abbrev Proxies := Table String String

namespace Proxies

/-- Without the entries that the other table has too, scheme and address alike. -/
def without (t other : Proxies) : Proxies :=
  t.filter fun (scheme, address) => other.get? scheme ≠ some address

/-- Nothing when no proxy setting is made, so that a client keeps its own ways. -/
def resolve (c : Config) (system environment : Proxies) : Option Proxies :=
  if !c.hasProxySettings then none
  else
    let useSystem := c.useSystemProxies ≠ some false
    let useEnvironment := c.useEnvironmentProxies ≠ some false
    let found : Proxies := if useSystem then Table.ofPairs system else []
    let found :=
      if useEnvironment then found.merge environment
      else if useSystem then found.without environment
      else found
    let found := match c.proxyEndpoint with
      | some address => (found.set "http" address).set "https" address
      | none => found
    some (found.erase "no")

end Proxies
end BlobStorage
