/-
# LdapClient.Discovery -- servers of a domain

The servers of a domain are found by service records: those of the caller's site, if there is one,
and then those of the whole domain.  A failed lookup for the site counts as no servers; only the
lookup for the domain can fail the discovery.
-/
import LdapClient.Dialogue
import LdapClient.Text.Fold

namespace LdapClient.Discovery

open Text

/-- The record of a site's servers. -/
def siteRecord (domain site : String) : String :=
  "_ldap._tcp." ++ site ++ "._sites." ++ domain

/-- The record of a domain's servers. -/
def domainRecord (domain : String) : String :=
  "_ldap._tcp." ++ domain

/-- A host that is among these, up to ASCII case. -/
def isKnown (host : String) (hosts : List String) : Bool :=
  hosts.any fun known => sameFolded known host

/-- Puts each new host behind the known ones. -/
def merge (hosts : List String) : List String → List String
  | [] => hosts
  | host :: more => if isKnown host hosts then merge hosts more else merge (hosts ++ [host]) more

/-- The servers of the caller's site. -/
def siteServers (domain site : String) : Dialogue (List String) := do
  if site.isEmpty then return []
  else
    match ← .lookup (siteRecord domain site) with
    | .ok hosts => return hosts
    | .error _ => return []

/-- The servers of a domain, those of the site first. -/
def servers (domain site : String) : Dialogue (Except Failure (List String)) := do
  let nearby ← siteServers domain site
  match ← .lookup (domainRecord domain) with
  | .error failure => return .error failure
  | .ok hosts => return .ok (merge nearby hosts)

end LdapClient.Discovery
