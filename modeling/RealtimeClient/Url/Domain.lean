import RealtimeClient.Idna

/-!
# Host names in addresses

* `Url.domainToAscii?` — the form of a host name in which it stands in an address.
-/

namespace RealtimeClient.Url

/-- Whether a character may not occur in a host name. -/
def isForbiddenInDomain (c : Char) : Bool :=
  c.toNat ≤ 0x20 || c.toNat = 0x7F ||
    ['%', '#', '/', ':', '<', '>', '?', '@', '[', '\\', ']', '^', '|'].contains c

/-- **The form of a host name in an address.** -/
def domainToAscii? (name : List Char) : Option (List Char) :=
  Idna.toAscii? isForbiddenInDomain name

end RealtimeClient.Url
