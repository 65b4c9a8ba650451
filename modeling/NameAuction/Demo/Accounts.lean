import NameAuction.Id

/-!
# Accounts of the demonstration

The bidders and the shop that the demonstration is about, and the runs that illustrate results with it.
-/

namespace NameAuction.Demo

/-- An account whose bytes are all the same. -/
def accountOf (byte : UInt8) : Account := ⟨⟨List.replicate 20 byte, List.length_replicate⟩⟩

def alice : Account := accountOf 0xa1

def bob : Account := accountOf 0xb0

def carol : Account := accountOf 0xc0

def shop : Account := accountOf 0x5a

end NameAuction.Demo
