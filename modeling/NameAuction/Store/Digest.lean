import NameAuction.Store.Basic
import NameAuction.Hash.Blake3

/-!
# The digest of a store

Each entry is written as a zero byte and then its key and its value, both with their length in eight
bytes before them.  The digest of a store is taken over all entries so written, in the order of keys.
-/

namespace NameAuction

namespace Entry

def stream (entry : Entry) : Bytes :=
  0 :: Bytes.bigEndian 8 entry.1.length ++ entry.1
    ++ Bytes.bigEndian 8 entry.2.length ++ entry.2

end Entry

namespace Store

/-- The bytes that the digest of a store is taken over. -/
def stream (store : Store) : Bytes := (store.range .all).flatMap Entry.stream

def digest (store : Store) : Digest := Hash.Blake3.hash store.stream

end Store

end NameAuction
