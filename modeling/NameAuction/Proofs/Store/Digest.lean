import NameAuction.Proofs.Event.Tampering
import NameAuction.Proofs.Store.Layers
import NameAuction.Store.Digest

/-!
# What the digest of a store commits to

The digest is taken over the entries one after another, with nothing that says how many they are.  But each
entry shows where it ends, as its key and its value come with their lengths (`Entry.discerns_stream`), so the
bytes of two lists of entries are the same for equal lists only (`Entry.flatMap_stream_injective`), and those
of two stores for stores that read the same (`Store.stream_eq_iff`).  How a store has come to hold what it
holds, and on which of its layers, makes no difference (`Store.digest_tells_contents`).
-/

namespace NameAuction

/-! ### One byte string with its length -/

namespace Bytes

theorem bigEndian_injective {width n m : Nat} (h : n < 256 ^ width) (h' : m < 256 ^ width)
    (heq : bigEndian width n = bigEndian width m) : n = m := by
  have hread := congrArg ofBigEndian heq
  rwa [ofBigEndian_bigEndian, ofBigEndian_bigEndian, Nat.mod_eq_of_lt h, Nat.mod_eq_of_lt h'] at hread

/-- **Behind its length, a byte string shows where it ends.** -/
theorem sized_injective {bytes others rest rest' : Bytes} (h : bytes.length < 256 ^ 8)
    (h' : others.length < 256 ^ 8)
    (heq : bigEndian 8 bytes.length ++ (bytes ++ rest) = bigEndian 8 others.length ++ (others ++ rest')) :
    bytes = others ∧ rest = rest' := by
  have hwidths : (bigEndian 8 bytes.length).length = (bigEndian 8 others.length).length := by
    rw [length_bigEndian, length_bigEndian]
  obtain ⟨hlengths, hbytes⟩ := List.append_inj heq hwidths
  exact List.append_inj hbytes (bigEndian_injective h h' hlengths)

end Bytes

/-! ### Entries -/

namespace Entry

structure Fits (entry : Entry) : Prop where
  key : entry.1.length < 256 ^ 8
  value : entry.2.length < 256 ^ 8

theorem stream_append (entry : Entry) (rest : Bytes) :
    entry.stream ++ rest = 0 :: (Bytes.bigEndian 8 entry.1.length ++ (entry.1 ++
      (Bytes.bigEndian 8 entry.2.length ++ (entry.2 ++ rest)))) := by
  simp [stream]

/-- **An entry shows where it ends**, whatever follows it. -/
theorem discerns_stream {entry other : Entry} (h : entry.Fits) (h' : other.Fits) {rest rest' : Bytes}
    (heq : entry.stream ++ rest = other.stream ++ rest') : entry = other ∧ rest = rest' := by
  rw [stream_append, stream_append] at heq
  obtain ⟨hkey, hmore⟩ := Bytes.sized_injective h.key h'.key (List.cons.inj heq).2
  obtain ⟨hvalue, hrest⟩ := Bytes.sized_injective h.value h'.value hmore
  exact ⟨Prod.ext hkey hvalue, hrest⟩

theorem stream_ne_nil (entry : Entry) (rest : Bytes) : entry.stream ++ rest ≠ [] := by
  rw [stream_append]
  exact List.cons_ne_nil _ _

/-- **The bytes of entries tell the entries**, and with them how many there are. -/
theorem flatMap_stream_injective {entries others : List Entry} (h : ∀ entry ∈ entries, entry.Fits)
    (h' : ∀ other ∈ others, other.Fits) (heq : entries.flatMap stream = others.flatMap stream) :
    entries = others := by
  induction entries generalizing others with
  | nil =>
    cases others with
    | nil => rfl
    | cons other more => exact absurd heq.symm (stream_ne_nil other _)
  | cons entry rest ih =>
    cases others with
    | nil => exact absurd heq (stream_ne_nil entry _)
    | cons other more =>
      obtain ⟨hentry, hrest⟩ := List.forall_mem_cons.mp h
      obtain ⟨hother, hmore⟩ := List.forall_mem_cons.mp h'
      obtain ⟨hsame, hbytes⟩ := discerns_stream hentry hother heq
      rw [hsame, ih hrest hmore hbytes]

end Entry

/-! ### Stores -/

namespace Store

/-- The lengths of all keys and values that can be read fit. -/
def Fits (store : Store) : Prop := ∀ key value, store.get? key = some value → Entry.Fits (key, value)

theorem contains_all (key : Bytes) : Span.all.contains key = true := by
  cases key <;> rfl

theorem fits_iff_range {store : Store} : store.Fits ↔ ∀ entry ∈ store.range .all, entry.Fits :=
  ⟨fun h entry hentry => h entry.1 entry.2 (mem_range.mp hentry).1,
    fun h key value hget => h (key, value) (mem_range.mpr ⟨hget, contains_all key⟩)⟩

theorem stream_congr {store other : Store} (h : ∀ key, store.get? key = other.get? key) :
    store.stream = other.stream := by
  rw [stream, stream, range_congr fun key _ => h key]

/-- **The bytes under the digest tell what a store holds.** -/
theorem stream_eq_iff {store other : Store} (h : store.Fits) (h' : other.Fits) :
    store.stream = other.stream ↔ ∀ key, store.get? key = other.get? key := by
  refine ⟨fun heq key => Option.ext fun value => ?_, stream_congr⟩
  have hentries := Entry.flatMap_stream_injective (fits_iff_range.mp h) (fits_iff_range.mp h') heq
  have hmem : (key, value) ∈ store.range .all ↔ (key, value) ∈ other.range .all := by rw [hentries]
  rwa [mem_range, mem_range, and_iff_left (contains_all key), and_iff_left (contains_all key)] at hmem

theorem get?_commit_any (store : Store) (key : Bytes) : store.commit.get? key = store.get? key := by
  by_cases hlayers : store.layers = []
  · rw [commit_of_length (List.length_eq_zero_iff.mpr hlayers)]
  · exact get?_commit hlayers key

/-- Whatever has been requested, a store reads as the map does of which copies are put aside. -/
theorem contents_afterAll (base : Entries) (requests : List (Request Edit)) :
    (levels.afterAll (ofEntries base) requests).contents = (mapLevels.afterAll ⟨base, []⟩ requests).top := by
  have hstart : Mirrors levels mapLevels (fun store copies => store.contents = copies.top)
      (ofEntries base) ⟨base, []⟩ := .of_height rfl rfl rfl
  exact (simulates_copies.mirrors hstart requests).top

/-- **The digest of a store tells what it holds, and nothing else.**  It is taken over the same bytes for two
stores just where these read the same, and where digests tell the two byte strings apart, it is the same just
there.  Writes and layers that lead to the same map lead to the same digest, and a commit does not change it. -/
theorem digest_tells_contents :
    (∀ store other : Store, store.Fits → other.Fits →
      (store.stream = other.stream ↔ ∀ key, store.get? key = other.get? key) ∧
        (Hash.Blake3.Separates {store.stream, other.stream} →
          (store.digest = other.digest ↔ ∀ key, store.get? key = other.get? key))) ∧
    (∀ (base base' : Entries) (requests requests' : List (Request Edit)),
      (mapLevels.afterAll ⟨base, []⟩ requests).top = (mapLevels.afterAll ⟨base', []⟩ requests').top →
        (levels.afterAll (ofEntries base) requests).digest =
          (levels.afterAll (ofEntries base') requests').digest) ∧
    ∀ store : Store, store.commit.digest = store.digest := by
  refine ⟨fun store other h h' => ⟨stream_eq_iff h h', fun hseparates => ?_⟩,
    fun base base' requests requests' htop => ?_, fun store => ?_⟩
  · rw [← stream_eq_iff h h']
    refine ⟨fun heq => ?_, fun heq => congrArg Hash.Blake3.hash heq⟩
    exact hseparates (Set.mem_insert ..) (Set.mem_insert_of_mem _ rfl) heq
  · refine congrArg Hash.Blake3.hash (stream_congr fun key => ?_)
    rw [get?_eq, get?_eq, contents_afterAll, contents_afterAll, htop]
  · exact congrArg Hash.Blake3.hash (stream_congr store.get?_commit_any)

/-- The empty key with a value that looks like the beginning of an entry. -/
def headed : List (Request Edit) := [.make (.put [] (Entry.stream ([], []))), .make (.put [0] [])]

/-- The same, by a detour over a layer that is committed and one that is discarded. -/
def detoured : List (Request Edit) :=
  [.make (.put [0] [0]), .make (.put [1] []), .begin, .make (.delete [1]), .make (.put [0] []),
    .make (.put [] (Entry.stream ([], []))), .commit, .begin, .make (.delete []), .discard]

theorem digest_tells_contents_detoured :
    (levels.afterAll (ofEntries ∅) headed).Fits ∧ (levels.afterAll (ofEntries ∅) (headed.take 1)).Fits ∧
      (levels.afterAll (ofEntries ∅) headed).digest ≠ (levels.afterAll (ofEntries ∅) (headed.take 1)).digest ∧
      (levels.afterAll (ofEntries ∅) headed).digest = (levels.afterAll (ofEntries ∅) detoured).digest := by
  obtain ⟨htells, hhistory, -⟩ := digest_tells_contents
  have hfits : ∀ requests ∈ [headed, headed.take 1], (levels.afterAll (ofEntries ∅) requests).Fits := by
    have hlengths : ∀ requests ∈ [headed, headed.take 1],
        ∀ entry ∈ (levels.afterAll (ofEntries ∅) requests).range .all,
          entry.1.length < 256 ^ 8 ∧ entry.2.length < 256 ^ 8 := by decide +kernel
    intro requests hrequests
    refine fits_iff_range.mpr fun entry hentry => ?_
    obtain ⟨hkey, hvalue⟩ := hlengths requests hrequests entry hentry
    exact ⟨hkey, hvalue⟩
  have hhashes : Hash.Blake3.hash (levels.afterAll (ofEntries ∅) headed).stream ≠
      Hash.Blake3.hash (levels.afterAll (ofEntries ∅) (headed.take 1)).stream := by decide +kernel
  have hseparates : Hash.Blake3.Separates {(levels.afterAll (ofEntries ∅) headed).stream,
      (levels.afterAll (ofEntries ∅) (headed.take 1)).stream} := by
    rintro _ (rfl | rfl) _ (rfl | rfl) heq
    · rfl
    · exact absurd heq hhashes
    · exact absurd heq.symm hhashes
    · rfl
  have hfirst := hfits headed (List.mem_cons_self ..)
  have hsecond := hfits (headed.take 1) (List.mem_cons_of_mem _ (List.mem_cons_self ..))
  refine ⟨hfirst, hsecond, fun heq => ?_, hhistory ∅ ∅ headed detoured ?_⟩
  · have hread := ((htells _ _ hfirst hsecond).2 hseparates).mp heq [0]
    exact absurd hread (by decide +kernel)
  · exact Std.ExtTreeMap.toList_inj.mp (by decide +kernel)

end Store

end NameAuction
