import Mathlib.Data.List.Induction
import Mathlib.Data.Set.Function
import NameAuction.Demo.Accounts
import NameAuction.Proofs.Binary.Events
import NameAuction.Proofs.Event.History

/-!
# Nothing can be changed behind the last digest

The digest of an entry is taken over bytes that tell the digest before it, the time and the event
(`LogEntry.preimage_injective`).  So where digests tell these bytes apart, the last entry of a chain is known
by its digest, and with it the digest of the entry before, back to where the chain begins
(`LogEntry.eq_of_lastDigest`).  Chains of the same length begin at the same place, and chains from the zero
digest do if it is the digest of nothing (`EventLog.tamper_evident`).
-/

namespace NameAuction

/-- No two of the byte strings have the same digest. -/
def Hash.Blake3.Separates (inputs : Set Bytes) : Prop := Set.InjOn Hash.Blake3.hash inputs

namespace LogEntry

/-- What the digest of the entry should have been taken over. -/
def input (entry : LogEntry) : Bytes := preimage entry.previous entry.time entry.event

theorem eq_of_fields_eq {entry other : LogEntry} (hprevious : entry.previous = other.previous)
    (htime : entry.time = other.time) (hevent : entry.event = other.event)
    (hdigest : entry.digest = other.digest) : entry = other := by
  cases entry
  cases other
  rw [LogEntry.mk.injEq]
  exact ⟨htime, hevent, hprevious, hdigest⟩

/-- **The bytes under a digest tell what an entry is made of.** -/
theorem preimage_injective {previous previous' : Digest} {time time' : Time} {event event' : Event}
    (h : event.Fits) (h' : event'.Fits)
    (heq : preimage previous time event = preimage previous' time' event') :
    previous = previous' ∧ time = time' ∧ event = event' := by
  have hprevious := previous.readsBack.discerns previous'.readsBack
  have hdiscerns := hprevious.prod ((Word.discerns time time').prod (Event.discerns h h'))
  have hfields := hdiscerns.injective heq
  simpa using hfields

/-- The events of the entries have lengths that fit, and the digests are taken over some of the inputs. -/
structure Among (inputs : Set Bytes) (entries : List LogEntry) : Prop where
  fits : ∀ entry ∈ entries, entry.event.Fits
  input_mem : ∀ entry ∈ entries, entry.input ∈ inputs

/-- The last entry of a chain, and the chain before it. -/
theorem linked_concat {start : Digest} {entries : List LogEntry} {entry : LogEntry}
    (h : linked start (entries ++ [entry]) = true) :
    linked start entries = true ∧ entry.previous = lastDigest start entries ∧
      entry.digest = Hash.Blake3.hash entry.input := by
  rw [linked_append, Bool.and_eq_true] at h
  obtain ⟨hentries, hentry⟩ := h
  simp only [linked, Bool.and_true, Bool.and_eq_true, decide_eq_true_eq] at hentry
  obtain ⟨hprevious, hdigest⟩ := hentry
  refine ⟨hentries, hprevious, hdigest.trans ?_⟩
  rw [input, hprevious]
  rfl

theorem lastDigest_concat (start : Digest) (entries : List LogEntry) (entry : LogEntry) :
    lastDigest start (entries ++ [entry]) = entry.digest := by
  rw [lastDigest_append]
  rfl

variable {inputs : Set Bytes} {start : Digest}

theorem Among.of_concat {entries : List LogEntry} {entry : LogEntry} (h : Among inputs (entries ++ [entry])) :
    Among inputs entries ∧ entry.event.Fits ∧ entry.input ∈ inputs := by
  have hmem : entry ∈ entries ++ [entry] := List.mem_append_right _ (List.mem_singleton.mpr rfl)
  refine ⟨⟨fun other hother => ?_, fun other hother => ?_⟩, h.fits entry hmem, h.input_mem entry hmem⟩
  · exact h.fits other (List.mem_append_left _ hother)
  · exact h.input_mem other (List.mem_append_left _ hother)

/-- A chain that goes on to the digest from which it starts is over inputs with that digest. -/
theorem Among.lastDigest_ne {entries : List LogEntry} {entry : LogEntry}
    (h : Among inputs (entries ++ [entry])) (hlinked : linked start (entries ++ [entry]) = true)
    (hfresh : ∀ input ∈ inputs, Hash.Blake3.hash input ≠ start) :
    lastDigest start (entries ++ [entry]) ≠ start := by
  obtain ⟨-, -, hdigest⟩ := linked_concat hlinked
  obtain ⟨-, -, hinput⟩ := h.of_concat
  rw [lastDigest_concat, hdigest]
  exact hfresh _ hinput

/-- **A chain is known by its last digest**, if its length is known too or the digest from which it starts is
that of nothing. -/
theorem eq_of_lastDigest (hseparates : Hash.Blake3.Separates inputs) {entries others : List LogEntry}
    (h : Among inputs entries) (h' : Among inputs others) (hlinked : linked start entries = true)
    (hlinked' : linked start others = true)
    (hends : entries.length = others.length ∨ ∀ input ∈ inputs, Hash.Blake3.hash input ≠ start)
    (hlast : lastDigest start entries = lastDigest start others) : entries = others := by
  -- from the end: equal digests have equal inputs, which hold the digests before
  induction entries using List.reverseRecOn generalizing others with
  | nil =>
    cases others using List.reverseRecOn with
    | nil => rfl
    | append_singleton rest last =>
      rcases hends with hlength | hfresh
      · simp at hlength
      · exact absurd hlast.symm (h'.lastDigest_ne hlinked' hfresh)
  | append_singleton rest last ih =>
    cases others using List.reverseRecOn with
    | nil =>
      rcases hends with hlength | hfresh
      · simp at hlength
      · exact absurd hlast (h.lastDigest_ne hlinked hfresh)
    | append_singleton rest' last' =>
      obtain ⟨hrest, hprevious, hdigest⟩ := linked_concat hlinked
      obtain ⟨hrest', hprevious', hdigest'⟩ := linked_concat hlinked'
      obtain ⟨hamong, hfits, hinput⟩ := h.of_concat
      obtain ⟨hamong', hfits', hinput'⟩ := h'.of_concat
      rw [lastDigest_concat, lastDigest_concat] at hlast
      have hinputs := hseparates hinput hinput' (by rw [← hdigest, ← hdigest', hlast])
      obtain ⟨hsame, htime, hevent⟩ := preimage_injective hfits hfits' hinputs
      have hbefore : lastDigest start rest = lastDigest start rest' := by
        rw [← hprevious, ← hprevious', hsame]
      have hlengths := hends.imp_left fun hlength => by simpa using hlength
      have hlasts : last = last' := eq_of_fields_eq hsame htime hevent hlast
      rw [ih hamong hamong' hrest hrest' hlengths hbefore, hlasts]

end LogEntry

/-- **The last digest of a log vouches for all of it.**  Where digests tell the inputs of all entries apart,
two lists of entries of the same length that verify from the same digest and end in the same one are equal in
every field.  If none of the inputs has the zero digest, two logs with the same head have been told the same
events at the same times, however many they are and however the logs have been drained. -/
theorem EventLog.tamper_evident {inputs : Set Bytes} (hseparates : Hash.Blake3.Separates inputs) :
    (∀ (start : Digest) (entries others : List LogEntry), LogEntry.Among inputs entries →
      LogEntry.Among inputs others → entries.length = others.length →
      LogEntry.linked start entries = true → LogEntry.linked start others = true →
      entries.getLast?.map (·.digest) = others.getLast?.map (·.digest) → entries = others) ∧
    ((∀ input ∈ inputs, Hash.Blake3.hash input ≠ Block.zero) →
      ∀ uses uses' : List LogUse, LogEntry.Among inputs (History.start.afterAll uses).entries →
        LogEntry.Among inputs (History.start.afterAll uses').entries →
        (History.start.afterAll uses).log.head = (History.start.afterAll uses').log.head →
        LogUse.appended uses = LogUse.appended uses') := by
  constructor
  · intro start entries others h h' hlength hlinked hlinked' hlast
    refine LogEntry.eq_of_lastDigest hseparates h h' hlinked hlinked' (.inl hlength) ?_
    rw [LogEntry.lastDigest, LogEntry.lastDigest, hlast]
  · intro hnonzero uses uses' h h' hhead
    have hchained := History.Chained.start.afterAll uses
    have hchained' := History.Chained.start.afterAll uses'
    rw [hchained.head, hchained'.head] at hhead
    have hentries := LogEntry.eq_of_lastDigest hseparates h h' hchained.linked hchained'.linked
      (.inr hnonzero) hhead
    have hrecords := History.start.map_record_afterAll uses
    rw [hentries, History.start.map_record_afterAll uses'] at hrecords
    exact hrecords.symm

namespace History

/-- A bid is placed and slashed. -/
def toldUses : List LogUse :=
  [.append 0 (.bidPlaced ⟨"label.terra"⟩ Demo.alice ⟨"uluna", .max⟩),
    .append .max (.slashed ⟨"label.terra"⟩ Demo.alice ⟨"uluna", .max⟩)]

/-- The same, with a drain before and after each of the two. -/
def drainedUses : List LogUse := .drain :: toldUses.flatMap fun use => [use, .drain]

def toldInputs : Set Bytes :=
  (fun entry => entry.input) '' {entry | entry ∈ (start.afterAll toldUses).entries}

end History

theorem EventLog.tamper_evident_drained :
    Hash.Blake3.Separates History.toldInputs ∧
      (∀ input ∈ History.toldInputs, Hash.Blake3.hash input ≠ Block.zero) ∧
      LogEntry.Among History.toldInputs (History.start.afterAll History.toldUses).entries ∧
      LogEntry.Among History.toldInputs (History.start.afterAll History.drainedUses).entries ∧
      (History.start.afterAll History.toldUses).log.head =
        (History.start.afterAll History.drainedUses).log.head ∧
      LogUse.appended History.toldUses = LogUse.appended History.drainedUses ∧
      (History.start.afterAll History.toldUses).entries =
        (History.start.afterAll History.drainedUses).entries := by
  have hinjective : ∀ entry ∈ (History.start.afterAll History.toldUses).entries,
      ∀ other ∈ (History.start.afterAll History.toldUses).entries,
        Hash.Blake3.hash entry.input = Hash.Blake3.hash other.input → entry = other := by decide +kernel
  have hnonzero : ∀ entry ∈ (History.start.afterAll History.toldUses).entries,
      Hash.Blake3.hash entry.input ≠ Block.zero := by decide +kernel
  have hseparates : Hash.Blake3.Separates History.toldInputs := by
    rintro _ ⟨entry, hentry, rfl⟩ _ ⟨other, hother, rfl⟩ heq
    rw [hinjective entry hentry other hother heq]
  have hinputs : ∀ input ∈ History.toldInputs, Hash.Blake3.hash input ≠ Block.zero := by
    rintro _ ⟨entry, hentry, rfl⟩
    exact hnonzero entry hentry
  have hname : "label.terra".utf8ByteSize < 256 ^ 8 := by decide
  have hdenom : "uluna".utf8ByteSize < 256 ^ 8 := by decide
  have hamong : LogEntry.Among History.toldInputs (History.start.afterAll History.toldUses).entries := by
    refine ⟨fun entry hentry => ?_, fun entry hentry => ⟨entry, hentry, rfl⟩⟩
    have hrecord := List.mem_map_of_mem (f := LogEntry.record) hentry
    rw [History.start.map_record_afterAll] at hrecord
    rcases List.mem_cons.mp hrecord with heq | hrest
    · rw [(Prod.mk.inj heq).2]
      exact ⟨hname, hdenom⟩
    · rw [(Prod.mk.inj (List.mem_singleton.mp hrest)).2]
      exact ⟨hname, hdenom⟩
  have hentries : (History.start.afterAll History.drainedUses).entries =
      (History.start.afterAll History.toldUses).entries := by
    have hundrained : History.start.Undrained .empty := ⟨rfl, rfl⟩
    exact (hundrained.afterAll History.drainedUses).pending.symm.trans
      (hundrained.afterAll History.toldUses).pending
  have hamong' : LogEntry.Among History.toldInputs (History.start.afterAll History.drainedUses).entries := by
    rw [hentries]
    exact hamong
  have hchained := History.Chained.start.afterAll History.toldUses
  have hchained' := History.Chained.start.afterAll History.drainedUses
  have hhead : (History.start.afterAll History.toldUses).log.head =
      (History.start.afterAll History.drainedUses).log.head := by
    rw [hchained.head, hchained'.head, hentries]
  obtain ⟨hlists, hlogs⟩ := EventLog.tamper_evident hseparates
  refine ⟨hseparates, hinputs, hamong, hamong', hhead, hlogs hinputs _ _ hamong hamong' hhead, ?_⟩
  exact hlists Block.zero _ _ hamong hamong' (by rw [hentries]) hchained.linked hchained'.linked
    (by rw [hentries])

end NameAuction
