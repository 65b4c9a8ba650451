import NameAuction.Bytes
import Std.Data.ExtTreeMap

/-!
# The store

An ordered map from keys to values, both byte strings, with layers on top that buffer writes.  A read
goes through the layers: the innermost write of a key counts, and a buffered deletion hides what lies
below.  Committing a layer writes it one level below, in the order of keys, and discarding it forgets
its writes.

Entries are read one by one, by ranges of keys, and by the first entry of a range, which passes over the
entries below that a layer deletes.
-/

namespace NameAuction

abbrev Entries := Std.ExtTreeMap Bytes Bytes compare

/-- Buffered writes; a key without a value is to be deleted. -/
abbrev Writes := Std.ExtTreeMap Bytes (Option Bytes) compare

abbrev Entry := Bytes × Bytes

/-- The least byte string above all that start with `stem`, if there is one. -/
def Bytes.afterAll? (stem : Bytes) : Option Bytes :=
  match stem with
  | [] => none
  | byte :: rest =>
    match afterAll? rest with
    | some next => some (byte :: next)
    | none => if byte = 255 then none else some [byte + 1]

/-- The keys from `start` on and below `stop`; all of them from `start` on where there is no `stop`. -/
structure Span where
  start : Bytes
  stop : Option Bytes

namespace Span

def all : Span := ⟨[], none⟩

/-- The keys that start with `stem`. -/
def startingWith (stem : Bytes) : Span := ⟨stem, stem.afterAll?⟩

def contains (span : Span) (key : Bytes) : Bool :=
  (compare span.start key).isLE && span.stop.all fun stop => (compare key stop).isLT

end Span

structure Store where
  base : Entries
  /-- The innermost layer comes first. -/
  layers : List Writes

namespace Store

def ofEntries (entries : Entries) : Store := ⟨entries, []⟩

def empty : Store := ofEntries ∅

/-! ### Single entries -/

def lookUp (base : Entries) : List Writes → Bytes → Option Bytes
  | [], key => base[key]?
  | layer :: below, key =>
    match layer[key]? with
    | some buffered => buffered
    | none => lookUp base below key

def get? (store : Store) (key : Bytes) : Option Bytes := lookUp store.base store.layers key

def has (store : Store) (key : Bytes) : Bool := (store.get? key).isSome

/-! ### Ranges -/

def write (entries : Entries) (key : Bytes) : Option Bytes → Entries
  | some value => entries.insert key value
  | none => entries.erase key

def overlay (entries : List Entry) (writes : List (Bytes × Option Bytes)) : List Entry :=
  (writes.foldl (fun merged change => write merged change.1 change.2)
    (Std.ExtTreeMap.ofList entries compare)).toList

def scan (base : Entries) : List Writes → Span → List Entry
  | [], span => base.toList.filter fun entry => span.contains entry.1
  | layer :: below, span =>
    overlay (scan base below span) (layer.toList.filter fun change => span.contains change.1)

def range (store : Store) (span : Span) : List Entry := scan store.base store.layers span

def startingWith (store : Store) (stem : Bytes) : List Entry := store.range (.startingWith stem)

/-! ### The first entry of a range -/

/-- The first entry that `first` finds and that the layer does not delete; each deletion can stand in
the way once, so the number of writes bounds the search. -/
def firstKept (layer : Writes) (first : Span → Option Entry) :
    (bound : Nat) → Span → Option Entry
  | 0, _ => none
  | bound + 1, span =>
    match first span with
    | none => none
    | some (key, value) =>
      match layer[key]? with
      | some none => firstKept layer first bound { span with start := key ++ [0] }
      | _ => some (key, value)

def firstBuffered (layer : Writes) (span : Span) : Option Entry :=
  (layer.toList.filter fun change => span.contains change.1).findSome? fun change =>
    change.2.map (change.1, ·)

/-- The entry with the smaller key; of two equal keys the buffered one counts. -/
def earlier (buffered kept : Option Entry) : Option Entry :=
  match buffered, kept with
  | some b, some k => if (compare k.1 b.1).isLT then some k else some b
  | some b, none => some b
  | none, kept => kept

def firstIn (base : Entries) : List Writes → Span → Option Entry
  | [], span => base.toList.find? fun entry => span.contains entry.1
  | layer :: below, span =>
    earlier (firstBuffered layer span) (firstKept layer (firstIn base below) (layer.size + 1) span)

def first? (store : Store) (span : Span) : Option Entry := firstIn store.base store.layers span

/-! ### Writes -/

/-- Writes on the innermost layer, or on the entries where no layer is open. -/
def set (store : Store) (key : Bytes) (value : Option Bytes) : Store :=
  match store.layers with
  | [] => { store with base := write store.base key value }
  | layer :: below => { store with layers := layer.insert key value :: below }

def put (store : Store) (key value : Bytes) : Store := store.set key (some value)

def delete (store : Store) (key : Bytes) : Store := store.set key none

/-! ### Layers -/

/-- Opens a layer over the store as it is. -/
def layer (store : Store) : Store := { store with layers := ∅ :: store.layers }

def pending (store : Store) : List (Bytes × Option Bytes) :=
  match store.layers with
  | [] => []
  | layer :: _ => layer.toList

/-- Closes the innermost layer and forgets its writes. -/
def discard (store : Store) : Store := { store with layers := store.layers.tail }

/-- Closes the innermost layer and writes it one level below. -/
def commit (store : Store) : Store :=
  store.pending.foldl (fun below change => below.set change.1 change.2) store.discard

end Store

end NameAuction
