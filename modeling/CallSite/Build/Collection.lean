import CallSite.Atlas.Basic
import CallSite.Feed
import CallSite.SourcePath

/-!
# Collecting an atlas

An atlas is collected from a feed: its function symbols first, then its usable rows with their paths
shortened. A fault of the feed leaves the atlas empty; a bad row costs only that row.
-/

namespace CallSite

/-- The line number of rows that compilers hide. -/
def hiddenLine : UInt64 := 0xfeefee

/-- Why a row is of no use; a missing source file is told before a line out of range. -/
def FeedRow.rejection? (row : FeedRow) : Option Rejection :=
  if row.file.isEmpty then some (.noSourceFile row.line row.address)
  else if row.line.toNat < UInt32.size then none
  else some (.lineTooLarge row.line row.address)

/-- The atlas with a row that is of use, marked under its shortened path. -/
def Atlas.addRow (atlas : Atlas) (row : FeedRow) : Except Rejection Atlas :=
  match row.rejection? with
  | some reason => .error reason
  | none =>
      .ok (atlas.addMark row.line.toUInt32 row.address (SourcePath.shorten row.file)
        row.container).1

/-- An atlas and what was told while it grew, latest first. -/
structure Collection where
  atlas : Atlas
  told : List Event

namespace Collection

def tell (c : Collection) (event : Event) : Collection :=
  { c with told := event :: c.told }

/-- Keeps a function symbol; one that had its identifier gives way and is told of. -/
def addSymbol (c : Collection) (s : FeedSymbol) : Collection :=
  if s.isFunction then
    let (atlas, replaced) := c.atlas.addSymbol ⟨s.id, s.name, s.address⟩
    let c := { c with atlas }
    match replaced with
    | some previous => c.tell (.duplicateSymbol previous)
    | none => c
  else c

def addRow (c : Collection) (row : FeedRow) : Collection :=
  if row.line = hiddenLine then c
  else
    match c.atlas.addRow row with
    | .ok atlas => { c with atlas }
    | .error reason => c.tell (.rowRejected reason)

def deliver {α : Type} (add : Collection → α → Collection) (c : Collection) :
    Delivery α → Collection
  | .item a => add c a
  | .note event => c.tell event

/-- Everything that a feed delivers, up to its first fault, put into an atlas. -/
def ofFeed (atlas : Atlas) (feed : Feed) : Collection × Option Fault :=
  let c := feed.symbols.deliveries.foldl (deliver addSymbol) ⟨atlas, []⟩
  match feed.symbols.fault with
  | some fault => (c, some (.symbols fault.message))
  | none =>
      let c := feed.rows.deliveries.foldl (deliver addRow) c
      (c, feed.rows.fault.map fun fault => .rows fault.message)

end Collection

/-- What a collection came to. -/
structure Collected where
  atlas : Atlas
  fault : Option Fault
  events : List Event

/-- The atlas of a feed, emptied of what it had before and again after a fault, and the events in the
order in which they happened. -/
def collect (atlas : Atlas) (path : String) (feed : Feed) : Collected :=
  let (c, fault) := Collection.ofFeed atlas.clear feed
  let atlas := if fault.isSome then c.atlas.clear else c.atlas
  let failure := (fault.map (Event.collectionFailed path)).toList
  ⟨atlas, fault, c.told.reverse ++ failure ++ [.symbolsKept atlas.symbols.size,
    .linesKept atlas.track.size, .namesKept atlas.pool.size]⟩

end CallSite
