import CallSite.Atlas.Basic
import CallSite.Proofs.Atlas.Floor
import CallSite.Proofs.Atlas.Names

/-!
# Reading the marks of an atlas

A mark reads as the names that its indices lead to. An atlas that marks were added to in turn has
the name of each where it came first, so no later mark changes an earlier reading, and as long as the
pool stays within its capacity its readings are what was added.
-/

namespace CallSite

/-- What a mark says, with names in the place of indices. -/
structure Reading where
  address : Address
  line : UInt32
  file : String
  object : String
deriving DecidableEq

/-- The names that a reading brings into a pool, in their order. -/
def Reading.names (r : Reading) : List String :=
  [r.file, r.object]

namespace Atlas

def reading (atlas : Atlas) (m : Mark) : Reading :=
  ⟨m.address, m.line, atlas.file m, atlas.object m⟩

/-- The marks in their order, as they read. -/
def readings (atlas : Atlas) : List Reading :=
  atlas.track.marks.toList.map atlas.reading

/-- Both indices of every mark lead to names. -/
def Legible (atlas : Atlas) : Prop :=
  ∀ m ∈ atlas.track.marks.toList,
    (∃ name, atlas.pool.Leads m.file name) ∧ ∃ name, atlas.pool.Leads m.object name

/-! ### The mark of a reading -/

/-- The mark that stands for a reading, in a pool that has both its names. -/
def mark (atlas : Atlas) (r : Reading) : Mark :=
  ⟨r.address, r.line, atlas.pool.indexIn r.file, atlas.pool.indexIn r.object⟩

section Mark

variable {atlas : Atlas} {r : Reading} (hnames : ∀ name ∈ r.names, name ∈ atlas.pool.names)
include hnames

theorem mark_of_grown {later : Atlas} (hpool : atlas.pool.names <+: later.pool.names) :
    later.mark r = atlas.mark r := by
  have hfile := NamePool.indexIn_of_grown (hnames r.file (by simp [Reading.names])) hpool
  have hobject := NamePool.indexIn_of_grown (hnames r.object (by simp [Reading.names])) hpool
  rw [mark, hfile, hobject, mark]

variable (hplaces : ∀ name ∈ r.names, atlas.pool.names.idxOf name < NamePool.capacity)
include hplaces

theorem leads_mark :
    atlas.pool.Leads (atlas.mark r).file r.file ∧
      atlas.pool.Leads (atlas.mark r).object r.object := by
  have hfile : r.file ∈ r.names := by simp [Reading.names]
  have hobject : r.object ∈ r.names := by simp [Reading.names]
  exact ⟨NamePool.leads_indexIn (hnames _ hfile) (hplaces _ hfile),
    NamePool.leads_indexIn (hnames _ hobject) (hplaces _ hobject)⟩

/-- Indices lead to the names that come first in a pool, as many as they can tell apart. -/
theorem reading_mark : atlas.reading (atlas.mark r) = r := by
  obtain ⟨hfile, hobject⟩ := leads_mark hnames hplaces
  rw [reading, file, object, hfile.get_eq, hobject.get_eq]
  rfl

end Mark

/-! ### Adding marks in turn -/

/-- Readings were added in turn: the pool has each of their names where it came first, and the marks
stand for them. -/
structure Records (atlas : Atlas) (rs : List Reading) : Prop where
  names : atlas.pool.names = (rs.flatMap Reading.names).eraseDups
  marks : atlas.track.marks.toList = rs.map atlas.mark

theorem records_empty : empty.Records [] :=
  ⟨rfl, rfl⟩

section AddMark

variable (atlas : Atlas) (line : UInt32) (address : Address) (file object : String)

theorem names_addMark :
    (atlas.addMark line address file object).1.pool.names =
      [file, object].foldl appendNew atlas.pool.names :=
  atlas.pool.names_addAll [file, object]

/-- Both indices of the mark that is added are those of its names in the pool that has them. -/
theorem snd_addMark :
    (atlas.addMark line address file object).2 =
      (atlas.addMark line address file object).1.mark ⟨address, line, file, object⟩ := by
  have hfile := NamePool.indexIn_of_grown (atlas.pool.mem_add file)
    ((atlas.pool.add file).1.prefix_add object)
  simp only [addMark, mark]
  rw [hfile, NamePool.snd_add, NamePool.snd_add]

theorem toList_marks_addMark :
    (atlas.addMark line address file object).1.track.marks.toList =
      atlas.track.marks.toList ++
        [(atlas.addMark line address file object).1.mark ⟨address, line, file, object⟩] := by
  rw [← snd_addMark]
  exact Track.toList_marks_push _ _

end AddMark

namespace Records

variable {atlas : Atlas} {rs : List Reading} (h : atlas.Records rs)
include h

theorem mem_names {r : Reading} (hr : r ∈ rs) {name : String} (hname : name ∈ r.names) :
    name ∈ atlas.pool.names := by
  rw [h.names, List.mem_eraseDups]
  exact List.mem_flatMap.mpr ⟨r, hr, hname⟩

theorem nodup_names : atlas.pool.names.Nodup := by
  rw [h.names, ← foldl_appendNew_nil]
  exact nodup_foldl_appendNew List.nodup_nil _

/-- A mark that is added changes none of the earlier ones. -/
theorem addMark (line : UInt32) (address : Address) (file object : String) :
    (atlas.addMark line address file object).1.Records (rs ++ [⟨address, line, file, object⟩]) where
  names := by
    rw [names_addMark, h.names, ← foldl_appendNew_nil, ← foldl_appendNew_nil,
      List.flatMap_append, List.foldl_append]
    rfl
  marks := by
    have hpool : atlas.pool.names <+: (atlas.addMark line address file object).1.pool.names :=
      (atlas.pool.prefix_add file).trans ((atlas.pool.add file).1.prefix_add object)
    have hold : ∀ r ∈ rs, atlas.mark r = (atlas.addMark line address file object).1.mark r :=
      fun r hr => (mark_of_grown (fun _ hname => h.mem_names hr hname) hpool).symm
    rw [toList_marks_addMark, h.marks, List.map_congr_left hold, List.map_append]
    rfl

theorem reading_mark {r : Reading} (hr : r ∈ rs)
    (hplaces : ∀ name ∈ r.names, atlas.pool.names.idxOf name < NamePool.capacity) :
    atlas.reading (atlas.mark r) = r :=
  Atlas.reading_mark (fun _ hname => h.mem_names hr hname) hplaces

variable (hsize : atlas.pool.size ≤ NamePool.capacity)
include hsize

theorem idxOf_lt_capacity {r : Reading} (hr : r ∈ rs) :
    ∀ name ∈ r.names, atlas.pool.names.idxOf name < NamePool.capacity :=
  fun _ hname => NamePool.idxOf_lt_capacity (h.mem_names hr hname) hsize

theorem readings_eq : atlas.readings = rs := by
  have hread : ∀ r ∈ rs, (atlas.reading ∘ atlas.mark) r = id r :=
    fun r hr => h.reading_mark hr (h.idxOf_lt_capacity hsize hr)
  rw [readings, h.marks, List.map_map, List.map_congr_left hread, List.map_id]

theorem legible : atlas.Legible := by
  intro m hm
  rw [h.marks] at hm
  obtain ⟨r, hr, rfl⟩ := List.mem_map.mp hm
  obtain ⟨hfile, hobject⟩ := leads_mark (fun _ hname => h.mem_names hr hname)
    (h.idxOf_lt_capacity hsize hr)
  exact ⟨⟨r.file, hfile⟩, r.object, hobject⟩

end Records

end Atlas

end CallSite
