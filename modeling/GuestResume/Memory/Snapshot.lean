import GuestResume.Memory.Chunk
import GuestResume.Memory.Error
import GuestResume.Memory.Page
import Std.Data.TreeMap

/-! Snapshots of guest memory, from which pages are brought in when they are first needed. -/

namespace GuestResume

/-- Tells which pages it holds and delivers them one by one, or fails in a way of its own. Pages are
asked for by the address of their first byte. -/
class PageSource (S : Type) where
  contains : S → Address → Bool
  fetch : S → Address → Except MemoryError Page

/-- The pages that were loaded, and no others. -/
structure Snapshot where
  pages : Std.TreeMap Address Page := ∅

namespace Snapshot

/-- Puts bytes inside one page, which starts out zero. -/
def put (snapshot : Snapshot) (address : Address) (bytes : List UInt8) : Snapshot :=
  let page := snapshot.pages[address.pageStart]?.getD Page.zero
  { pages := snapshot.pages.insert address.pageStart (page.write address.offset bytes) }

/-- Copies bytes over what was loaded before. -/
def load (snapshot : Snapshot) (address : Address) (data : List UInt8) : Snapshot :=
  (Chunk.split address data.length).foldl
    (fun snapshot chunk => snapshot.put chunk.address (chunk.slice data)) snapshot

def size (snapshot : Snapshot) : Nat :=
  snapshot.pages.size

def isEmpty (snapshot : Snapshot) : Bool :=
  snapshot.pages.isEmpty

end Snapshot

instance : PageSource Snapshot where
  contains snapshot gpa := snapshot.pages.contains gpa
  fetch snapshot gpa :=
    match snapshot.pages[gpa]? with
    | some page => .ok page
    | none => .error (.snapshotRead gpa "page not present")

/-- A snapshot that also lists pages which it may not have. -/
structure ListedSnapshot where
  snapshot : Snapshot := {}
  listed : List Address := []

instance : PageSource ListedSnapshot where
  contains source gpa := source.listed.contains gpa || PageSource.contains source.snapshot gpa
  fetch source gpa := PageSource.fetch source.snapshot gpa

end GuestResume
