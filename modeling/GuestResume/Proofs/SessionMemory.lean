import GuestResume.Proofs.AccessInvariants
import GuestResume.Proofs.DemandPaging
import GuestResume.Proofs.TableInUse
import GuestResume.Session.Basic

/-! Memory as a resumed session sees it. A layout that was installed over a snapshot decides which
bytes can be reached, the snapshot tells what they are, and writes through the table replace them one
by one. The proof looks at the memory with the whole snapshot bound, where a translation is either
refused by the layout or leads to a page of the snapshot, and takes the answers over to the session,
which brings the same pages in one at a time. -/

namespace GuestResume

/-- An access to the memory of a session through its page table. -/
inductive VirtualCall where
  | read (gva : Address) (length : Nat)
  | write (gva : Address) (data : List UInt8)

namespace VirtualCall

def command (root : Address) : VirtualCall → BusCommand
  | read gva length => .readVirtual root gva length
  | write gva data => .writeVirtual root gva data

/-- The bytes that a call stores, where only some addresses can be reached. -/
def stored (reach : Address → Except MemoryError Address) : VirtualCall → List (Address × UInt8)
  | read .. => []
  | write gva data => trail reach gva data

theorem stored_congr {reach other : Address → Except MemoryError Address}
    (same : ∀ gva gpa, reach gva = .ok gpa ↔ other gva = .ok gpa) : stored reach = stored other := by
  funext call
  cases call with
  | read => rfl
  | write gva data => exact trail_congr same gva data

end VirtualCall

namespace Settled

variable {root : Address} {translate : Address → Except MemoryError Address} {kept : Space → Prop}
  {space : Space}

theorem stores_call (settled : Settled root translate kept) (start : kept space) (call : VirtualCall) :
    Space.Stores (call.stored (space.reach translate)) space
        (Access.after (Space.bus.run (call.command root)) space) ∧
      kept (Access.after (Space.bus.run (call.command root)) space) := by
  cases call with
  | read gva length =>
    have read := Space.readVirtual_eq settled.steady (settled.walks start) gva length
    have unchanged : Access.after (Space.bus.run (.readVirtual root gva length)) space = space := by
      refine (Access.after_map _ _ space).trans ?_
      rw [Access.after, read]
      exact Access.after_ofExcept _ space
    rw [VirtualCall.command, unchanged]
    exact ⟨Space.stores_nil space, start⟩
  | write gva data =>
    obtain ⟨later, written, stores, keeps⟩ := settled.writeVirtual_eq start gva data
    have left : Access.after (Space.bus.run (.writeVirtual root gva data)) space = later := by
      refine (Access.after_map _ _ space).trans ?_
      rw [Access.after, written]
      cases (Address.span gva data.length).mapM (space.reach translate) <;> rfl
    rw [VirtualCall.command, left]
    exact ⟨stores, keeps⟩

/-- After a sequence of calls, every byte is the last one that a call stored at its address. -/
theorem stores_calls (settled : Settled root translate kept) (start : kept space)
    (calls : List VirtualCall) :
    Space.Stores (calls.flatMap (VirtualCall.stored (space.reach translate))) space
        (Access.afterAll (fun call => Space.bus.run (call.command root)) calls space) ∧
      kept (Access.afterAll (fun call => Space.bus.run (call.command root)) calls space) := by
  induction calls generalizing space with
  | nil => exact ⟨Space.stores_nil space, start⟩
  | cons call rest ih =>
    obtain ⟨stores, keeps⟩ := settled.stores_call start call
    have further := ih keeps
    rw [stores.reach] at further
    exact ⟨stores.append further.1, further.2⟩

end Settled

namespace Snapshot

variable {snapshot : Snapshot} {gpa : Address}

theorem page?_eq (snapshot : Snapshot) (gpa : Address) :
    PageSource.page? snapshot gpa = snapshot.pages[gpa.pageStart]? := by
  simp only [PageSource.page?, PageSource.contains, PageSource.fetch,
    Std.TreeMap.contains_eq_isSome_getElem?]
  cases snapshot.pages[gpa.pageStart]? <;> rfl

theorem contains_eq (snapshot : Snapshot) (gpa : Address) :
    PageSource.contains snapshot gpa.pageStart = (PageSource.page? snapshot gpa).isSome := by
  rw [page?_eq]
  exact Std.TreeMap.contains_eq_isSome_getElem?

/-- The byte at an address, zero where the snapshot has no page. -/
def byte (snapshot : Snapshot) (gpa : Address) : UInt8 :=
  (snapshot.pages[gpa.pageStart]?.getD .zero).byte gpa.offset

theorem byte_eq {page : Page} (held : PageSource.page? snapshot gpa = some page) :
    snapshot.byte gpa = page.byte gpa.offset := by
  rw [page?_eq] at held
  rw [byte, held, Option.getD_some]

end Snapshot

namespace Layout

variable {layout : Layout} {base gva gpa : Address} {snapshot : Snapshot} {space : Space}

/-- The physical address of a byte that is mapped to a page of the snapshot. -/
def backed (layout : Layout) (snapshot : Snapshot) (gva : Address) : Except MemoryError Address := do
  let gpa ← layout.physical gva
  if PageSource.contains snapshot gpa.pageStart then return gpa else throw (.missingPage gpa.pageStart)

theorem backed_ok : layout.backed snapshot gva = .ok gpa ↔
    layout.physical gva = .ok gpa ∧ PageSource.contains snapshot gpa.pageStart :=
  checked_eq_ok

/-- Wherever the layout leads, memory has the page of the snapshot. -/
def Shows (layout : Layout) (snapshot : Snapshot) (space : Space) : Prop :=
  ∀ gva gpa, layout.physical gva = .ok gpa → space.page? gpa = PageSource.page? snapshot gpa

theorem Shows.reach_ok (shows : layout.Shows snapshot space) (gva gpa : Address) :
    space.reach layout.physical gva = .ok gpa ↔ layout.backed snapshot gva = .ok gpa := by
  rw [Space.reach_ok, backed_ok]
  apply and_congr_right
  intro mapped
  rw [Space.isBound_eq, shows gva gpa mapped, Snapshot.contains_eq]

/-- After calls, a byte that can be reached is the last one stored there or else the snapshot's. -/
theorem Shows.byteAt (shows : layout.Shows snapshot space) {log : List (Address × UInt8)} {later : Space}
    (stores : Space.Stores log space later) (reached : space.reach layout.physical gva = .ok gpa) :
    later.byteAt gpa = (log.reverse.lookup gpa).getD (snapshot.byte gpa) := by
  obtain ⟨mapped, bound⟩ := Space.reach_ok.mp reached
  rw [stores.byteAt bound]
  obtain ⟨page, held⟩ := Space.exists_page bound
  rw [Space.byteAt_bound held, Snapshot.byte_eq ((shows gva gpa mapped).symm.trans held)]

end Layout

namespace Session

variable {κ : Type} {config : Config} {snapshot : Snapshot} {layout frozen : Layout} {base : Option Address}
  {root : Address} {installed : Session (Pager Snapshot) κ}

/-- What an installation leaves behind in a fresh session: the tables, and nothing else. -/
structure Installed (snapshot : Snapshot) (layout : Layout) (root : Address)
    (installed : Session (Pager Snapshot) κ) : Prop where
  places : layout.Places root
  loaded : installed.cpu.cr3 = root
  source : installed.machine.memory.resolver.source = snapshot
  held : installed.space.Holds (layout.tree.image root)
  free : ∀ gpa, gpa.pageStart ∉ (layout.tree.image root).map TablePage.address →
    installed.space.page? gpa = none

theorem installed_of_install
    (done : install base (new config { source := snapshot }, layout) = .ok root (installed, frozen)) :
    Installed snapshot layout root installed := by
  simp only [install] at done
  split at done
  · cases done
  next image _ allocated committed =>
    split at done
    · cases done
    next bound =>
      cases done
      obtain ⟨places, -, rfl, held, free⟩ := Space.bound_image committed bound
      obtain ⟨-, -, rfl⟩ := Space.commit_ok committed
      refine ⟨places, rfl, rfl, held, ?_⟩
      intro gpa apart
      exact (free gpa apart).trans Std.TreeMap.getElem?_emptyc

/-- The memory of a session after calls, whatever their outcome. -/
def called (session : Session (Pager Snapshot) κ) (calls : List VirtualCall) : Paged (Pager Snapshot) :=
  Access.afterAll (fun call => Paged.run (.access (call.command session.cpu.cr3))) calls
    session.machine.memory

/-- The same calls on memory that has the whole snapshot bound. -/
private def eager (snapshot : Snapshot) (session : Session (Pager Snapshot) κ) (calls : List VirtualCall) :
    Space :=
  Access.afterAll (fun call => Space.bus.run (call.command session.cpu.cr3)) calls
    (session.space.preloaded snapshot)

namespace Installed

theorem shows (session : Installed snapshot layout root installed) (valid : layout.Valid) :
    layout.Shows snapshot (installed.space.preloaded snapshot) := by
  intro gva gpa mapped
  rw [Space.page?_preloaded, session.free gpa (session.places.physical_apart valid mapped), Option.none_or]

theorem held_preloaded (session : Installed snapshot layout root installed) :
    (installed.space.preloaded snapshot).Holds (layout.tree.image root) := by
  intro table member
  rw [Space.page?_preloaded, session.held table member, Option.some_or]

private theorem eager_after (session : Installed snapshot layout root installed) (valid : layout.Valid)
    (calls : List VirtualCall) :
    Space.Stores (calls.flatMap (VirtualCall.stored (layout.backed snapshot)))
        (installed.space.preloaded snapshot) (eager snapshot installed calls) ∧
      (eager snapshot installed calls).Holds (layout.tree.image root) := by
  obtain ⟨stores, held⟩ :=
    (Layout.settled valid session.places).stores_calls session.held_preloaded calls
  rw [VirtualCall.stored_congr (session.shows valid).reach_ok] at stores
  rw [eager, session.loaded]
  exact ⟨stores, held⟩

private theorem related_called (session : Installed snapshot layout root installed)
    (calls : List VirtualCall) :
    (Pager.comparison snapshot).related (installed.called calls) (eager snapshot installed calls) := by
  have buses := DemandPaging.simulates_bus snapshot.delivers
  have start : (Pager.comparison snapshot).related installed.machine.memory
      (installed.space.preloaded snapshot) := by
    refine ⟨session.source, ?_⟩
    intro gpa
    rw [Space.page?_preloaded, Paged.overlaid?, session.source]
    rfl
  exact Comparison.afterAll_related (fun call => buses.run (call.command installed.cpu.cr3)) calls start

/-- A read of the session answers like a read of the eager memory. -/
private theorem read_agrees (session : Installed snapshot layout root installed) (valid : layout.Valid)
    (calls : List VirtualCall) (gva : Address) (length : Nat) :
    (Pager.comparison snapshot).Agree
      (Paged.bus.readVirtual installed.cpu.cr3 gva length (installed.called calls))
      (Access.ofExcept ((eager snapshot installed calls).rangeOf layout.physical gva length)
        (eager snapshot installed calls)) := by
  obtain ⟨stores, held⟩ := session.eager_after valid calls
  have settled := Layout.settled valid session.places
  have read := Space.readVirtual_eq settled.steady (settled.walks held) gva length
  rw [session.loaded, ← read]
  exact (DemandPaging.simulates_bus snapshot.delivers).readVirtual root gva length _ _
    (session.related_called calls)

/-- A read succeeds if each of its bytes is mapped to a page of the snapshot, and only then. -/
theorem read_succeeds (session : Installed snapshot layout root installed) (valid : layout.Valid)
    (calls : List VirtualCall) (gva : Address) (length : Nat) :
    Access.succeeds (Paged.bus.readVirtual installed.cpu.cr3 gva length) (installed.called calls) ↔
      ∀ index < length, ∃ gpa, layout.physical (gva + UInt64.ofNat index) = .ok gpa ∧
        PageSource.contains snapshot gpa.pageStart := by
  have agree := session.read_agrees valid calls gva length
  have steady := (Layout.settled valid session.places).steady
  have stores := (session.eager_after valid calls).1
  have reaches := (session.shows valid).reach_ok
  have found : Access.succeeds (Paged.bus.readVirtual installed.cpu.cr3 gva length) (installed.called calls) ↔
      ∃ found, (Address.span gva length).mapM
        ((installed.space.preloaded snapshot).reach layout.physical) = .ok found := by
    simp only [Access.succeeds_iff, agree.ofExcept_ok, Space.rangeOf_ok steady, stores.reach]
    constructor
    · rintro ⟨bytes, found, reached, -⟩
      exact ⟨found, reached⟩
    · rintro ⟨found, reached⟩
      exact ⟨_, found, reached, rfl⟩
  rw [found, exists_mapM_eq_ok]
  constructor
  · intro each index inside
    obtain ⟨gpa, reached⟩ := each _ (Address.mem_span.mpr ⟨index, inside, rfl⟩)
    exact ⟨gpa, Layout.backed_ok.mp ((reaches _ gpa).mp reached)⟩
  · intro each other member
    obtain ⟨index, inside, rfl⟩ := Address.mem_span.mp member
    obtain ⟨gpa, backed⟩ := each index inside
    exact ⟨gpa, (reaches _ gpa).mpr (Layout.backed_ok.mpr backed)⟩

/-- A byte that is read is the last one stored at its physical address, or else the snapshot's. -/
theorem read_bytes (session : Installed snapshot layout root installed) (valid : layout.Valid)
    (calls : List VirtualCall) {gva : Address} {length : Nat} {bytes : List UInt8}
    {later : Paged (Pager Snapshot)}
    (read : Paged.bus.readVirtual installed.cpu.cr3 gva length (installed.called calls) = .ok bytes later) :
    bytes.length = length ∧ ∀ index < length, ∀ gpa,
      layout.physical (gva + UInt64.ofNat index) = .ok gpa →
        bytes[index]? = some (((calls.flatMap (VirtualCall.stored (layout.backed snapshot))).reverse.lookup
          gpa).getD (snapshot.byte gpa)) := by
  have agree := session.read_agrees valid calls gva length
  have steady := (Layout.settled valid session.places).steady
  have stores := (session.eager_after valid calls).1
  obtain ⟨found, reached, rfl⟩ := (Space.rangeOf_ok steady).mp (agree.ofExcept_ok.mp ⟨later, read⟩)
  rw [stores.reach] at reached
  obtain ⟨size, each⟩ := Address.mapM_span reached
  refine ⟨(List.length_map _).trans size, ?_⟩
  intro index inside gpa mapped
  obtain ⟨place, answer, there⟩ := each index inside
  have lands := (Space.reach_ok.mp answer).1
  rw [mapped] at lands
  cases lands
  rw [List.getElem?_map, there, Option.map_some,
    (session.shows valid).byteAt stores answer]

/-- The pages of the tables stay bound as they are. -/
theorem tables_kept (session : Installed snapshot layout root installed) (valid : layout.Valid)
    (calls : List VirtualCall) : (installed.called calls).space.Holds (layout.tree.image root) := by
  intro table member
  -- The snapshot may have a page at the same place, but the bound one comes before it.
  have bound : (installed.called calls).space.isBound table.address := by
    have buses := Paged.keeping_bound (S := Snapshot) table.address
    refine Access.afterAll_keeps (fun memory : Paged (Pager Snapshot) => memory.space.isBound table.address)
      (fun call _ => Comparison.simulates_keeping.mp (buses.run _)) ?_
    rw [Space.isBound_eq]
    exact Option.isSome_iff_exists.mpr ⟨_, session.held table member⟩
  have overlaid := (session.related_called calls).2 table.address
  rw [(session.eager_after valid calls).2 table member, Paged.overlaid?, Option.or_of_isSome] at overlaid
  · exact overlaid
  · rwa [← Space.isBound_eq]

end Installed

end Session

/-- Memory of a fresh session on which a layout was installed, after any calls: a range can be read if
each byte of it is mapped to a page of the snapshot, and only then; a byte that is read is the last one
that a call stored at its physical address, or else the snapshot's; and the pages of the tables, none of
which is mapped, stay as they were written out. -/
theorem resumed_session_reads_snapshot {κ : Type} (config : Config) (snapshot : Snapshot)
    (insertions : List Insertion) (base : Option Address) (root : Address)
    (installed : Session (Pager Snapshot) κ) (frozen : Layout)
    (done : Session.install base (Session.new config { source := snapshot }, Layout.ofInsertions insertions) =
      .ok root (installed, frozen))
    (calls : List VirtualCall) (gva : Address) (length : Nat) :
    let layout := Layout.ofInsertions insertions
    let memory := installed.called calls
    let read := Paged.bus.readVirtual installed.cpu.cr3 gva length
    let log := calls.flatMap (VirtualCall.stored (layout.backed snapshot))
    (Access.succeeds read memory ↔
      ∀ index < length, ∃ gpa, layout.physical (gva + UInt64.ofNat index) = .ok gpa ∧
        PageSource.contains snapshot gpa.pageStart) ∧
    (∀ bytes later, read memory = .ok bytes later →
      bytes.length = length ∧ ∀ index < length, ∀ gpa,
        layout.physical (gva + UInt64.ofNat index) = .ok gpa →
          bytes[index]? = some ((log.reverse.lookup gpa).getD (snapshot.byte gpa))) ∧
    ∀ table ∈ layout.tree.image root, memory.space.page? table.address = some table.page ∧
      ∀ gva gpa, layout.physical gva = .ok gpa → gpa.pageStart ≠ table.address := by
  have valid := Layout.valid_ofInsertions insertions
  have session := Session.installed_of_install done
  refine ⟨session.read_succeeds valid calls gva length, ?_, ?_⟩
  · intro bytes later read
    exact session.read_bytes valid calls read
  · intro table member
    refine ⟨session.tables_kept valid calls table member, ?_⟩
    intro gva gpa mapped same
    exact session.places.physical_apart valid mapped (same ▸ List.mem_map_of_mem member)

/-- Two pages that share a frame, the first followed by a page whose frame was not captured. -/
def Insertion.aliases : List Insertion :=
  [.plain 0x400000 0x5000 .data, .plain 0x401000 0x9000 .data, .plain 0x800000 0x5000 .data]

/-- A write that fails at the missing page is seen through the other alias, next to captured bytes. -/
theorem resumed_session_reads_snapshot_aliases :
    ∃ root frozen, ∃ installed : Session (Pager Snapshot) Unit,
      Session.install none (Session.new {} { source := Snapshot.load {} 0x5FFC [10, 11] },
        Layout.ofInsertions Insertion.aliases) = .ok root (installed, frozen) ∧
      let memory := installed.called [.write 0x400FFE [1, 2, 3, 4]]
      Access.succeeds (Paged.bus.readVirtual installed.cpu.cr3 0x800FFC 4) memory ∧
      ∀ bytes later, Paged.bus.readVirtual installed.cpu.cr3 0x800FFC 4 memory = .ok bytes later →
        bytes[1]? = some 11 ∧ bytes[2]? = some 1 := by
  obtain ⟨root, ⟨installed, frozen⟩, done⟩ := Access.succeeds_iff.mp (show Access.succeeds
    (Session.install none) ((Session.new {} { source := Snapshot.load {} 0x5FFC [10, 11] } :
      Session (Pager Snapshot) Unit), Layout.ofInsertions Insertion.aliases) by decide +kernel)
  obtain ⟨succeeds, reads, -⟩ := resumed_session_reads_snapshot {} _ Insertion.aliases none root installed
    frozen done [.write 0x400FFE [1, 2, 3, 4]] 0x800FFC 4
  refine ⟨root, frozen, installed, done, succeeds.mpr ?_, ?_⟩
  · intro index inside
    refine ⟨0x5FFC + UInt64.ofNat index, ?_⟩
    revert index
    decide +kernel
  · intro bytes later read
    obtain ⟨-, each⟩ := reads bytes later read
    rw [each 1 (by decide) 0x5FFD (by decide +kernel), each 2 (by decide) 0x5FFE (by decide +kernel)]
    decide +kernel

end GuestResume
