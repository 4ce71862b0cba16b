import GuestResume.Proofs.BusSimulation
import GuestResume.Proofs.PagedAccess

/-! Bringing pages in when they are touched cannot be told from binding them all beforehand. What the
paged memory holds is its bound pages over those of the source, and every access keeps that equal to
the pages of the memory that was loaded eagerly. An address without a page in either fails in both,
though for the paged memory it is a page missing from the source. -/

namespace GuestResume

variable {S : Type} [PageSource S]

namespace PageSource

def pages (source : S) : List Address :=
  ((List.range (UInt64.size / Address.pageSize)).map fun number => UInt64.ofNat (Address.pageSize * number)).filter
    (contains source)

/-- Every page that is listed can be read. -/
def Delivers (source : S) : Prop :=
  ∀ page : Address, page.IsAligned → contains source page → ∃ content, fetch source page = .ok content

theorem mem_pages {source : S} {page : Address} (aligned : page.IsAligned) :
    page ∈ pages source ↔ contains source page := by
  rw [pages, List.mem_filter, and_iff_right_iff_imp]
  intro _
  have bound := page.toNat_lt
  rw [Address.isAligned_iff] at aligned
  refine List.mem_map.mpr ⟨page.toNat / Address.pageSize, List.mem_range.mpr ?_, ?_⟩
  · simp only [Address.pageSize, UInt64.size]
    omega
  · rw [Nat.mul_div_cancel' (Nat.dvd_of_mod_eq_zero aligned), UInt64.ofNat_toNat]

end PageSource

theorem Snapshot.delivers (snapshot : Snapshot) : PageSource.Delivers snapshot := by
  intro page _ listed
  have present : snapshot.pages[page]?.isSome := by
    rw [← Std.TreeMap.contains_eq_isSome_getElem?]
    exact listed
  obtain ⟨content, found⟩ := Option.isSome_iff_exists.mp present
  exact ⟨content, by simp only [PageSource.fetch, found]⟩

namespace Space

/-- Binds a page of the source, unless one is bound there already. -/
def preload (source : S) (space : Space) (page : Address) : Space :=
  if space.isBound page then space
  else match PageSource.fetch source page with
    | .ok content => Access.after (insert page content) space.allocate
    | .error _ => space

def preloaded (source : S) (space : Space) : Space :=
  (PageSource.pages source).foldl (preload source) space

theorem page?_preload (source : S) (space : Space) {page : Address} (aligned : page.IsAligned)
    (other : Address) :
    (space.preload source page).page? other =
      (space.page? other).or (if page = other.pageStart then (PageSource.fetch source page).toOption
        else none) := by
  by_cases bound : space.isBound page
  · rw [preload, if_pos bound]
    split
    next same =>
      rw [isBound_eq, same, page?_pageStart] at bound
      rw [Option.or_of_isSome bound]
    next => rw [Option.or_none]
  · rw [preload, if_neg bound]
    cases fetched : PageSource.fetch source page with
    | error reason => simp [Except.toOption]
    | ok content =>
      have free : space.allocate.bound.contains page = false := by
        rw [Bool.not_eq_true, isBound, aligned.pageStart] at bound
        exact bound
      have inserted : insert page content space.allocate = .ok space.allocate.bound[page]?
          { space.allocate with bound := space.allocate.bound.insert page content } := by
        simp only [insert, aligned, not_true_eq_false, if_false, free, Bool.false_eq_true, and_false]
      simp only [Access.after_ok inserted]
      rw [page?_bind]
      split
      next same =>
        rw [← page?_pageStart, ← same, page?_of_free bound]
        rfl
      next => rw [Option.or_none]; rfl

private theorem page?_preload_all (source : S) (space : Space) (other : Address) (pages : List Address)
    (aligned : ∀ page ∈ pages, page.IsAligned) :
    (pages.foldl (preload source) space).page? other =
      (space.page? other).or (if other.pageStart ∈ pages then
        (PageSource.fetch source other.pageStart).toOption else none) := by
  induction pages generalizing space with
  | nil => simp
  | cons page rest ih =>
    rw [List.foldl_cons, ih _ fun other member => aligned other (List.mem_cons_of_mem _ member),
      page?_preload source space (aligned page List.mem_cons_self)]
    by_cases same : page = other.pageStart
    · subst same
      simp only [if_true, List.mem_cons, true_or, Option.or_assoc]
      split
      · rw [Option.or_self]
      · rw [Option.or_none]
    · simp only [if_neg same, Option.or_none, List.mem_cons, Ne.symm same, false_or]

theorem page?_preloaded (source : S) (space : Space) (gpa : Address) :
    (space.preloaded source).page? gpa = (space.page? gpa).or (PageSource.page? source gpa) := by
  rw [preloaded, page?_preload_all, PageSource.page?]
  · simp only [PageSource.mem_pages (Address.isAligned_pageStart gpa)]
  · intro page member
    rw [PageSource.pages, List.mem_filter, List.mem_map] at member
    obtain ⟨⟨number, -, rfl⟩, -⟩ := member
    simp only [Address.isAligned_iff, Address.pageSize, UInt64.toNat_ofNat']
    omega

end Space

/-- The page at an address, bound or still to be brought in. -/
def Paged.overlaid? (memory : Paged (Pager S)) (gpa : Address) : Option Page :=
  (memory.space.page? gpa).or (PageSource.page? memory.resolver.source gpa)

/-- How a missing page is reported when pages come from a source. -/
def MemoryError.whenPaged : MemoryError → MemoryError
  | .unbound gpa => .missingPage gpa.pageStart
  | other => other

/-- A paged memory against one with all pages bound: the same pages, and the same failures up to the
report of a missing page. -/
def Pager.comparison (source : S) : Comparison (Paged (Pager S)) Space where
  related memory space := memory.resolver.source = source ∧ ∀ gpa, memory.overlaid? gpa = space.page? gpa
  reports lazily eagerly := lazily = eagerly.whenPaged

namespace DemandPaging

variable {source : S} {memory : Paged (Pager S)} {space : Space}

theorem ensure_missing (delivers : PageSource.Delivers source)
    (related : (Pager.comparison source).related memory space) {gpa : Address}
    (missing : space.page? gpa = none) :
    Paged.ensure gpa memory = .error (.missingPage gpa.pageStart) memory.asked := by
  obtain ⟨same, pages⟩ := related
  -- Were the page listed, it could be delivered and would not be missing.
  have none := (pages gpa).trans missing
  rw [Paged.overlaid?, Option.or_eq_none_iff, same] at none
  have unbound : ¬memory.space.isBound gpa := by simp [Space.isBound_eq, none.1]
  have absent : ¬PageSource.contains source gpa.pageStart := by
    intro listed
    obtain ⟨content, fetched⟩ := delivers _ (Address.isAligned_pageStart gpa) listed
    have given := none.2
    rw [PageSource.page?, if_pos listed, fetched] at given
    cases given
  rw [Paged.ensure_eq, if_neg unbound, same, if_neg absent]

theorem ensure_present (related : (Pager.comparison source).related memory space) {gpa : Address}
    {page : Page} (present : space.page? gpa = some page) :
    ∃ later, Paged.ensure gpa memory = .ok () later ∧ (Pager.comparison source).related later space ∧
      later.space.page? gpa = some page := by
  obtain ⟨same, pages⟩ := related
  by_cases bound : memory.space.isBound gpa
  · refine ⟨memory, Paged.ensure_bound bound, ⟨same, pages⟩, ?_⟩
    rw [← present, ← pages gpa, Paged.overlaid?, Option.or_of_isSome]
    rwa [← Space.isBound_eq]
  · have free : memory.space.page? gpa = none := Space.page?_of_free bound
    have given : PageSource.page? source gpa = some page := by
      rw [← present, ← pages gpa, Paged.overlaid?, free, Option.none_or, same]
    have listed : PageSource.contains source gpa.pageStart := by
      by_contra unlisted
      rw [PageSource.page?, if_neg unlisted] at given
      cases given
    have fetched : PageSource.fetch source gpa.pageStart = .ok page := by
      rw [PageSource.page?, if_pos listed] at given
      cases answer : PageSource.fetch source gpa.pageStart <;> rw [answer] at given <;> cases given
      rfl
    refine ⟨memory.supplied gpa.pageStart page, ?_, ⟨same, ?_⟩, ?_⟩
    · rw [Paged.ensure_eq, if_neg bound, same, if_pos listed, fetched]
    · intro other
      rw [← pages other, Paged.overlaid?, Paged.page?_supplied, Paged.overlaid?]
      split
      next here =>
        have untouched : memory.space.page? other = none := by
          rw [← Space.page?_pageStart, ← here, Space.page?_pageStart, free]
        have content : PageSource.page? memory.resolver.source other = some page := by
          rw [same, PageSource.page?, ← here, ← PageSource.page?, given]
        rw [untouched, content]
        rfl
      next => rfl
    · rw [Paged.page?_supplied, if_pos rfl]

/-- After a page was made sure of, the same access is made to the same page. -/
private theorem simulates_ensured {α : Type} (delivers : PageSource.Delivers source) (gpa : Address)
    {access : Access Space α}
    (missing : ∀ space : Space, space.page? gpa = none → access space = .error (.unbound gpa) space)
    (present : ∀ (memory : Paged (Pager S)) (space : Space) page,
      (Pager.comparison source).related memory space → memory.space.page? gpa = some page →
      space.page? gpa = some page →
      (Pager.comparison source).Agree (Paged.onSpace access memory) (access space)) :
    (Pager.comparison source).Simulates (Paged.ensure gpa >>= fun _ => Paged.onSpace access) access := by
  intro memory space related
  cases held : space.page? gpa with
  | none =>
    rw [Access.bind_error (ensure_missing delivers related held), missing space held]
    exact .error rfl related
  | some page =>
    obtain ⟨later, ensured, kept, there⟩ := ensure_present related held
    rw [Access.bind_ok ensured]
    exact present later space page kept there held

theorem simulates_locate (delivers : PageSource.Delivers source) (gpa : Address) :
    (Pager.comparison source).Simulates (Paged.bus.locate gpa) (Space.bus.locate gpa) := by
  apply simulates_ensured delivers gpa
  · intro space missing
    rw [Space.locate_eq, missing]
  · intro memory space page related lazily eagerly
    have found : Space.bus.locate gpa memory.space = .ok (page, gpa.offset) memory.space := by
      rw [Space.locate_eq, lazily]
    rw [Paged.onSpace_ok found, Space.locate_eq, eagerly]
    exact .ok related

theorem simulates_read (delivers : PageSource.Delivers source) (gpa : Address) (length : Nat) :
    (Pager.comparison source).Simulates (Paged.bus.read gpa length) (Space.bus.read gpa length) := by
  intro memory space related
  rw [Paged.read_eq]
  by_cases crosses : Address.pageSize - gpa.offset < length
  · rw [if_pos crosses, Space.read_eq, if_pos crosses]
    exact .error rfl related
  · rw [if_neg crosses]
    refine simulates_ensured delivers gpa ?_ ?_ memory space related
    · intro space missing
      rw [Space.read_eq, if_neg crosses, missing]
    · intro memory space page related lazily eagerly
      rw [Paged.onSpace_ok (Space.read_page lazily crosses), Space.read_page eagerly crosses]
      exact .ok related

/-- The write lands on the bound copy, which goes on hiding the page of the source. -/
theorem simulates_write (delivers : PageSource.Delivers source) (gpa : Address) (data : List UInt8) :
    (Pager.comparison source).Simulates (Paged.bus.write gpa data) (Space.bus.write gpa data) := by
  intro memory space related
  rw [Paged.write_eq]
  by_cases crosses : Address.pageSize - gpa.offset < data.length
  · rw [if_pos crosses, Space.write_eq, if_pos crosses]
    exact .error rfl related
  · rw [if_neg crosses]
    refine simulates_ensured delivers gpa ?_ ?_ memory space related
    · intro space missing
      rw [Space.write_eq, if_neg crosses, missing]
    · intro memory space page related lazily eagerly
      obtain ⟨bound, written⟩ : ∃ later, Space.bus.write gpa data memory.space = .ok () later :=
        ⟨_, Space.write_page lazily crosses⟩
      obtain ⟨loaded, stored⟩ : ∃ later, Space.bus.write gpa data space = .ok () later :=
        ⟨_, Space.write_page eagerly crosses⟩
      rw [Paged.onSpace_ok written, stored]
      refine .ok ⟨related.1, ?_⟩
      intro other
      rw [Paged.overlaid?, Space.page?_write written, Space.page?_write stored]
      split
      next here =>
        rw [← Space.page?_pageStart memory.space, ← Space.page?_pageStart space, ← here,
          Space.page?_pageStart, Space.page?_pageStart, lazily, eagerly]
        rfl
      next => exact related.2 other

theorem simulates_bus (delivers : PageSource.Delivers source) :
    Bus.Linked (Pager.comparison source).congruence Paged.bus Space.bus where
  locate := simulates_locate delivers
  read := simulates_read delivers
  write := simulates_write delivers
  unmapped _ := Comparison.simulates_throw rfl
  nonCanonical _ := Comparison.simulates_throw rfl
  noRoom _ := Comparison.simulates_throw rfl

end DemandPaging

/-- An operation that needs pages of memory to be there. -/
inductive Demand where
  | ensure (gpa : Address)
  | access (command : BusCommand)

namespace Demand

def runPaged : Demand → Access (Paged (Pager S)) MemoryReply
  | ensure gpa => Paged.run (.ensure gpa)
  | access command => Paged.run (.access command)

/-- On bound pages alone, making sure of a page is looking whether it is bound. -/
def runPlain : Demand → Access Space MemoryReply
  | ensure gpa => fun space =>
    if space.isBound gpa then .ok .done space else .error (.unbound gpa) space
  | access command => Space.bus.run command

theorem simulates {source : S} (delivers : PageSource.Delivers source) (demand : Demand) :
    (Pager.comparison source).Simulates demand.runPaged demand.runPlain := by
  cases demand with
  | access command => exact (DemandPaging.simulates_bus delivers).run command
  | ensure gpa =>
    intro memory space related
    cases held : space.page? gpa with
    | none =>
      have unbound : ¬space.isBound gpa := by simp [Space.isBound_eq, held]
      have missing := DemandPaging.ensure_missing delivers related held
      have refused : (ensure gpa).runPlain space = .error (.unbound gpa) space := if_neg unbound
      rw [refused, runPaged, Paged.run, Access.bind_error missing]
      exact .error rfl related
    | some page =>
      have bound : space.isBound gpa := by simp [Space.isBound_eq, held]
      obtain ⟨later, ensured, kept, -⟩ := DemandPaging.ensure_present related held
      have granted : (ensure gpa).runPlain space = .ok .done space := if_pos bound
      rw [granted, runPaged, Paged.run, Access.bind_ok ensured]
      exact .ok kept

end Demand

/-- Operation by operation, memory that pages in on demand answers like memory into which everything
was loaded beforehand, and its bound pages over those of the source are the pages of the other. -/
theorem demand_paging_agrees_with_preloading (pager : Pager S) (delivers : PageSource.Delivers pager.source)
    (space : Space) (demands : List Demand) :
    List.Forall₂ (Pager.comparison pager.source).Agree
      (Access.trace Demand.runPaged demands ⟨pager, space⟩)
      (Access.trace Demand.runPlain demands (space.preloaded pager.source)) := by
  apply Comparison.trace_agree (Demand.simulates delivers)
  exact ⟨rfl, fun gpa => (Space.page?_preloaded pager.source space gpa).symm⟩

/-- A page table for two pages, the second of which was not captured. -/
def Snapshot.halfCaptured : Snapshot :=
  [(0x1000, 0x2003), (0x2000, 0x3003), (0x3000, 0x4003), (0x4000, 0x5003), (0x4008, 0x6003), (0x5FF8, 7)].foldl
    (fun snapshot (address, word) => snapshot.load address (Word.toBytes word)) {}

/-- The write fails at its second page, after the tables and its first page were brought in. -/
theorem demand_paging_agrees_with_preloading_halfCaptured :
    PageSource.Delivers Snapshot.halfCaptured ∧
      List.Forall₂ (Pager.comparison Snapshot.halfCaptured).Agree
        (Access.trace Demand.runPaged
          [.access (.writeVirtual 0x1000 0xFFE [1, 2, 3]), .access (.readVirtual 0x1000 0xFF8 8), .ensure 0x6000]
          ⟨{ source := Snapshot.halfCaptured }, {}⟩)
        (Access.trace Demand.runPlain
          [.access (.writeVirtual 0x1000 0xFFE [1, 2, 3]), .access (.readVirtual 0x1000 0xFF8 8), .ensure 0x6000]
          (Space.preloaded Snapshot.halfCaptured {})) :=
  ⟨Snapshot.delivers _,
    demand_paging_agrees_with_preloading { source := Snapshot.halfCaptured } (Snapshot.delivers _) {} _⟩

end GuestResume
