import GuestResume.Proofs.PageAccounts
import GuestResume.Proofs.ResolverRequests

/-! What an operation costs. The pages it brings in are counted by the pager, by the space that gives
them out and by the bindings, and these agree however the operation ends: on a failure at any page of a
long access the pages before it are bound and counted, and the failing request is counted as well. A
source that does not deliver a page it lists decides itself what the operation fails with. -/

namespace GuestResume

variable {S α β : Type} [PageSource S]

namespace Paged

variable {before middle later : Paged (Pager S)} {pages more : List Address} {refused returned : Nat}
  {refusal : MemoryError → Prop}

/-- From one memory to a later one some pages were brought in. Of the other requests, `refused` in
number, `returned` cost a page that was taken for them and given back. -/
structure Brings (before later : Paged (Pager S)) (pages : List Address) (refused returned : Nat) : Prop where
  distinct : pages.Nodup
  missing : ∀ page ∈ pages, page.IsAligned ∧ ¬before.space.isBound page
  listed : ∀ page ∈ pages, PageSource.contains before.resolver.source page
  bound : ∀ gpa, later.space.isBound gpa ↔ before.space.isBound gpa ∨ gpa.pageStart ∈ pages
  size : later.space.bound.size = before.space.bound.size + pages.length
  source : later.resolver.source = before.resolver.source
  loaded : later.resolver.loaded = before.resolver.loaded + pages.length
  requests : later.resolver.requests = before.resolver.requests + pages.length + refused
  allocated : later.space.allocated = before.space.allocated + pages.length + returned
  released : later.space.released = before.space.released + returned

/-- What an operation does to a memory, by how it ends. A page that is listed and does not come is
reported by one of the errors `refusal`. -/
inductive Bills (refusal : MemoryError → Prop) (before : Paged (Pager S)) (pages : List Address) :
    EStateM.Result MemoryError (Paged (Pager S)) α → Prop where
  | done {value later} (brings : Brings before later pages 0 0) : Bills refusal before pages (.ok value later)
  | missing {page later} (brings : Brings before later pages 1 0) :
      Bills refusal before pages (.error (.missingPage page) later)
  | undelivered {error later} (refused : refusal error) (brings : Brings before later pages 1 1) :
      Bills refusal before pages (.error error later)
  | failed {error later} (harmless : ¬error.isFatal) (bindable : ∀ gpa, error ≠ .alreadyBound gpa)
      (supplied : ∀ gpa, error ≠ .unbound gpa) (brings : Brings before later pages 0 0) :
      Bills refusal before pages (.error error later)

theorem brings_none (before : Paged (Pager S)) : Brings before before [] 0 0 where
  distinct := .nil
  missing _ none := nomatch none
  listed _ none := nomatch none
  bound gpa := by simp
  size := rfl
  source := rfl
  loaded := rfl
  requests := rfl
  allocated := rfl
  released := rfl

theorem brings_asked (before : Paged (Pager S)) : Brings before before.asked [] 1 0 :=
  { brings_none before with requests := rfl }

theorem brings_returned (before : Paged (Pager S)) : Brings before before.returned [] 1 1 :=
  { brings_none before with requests := rfl, allocated := rfl, released := rfl }

theorem brings_supplied {gpa : Address} (missing : ¬before.space.isBound gpa)
    (listed : PageSource.contains before.resolver.source gpa.pageStart) (content : Page) :
    Brings before (before.supplied gpa.pageStart content) [gpa.pageStart] 0 0 where
  distinct := by simp
  missing page member := by
    cases List.mem_singleton.mp member
    refine ⟨Address.isAligned_pageStart gpa, ?_⟩
    rwa [Space.isBound_eq, Space.page?_pageStart, ← Space.isBound_eq]
  listed page member := by
    cases List.mem_singleton.mp member
    exact listed
  bound other := by
    rw [Space.isBound_eq, page?_supplied, List.mem_singleton, Space.isBound_eq]
    split
    next here => simp [here]
    next other => simp [Ne.symm other]
  size := by
    have free : (before.space.bound[gpa.pageStart]?).isSome = false := by
      rwa [Space.isBound_eq, Bool.not_eq_true] at missing
    have sizes := Space.size_insert_add before.space gpa.pageStart content
    rwa [free, if_neg Bool.false_ne_true] at sizes
  source := rfl
  loaded := rfl
  requests := rfl
  allocated := rfl
  released := rfl

/-- A page that was brought in is bound from then on, so it is none of those that are brought in later. -/
theorem Brings.append (brings : Brings before middle pages refused returned) (distinct : more.Nodup)
    (missing : ∀ page ∈ more, page.IsAligned ∧ ¬middle.space.isBound page) :
    (pages ++ more).Nodup ∧ ∀ page ∈ pages ++ more, page.IsAligned ∧ ¬before.space.isBound page := by
  constructor
  · refine List.nodup_append.mpr ⟨brings.distinct, distinct, ?_⟩
    rintro page early _ late rfl
    obtain ⟨aligned, free⟩ := missing page late
    refine free ((brings.bound page).mpr (.inr ?_))
    rwa [aligned.pageStart]
  · intro page member
    obtain early | late := List.mem_append.mp member
    · exact brings.missing page early
    · obtain ⟨aligned, free⟩ := missing page late
      exact ⟨aligned, fun bound => free ((brings.bound page).mpr (.inl bound))⟩

theorem Brings.trans (start : Brings before middle pages 0 0)
    (rest : Brings middle later more refused returned) :
    Brings before later (pages ++ more) refused returned where
  distinct := (start.append rest.distinct rest.missing).1
  missing := (start.append rest.distinct rest.missing).2
  listed page member := by
    obtain early | late := List.mem_append.mp member
    · exact start.listed page early
    · rw [← start.source]
      exact rest.listed page late
  bound gpa := by rw [rest.bound, start.bound, List.mem_append, or_assoc]
  size := by rw [rest.size, start.size, List.length_append, Nat.add_assoc]
  source := rest.source.trans start.source
  loaded := by rw [rest.loaded, start.loaded, List.length_append, Nat.add_assoc]
  requests := by
    have counts := start.requests
    rw [rest.requests, List.length_append]
    omega
  allocated := by
    have counts := start.allocated
    rw [rest.allocated, List.length_append]
    omega
  released := by rw [rest.released, start.released, Nat.add_zero]

theorem Bills.after {outcome : EStateM.Result MemoryError (Paged (Pager S)) α}
    (start : Brings before middle pages 0 0) (rest : Bills refusal middle more outcome) :
    Bills refusal before (pages ++ more) outcome := by
  cases rest with
  | done brings => exact .done (start.trans brings)
  | missing brings => exact .missing (start.trans brings)
  | undelivered refused brings => exact .undelivered refused (start.trans brings)
  | failed harmless bindable supplied brings =>
    exact .failed harmless bindable supplied (start.trans brings)

/-- The more a source may say, the less is known of a failure. -/
theorem Bills.mono {outcome : EStateM.Result MemoryError (Paged (Pager S)) α} {wider : MemoryError → Prop}
    (bill : Bills refusal before pages outcome) (covers : ∀ error, refusal error → wider error) :
    Bills wider before pages outcome := by
  cases bill with
  | done brings => exact .done brings
  | missing brings => exact .missing brings
  | undelivered refused brings => exact .undelivered (covers _ refused) brings
  | failed harmless bindable supplied brings => exact .failed harmless bindable supplied brings

/-- Programs that have a bill wherever they start, with one source throughout. -/
def billing (source : S) : Congruence (Paged (Pager S)) (Paged (Pager S)) where
  related first _ := ∀ before, before.resolver.source = source →
    ∃ pages, Bills (PageSource.Refuses source) before pages (first before)
  pure value before _ := ⟨[], .done (brings_none before)⟩
  bind {_ _ first _ next _} start continued before same := by
    obtain ⟨pages, bill⟩ := start before same
    generalize ended : first before = outcome at bill
    cases bill with
    | @done value middle brings =>
      obtain ⟨more, rest⟩ := continued value middle (brings.source.trans same)
      rw [Access.bind_ok ended]
      exact ⟨pages ++ more, rest.after brings⟩
    | missing brings =>
      rw [Access.bind_error ended]
      exact ⟨pages, .missing brings⟩
    | undelivered refused brings =>
      rw [Access.bind_error ended]
      exact ⟨pages, .undelivered refused brings⟩
    | failed harmless bindable supplied brings =>
      rw [Access.bind_error ended]
      exact ⟨pages, .failed harmless bindable supplied brings⟩

/-- A request that is refused before any page is looked at costs nothing. -/
theorem bills_refused (before : Paged (Pager S)) {error : MemoryError} (harmless : ¬error.isFatal)
    (bindable : ∀ gpa, error ≠ .alreadyBound gpa) (supplied : ∀ gpa, error ≠ .unbound gpa) :
    ∃ pages, Bills refusal before pages (.error error before : EStateM.Result _ _ α) :=
  ⟨[], .failed harmless bindable supplied (brings_none before)⟩

/-- Making sure of a page leaves it bound, or the pager has no page to give. -/
theorem ensure_cases (before : Paged (Pager S)) (gpa : Address) :
    (∃ pages later, ensure gpa before = .ok () later ∧ Brings before later pages 0 0 ∧
      later.space.isBound gpa) ∨
    (∃ page later, ensure gpa before = .error (.missingPage page) later ∧ Brings before later [] 1 0) ∨
    (∃ error later, ensure gpa before = .error error later ∧
      PageSource.Refuses before.resolver.source error ∧ Brings before later [] 1 1) := by
  have ensured := ensure_eq before gpa
  by_cases bound : before.space.isBound gpa
  · rw [if_pos bound] at ensured
    exact .inl ⟨[], before, ensured, brings_none before, bound⟩
  rw [if_neg bound] at ensured
  by_cases listed : PageSource.contains before.resolver.source gpa.pageStart
  · rw [if_pos listed] at ensured
    cases fetched : PageSource.fetch before.resolver.source gpa.pageStart with
    | error error =>
      rw [fetched] at ensured
      have refused : PageSource.Refuses before.resolver.source error :=
        ⟨gpa.pageStart, Address.isAligned_pageStart gpa, listed, fetched⟩
      exact .inr (.inr ⟨error, _, ensured, refused, brings_returned before⟩)
    | ok content =>
      rw [fetched] at ensured
      have brings := brings_supplied bound listed content
      exact .inl ⟨_, _, ensured, brings, (brings.bound gpa).mpr (.inr (List.mem_singleton.mpr rfl))⟩
  · rw [if_neg listed] at ensured
    exact .inr (.inl ⟨_, _, ensured, brings_asked before⟩)

/-- The rest of an operation starts with the page bound and with the source as it was. -/
theorem bills_ensure_then (before : Paged (Pager S)) (gpa : Address) {next : Access (Paged (Pager S)) α}
    (continued : ∀ memory, memory.space.isBound gpa →
      ∃ pages, Bills (PageSource.Refuses before.resolver.source) memory pages (next memory)) :
    ∃ pages, Bills (PageSource.Refuses before.resolver.source) before pages
      ((ensure gpa >>= fun _ => next) before) := by
  obtain ⟨pages, middle, ensured, brings, bound⟩ | ⟨page, later, ensured, brings⟩ |
    ⟨error, later, ensured, refused, brings⟩ := ensure_cases before gpa
  · obtain ⟨more, rest⟩ := continued middle bound
    rw [Access.bind_ok ensured]
    exact ⟨pages ++ more, rest.after brings⟩
  · rw [Access.bind_error ensured]
    exact ⟨[], .missing brings⟩
  · rw [Access.bind_error ensured]
    exact ⟨[], .undelivered refused brings⟩

/-- An access inside a bound page succeeds, binds nothing and costs nothing. -/
theorem bills_onSpace {access : Access Space α} {value : α} {memory : Paged (Pager S)} {space : Space}
    (done : access memory.space = .ok value space)
    (bound : ∀ gpa, space.isBound gpa = memory.space.isBound gpa)
    (size : space.bound.size = memory.space.bound.size) (allocated : space.allocated = memory.space.allocated)
    (released : space.released = memory.space.released) :
    ∃ pages, Bills refusal memory pages (onSpace access memory) := by
  rw [onSpace_ok done]
  exact ⟨[], .done { brings_none memory with
    bound := fun gpa => by simp [bound gpa]
    size := size
    allocated := allocated
    released := released }⟩

theorem bills_locate (gpa : Address) (before : Paged (Pager S)) :
    ∃ pages, Bills (PageSource.Refuses before.resolver.source) before pages (bus.locate gpa before) := by
  refine bills_ensure_then before gpa fun memory bound => ?_
  obtain ⟨page, held⟩ := Space.exists_page bound
  have located : Space.bus.locate gpa memory.space = .ok (page, gpa.offset) memory.space := by
    rw [Space.locate_eq, held]
  exact bills_onSpace located (fun _ => rfl) rfl rfl rfl

theorem bills_read (gpa : Address) (length : Nat) (before : Paged (Pager S)) :
    ∃ pages, Bills (PageSource.Refuses before.resolver.source) before pages (bus.read gpa length before) := by
  rw [read_eq]
  by_cases crosses : Address.pageSize - gpa.offset < length
  · rw [if_pos crosses]
    exact bills_refused before Bool.false_ne_true nofun nofun
  · rw [if_neg crosses]
    refine bills_ensure_then before gpa fun memory bound => ?_
    obtain ⟨page, held⟩ := Space.exists_page bound
    exact bills_onSpace (Space.read_page held crosses) (fun _ => rfl) rfl rfl rfl

/-- The page that is written was bound before, so that its place is taken by itself. -/
theorem bills_write (gpa : Address) (data : List UInt8) (before : Paged (Pager S)) :
    ∃ pages, Bills (PageSource.Refuses before.resolver.source) before pages (bus.write gpa data before) := by
  rw [write_eq]
  by_cases crosses : Address.pageSize - gpa.offset < data.length
  · rw [if_pos crosses]
    exact bills_refused before Bool.false_ne_true nofun nofun
  · rw [if_neg crosses]
    refine bills_ensure_then before gpa fun memory bound => ?_
    obtain ⟨page, held⟩ := Space.exists_page bound
    have written := Space.write_page held crosses
    refine bills_onSpace written ?_ ?_ rfl rfl
    · intro other
      rw [Space.isBound_eq, Space.isBound_eq, Space.page?_write written]
      split
      · exact Option.isSome_map
      · rfl
    · have sizes := Space.size_insert_add memory.space gpa.pageStart (page.write gpa.offset data)
      rw [← Space.page?, held, Option.isSome_some, if_pos rfl] at sizes
      exact Nat.succ.inj sizes

theorem linked_billing (source : S) : Bus.Linked (billing source) bus bus where
  locate gpa before := by
    rintro rfl
    exact bills_locate gpa before
  read gpa length before := by
    rintro rfl
    exact bills_read gpa length before
  write gpa data before := by
    rintro rfl
    exact bills_write gpa data before
  unmapped _ before _ := bills_refused before Bool.false_ne_true nofun nofun
  nonCanonical _ before _ := bills_refused before Bool.false_ne_true nofun nofun
  noRoom _ before _ := bills_refused before Bool.false_ne_true nofun nofun

theorem bills_run (command : ViewCommand) (before : Paged (Pager S)) :
    ∃ pages, Bills (PageSource.Refuses before.resolver.source) before pages (run command before) := by
  cases command with
  | ensure gpa =>
    exact bills_ensure_then before gpa fun memory _ => ⟨[], .done (brings_none memory)⟩
  | isBound gpa => exact ⟨[], .done (brings_none before)⟩
  | access command => exact (linked_billing before.resolver.source).run command before rfl

/-- The bills of a sequence of operations, one after the other. -/
inductive Ledger (refusal : MemoryError → Prop) :
    Paged (Pager S) → List ViewCommand → List (List Address) → Prop where
  | nil {before : Paged (Pager S)} : Ledger refusal before [] []
  | cons {before : Paged (Pager S)} {command : ViewCommand} {commands : List ViewCommand}
      {pages : List Address} {loads : List (List Address)}
      (bill : Bills refusal before pages (run command before))
      (rest : Ledger refusal (Access.after (run command) before) commands loads) :
      Ledger refusal before (command :: commands) (pages :: loads)

theorem Ledger.mono {wider : MemoryError → Prop} {commands : List ViewCommand} {loads : List (List Address)}
    (ledger : Ledger refusal before commands loads) (covers : ∀ error, refusal error → wider error) :
    Ledger wider before commands loads := by
  induction ledger with
  | nil => exact .nil
  | cons bill _ ih => exact .cons (bill.mono covers) ih

theorem Bills.brings {operation : Access (Paged (Pager S)) α}
    (bill : Bills refusal before pages (operation before)) :
    ∃ refused returned, Brings before (Access.after operation before) pages refused returned := by
  unfold Access.after
  generalize operation before = outcome at bill ⊢
  cases bill with
  | done brings => exact ⟨0, 0, brings⟩
  | missing brings => exact ⟨1, 0, brings⟩
  | undelivered _ brings => exact ⟨1, 1, brings⟩
  | failed _ _ _ brings => exact ⟨0, 0, brings⟩

/-- Every sequence has its bills, and no page stands on two of them or twice on one: what an operation
brings in stays bound, and only pages that are not bound are brought in. -/
theorem exists_ledger (before : Paged (Pager S)) (commands : List ViewCommand) :
    ∃ loads, Ledger (PageSource.Refuses before.resolver.source) before commands loads ∧ loads.flatten.Nodup ∧
      ∀ page ∈ loads.flatten, page.IsAligned ∧ ¬before.space.isBound page := by
  induction commands generalizing before with
  | nil => exact ⟨[], .nil, .nil, fun _ none => nomatch none⟩
  | cons command rest ih =>
    obtain ⟨pages, bill⟩ := bills_run command before
    obtain ⟨refused, returned, brings⟩ := bill.brings
    obtain ⟨loads, ledger, distinct, missing⟩ := ih (Access.after (run command) before)
    rw [brings.source] at ledger
    exact ⟨pages :: loads, .cons bill ledger, brings.append distinct missing⟩

end Paged

/-- Every operation of a sequence brings in pages of the source that were not bound, no page twice, and
what it does to the pager's and the space's counters follows from their number and from how it ends. A
page that the source lists and does not deliver makes it fail as the source says. Where the source says
that the page could not be read, as a snapshot does, no operation finds a page bound already or not bound
after all. The pager is asked only for pages that are not bound at that moment. -/
theorem resolver_accounted (pager : Pager S) (space : Space) (commands : List ViewCommand) :
    (∃ loads, loads.flatten.Nodup ∧
      Paged.Ledger (PageSource.Refuses pager.source) ⟨pager, space⟩ commands loads ∧
      (PageSource.Reports pager.source →
        Paged.Ledger MemoryError.IsSnapshotRead ⟨pager, space⟩ commands loads)) ∧
      List.Forall₂ Logged.comparison.Agree
        (Access.trace Paged.run commands ⟨{ resolver := pager }, space⟩)
        (Access.trace Paged.run commands ⟨pager, space⟩) := by
  obtain ⟨loads, ledger, distinct, -⟩ := Paged.exists_ledger ⟨pager, space⟩ commands
  refine ⟨⟨loads, distinct, ledger, fun reports => ?_⟩, Logged.trace_logged pager space commands⟩
  exact ledger.mono fun _ refuses => reports.isSnapshotRead refuses

/-- A captured page, and one that is only said to be. -/
def ListedSnapshot.halfTrue : ListedSnapshot where
  snapshot := Snapshot.load {} 0x4000 [1, 2]
  listed := [0x5000]

/-- The second request fails for a page that does not come, the third for one that is not even listed. -/
theorem resolver_accounted_halfTrue :
    let pager : Pager ListedSnapshot := { source := .halfTrue }
    let commands : List ViewCommand := [.ensure 0x4008, .ensure 0x5008, .ensure 0x6008]
    PageSource.Reports pager.source ∧
    (∃ loads, loads.flatten.Nodup ∧ Paged.Ledger MemoryError.IsSnapshotRead ⟨pager, {}⟩ commands loads) ∧
    ¬Access.succeeds (Paged.run (.ensure 0x5008)) ⟨pager, {}⟩ := by
  intro pager commands
  have reports := ListedSnapshot.halfTrue.reports
  obtain ⟨⟨loads, distinct, -, exactly⟩, -⟩ := resolver_accounted pager {} commands
  exact ⟨reports, ⟨loads, distinct, exactly reports⟩, by decide +kernel⟩

end GuestResume
