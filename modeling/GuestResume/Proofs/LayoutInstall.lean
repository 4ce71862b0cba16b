import GuestResume.Proofs.BindingOutcome
import GuestResume.Session.Basic

/-! Installing a layout in a session. Either the table is bound whole and becomes the current one, or
nothing that the guest or the host could notice has changed, the books on pages included. -/

namespace GuestResume

namespace Layout

variable {layout : Layout} {base : Address}

/-- Why a layout cannot be written out at a place. -/
inductive Refuses (layout : Layout) (base : Address) : MemoryError → Prop where
  | frozen (frozen : layout.frozen = true) : Refuses layout base .tableFrozen
  | unaligned (unaligned : ¬base.IsAligned) : Refuses layout base (.unaligned base)
  | beyondLimit (beyond : Address.physicalLimit < base.toNat + Address.pageSize * layout.tableCount) :
      Refuses layout base (.beyondLimit base)
  | overlap {frame : Address} (mapped : frame ∈ layout.frames)
      (inside : base ≤ frame ∧ frame.toNat < base.toNat + Address.pageSize * layout.tableCount) :
      Refuses layout base (.frameOverlap frame)

theorem refuses_of_image {error : MemoryError} (refused : layout.image base = .error error) :
    layout.Refuses base error := by
  simp only [Layout.image] at refused
  split at refused
  next frozen =>
    cases refused
    exact .frozen frozen
  · split at refused
    next unaligned =>
      cases refused
      exact .unaligned unaligned
    · split at refused
      next beyond =>
        cases refused
        exact .beyondLimit beyond
      · split at refused
        next frame lowest =>
          cases refused
          have member := List.mem_filter.mp (List.min?_mem lowest)
          exact .overlap member.1 (of_decide_eq_true member.2)
        · cases refused

end Layout

namespace Session

variable {η κ : Type} {session later : Session η κ} {layout rest : Layout} {base root : Address}
  {error : MemoryError}

/-- What a failed installation leaves behind. The session differs at most in how many pages were given out
and taken back, and not in how many are out; the layout is frozen if it got as far as being written out. -/
structure Untouched (session later : Session η κ) (layout rest : Layout) (base : Address) (error : MemoryError) :
    Prop where
  cause : layout.Refuses base error ∨ ∃ table ∈ layout.tree.image base, session.space.policy = .reject ∧
    session.space.isBound table.address ∧ error = .alreadyBound table.address
  elsewhere : later = session.setSpace later.space
  policy : later.space.policy = session.space.policy
  bound : later.space.bound = session.space.bound
  live : later.space.live = session.space.live
  mappings : rest = { layout with frozen := rest.frozen }
  frozen : layout.frozen = false ∧ rest.frozen = true ↔ ∃ page, error = .alreadyBound page

/-- What an installation leaves behind. The tables are bound from the root on, one page after the other, and
each page that they displace was taken back. -/
structure Equipped (session later : Session η κ) (layout rest : Layout) (root : Address) : Prop where
  elsewhere : later = (session.setSpace later.space).setCpu { session.cpu with cr3 := root }
  written : layout.image root = .ok ⟨root, layout.tree.image root⟩
  frozen : rest = layout.freeze
  places : (layout.tree.image root).map TablePage.address =
    (List.range layout.tableCount).map fun number => root + UInt64.ofNat (Address.pageSize * number)
  tables : ∀ table ∈ layout.tree.image root, later.space.page? table.address = some table.page
  others : ∀ gpa : Address, gpa.pageStart ∉ (layout.tree.image root).map TablePage.address →
    later.space.page? gpa = session.space.page? gpa
  policy : later.space.policy = session.space.policy
  allocated : later.space.allocated = session.space.allocated + layout.tableCount
  released : later.space.released = session.space.released + session.space.displaced (layout.tree.image root)
  rejects : session.space.policy = .reject → session.space.displaced (layout.tree.image root) = 0

theorem Equipped.live (equipped : session.Equipped later layout rest root)
    (covered : session.space.released ≤ session.space.allocated) :
    later.space.live =
      session.space.live + (layout.tableCount - session.space.displaced (layout.tree.image root)) := by
  have some : session.space.displaced (layout.tree.image root) ≤ layout.tableCount := by
    rw [Layout.tableCount, ← Tree.length_image root]
    exact List.countP_le_length
  simp only [Space.live, equipped.allocated, equipped.released]
  omega

theorem untouched_refused (session : Session η κ) (refused : layout.Refuses base error) :
    session.Untouched session layout layout base error where
  cause := .inl refused
  elsewhere := rfl
  policy := rfl
  bound := rfl
  live := rfl
  mappings := rfl
  frozen := by
    constructor
    · rintro ⟨melted, frozen⟩
      rw [melted] at frozen
      cases frozen
    · rintro ⟨page, rfl⟩
      cases refused

theorem untouched_taken {table : TablePage} (session : Session η κ) (count : Nat)
    (melted : layout.frozen = false) (member : table ∈ layout.tree.image base)
    (reject : session.space.policy = .reject) (bound : session.space.isBound table.address) :
    session.Untouched (session.setSpace ((session.space.allocate count).release count)) layout layout.freeze base
      (.alreadyBound table.address) where
  cause := .inr ⟨table, member, reject, bound, rfl⟩
  elsewhere := rfl
  policy := rfl
  bound := rfl
  live := Nat.add_sub_add_right ..
  mappings := rfl
  frozen := ⟨fun _ => ⟨_, rfl⟩, fun _ => ⟨melted, rfl⟩⟩

/-- An installation is decided by whether the layout can be written out, and then whether it can be bound. -/
theorem install_outcome (session : Session η κ) (layout : Layout) (base : Option Address) :
    match install base (session, layout) with
    | .error error (later, rest) => session.Untouched later layout rest (session.tableBase layout base) error
    | .ok root (later, rest) =>
      root = session.tableBase layout base ∧ session.Equipped later layout rest root := by
  generalize placed : session.tableBase layout base = place
  cases written : layout.image place with
  | error error =>
    have refused : install base (session, layout) = .error error (session, layout) := by
      simp only [install, placed, Space.commit, written]
      rfl
    rw [refused]
    exact session.untouched_refused (Layout.refuses_of_image written)
  | ok image =>
    obtain ⟨places, rfl⟩ := Layout.image_ok written
    have melted := Layout.not_frozen_of_image written
    have length : (layout.tree.image place).length = layout.tableCount := Tree.length_image ..
    have committed : session.space.commit layout place =
        .ok (⟨place, layout.tree.image place⟩, layout.freeze, session.space.allocate layout.tableCount) := by
      rw [Space.commit, written, ← length]
      rfl
    obtain ⟨table, member, reject, bound, -, refused⟩ | ⟨free, after, bound, policy, allocated, released⟩ :=
      Space.bindImage_cases ⟨place, layout.tree.image place⟩ places.aligned_image
        (Tree.sorted_addresses_image _ places.fits) (session.space.allocate layout.tableCount)
    · have taken : install base (session, layout) = .error (.alreadyBound table.address)
          (session.setSpace ((session.space.allocate layout.tableCount).release layout.tableCount),
            layout.freeze) := by
        simp only [length] at refused
        simp only [install, placed, committed, refused]
      rw [taken]
      exact session.untouched_taken _ melted member reject bound
    · have done : install base (session, layout) =
          .ok place ((session.setSpace after).setCpu { session.cpu with cr3 := place }, layout.freeze) := by
        simp only [install, placed, committed, bound]
      obtain ⟨-, -, -, held, others⟩ := Space.bound_image committed bound
      rw [done]
      exact ⟨rfl, {
        elsewhere := rfl
        written := written
        frozen := rfl
        places := Tree.addresses_image ..
        tables := held
        others := others
        policy := policy
        allocated := allocated
        released := released
        rejects := free }⟩

/-- Whatever becomes of an installation, the session differs at most in its space and its processor. -/
theorem after_install (session : Session η κ) (layout : Layout) (base : Option Address) :
    ∃ space cpu, (Access.after (install base) (session, layout)).1 = (session.setSpace space).setCpu cpu := by
  have outcome := install_outcome session layout base
  cases done : install base (session, layout) with
  | error error state =>
    rw [done] at outcome
    rw [Access.after_error done]
    exact ⟨state.1.space, session.cpu, outcome.elsewhere.trans rfl⟩
  | ok root state =>
    rw [done] at outcome
    rw [Access.after_ok done]
    exact ⟨_, _, outcome.2.elsewhere⟩

end Session

/-- An installation that fails leaves the session as it was, with the number of pages that are out, and the
mappings of the layout; the layout is frozen by it only where the table was written out and found a page
bound in its way. One that succeeds makes the table at the chosen place the current one and binds its pages
there; everything else stays, and the pages that are out grow by the tables less the pages they displace. -/
theorem install_all_or_nothing {η κ : Type} (session : Session η κ) (layout : Layout) (base : Option Address) :
    match Session.install base (session, layout) with
    | .error error (later, rest) =>
      session.Untouched later layout rest ((base.or session.config.tableBase).getD layout.freeBase) error
    | .ok root (later, rest) =>
      root = (base.or session.config.tableBase).getD layout.freeBase ∧
      session.Equipped later layout rest root ∧
      (session.space.released ≤ session.space.allocated → later.space.live =
        session.space.live + (layout.tableCount - session.space.displaced (layout.tree.image root))) := by
  have outcome := Session.install_outcome session layout base
  have place : session.tableBase layout base = (base.or session.config.tableBase).getD layout.freeBase := by
    cases base <;> rfl
  cases done : Session.install base (session, layout) with
  | error error state =>
    simp only [done, place] at outcome
    exact outcome
  | ok root state =>
    simp only [done, place] at outcome
    exact ⟨outcome.1, outcome.2, outcome.2.live⟩

end GuestResume
