import GuestResume.Proofs.LayoutContents
import GuestResume.Proofs.LayoutInstall

/-! Where tables go when no place is given for them. The page above the highest frame is always free, so a layout
can be written out there unless its tables run out of physical memory. A place that comes from the settings
is a page address, because the settings are refused otherwise, but a frame may lie there. -/

namespace GuestResume

private theorem max_cases (a b : Address) : a ≤ max a b ∧ b ≤ max a b ∧ (max a b = a ∨ max a b = b) := by
  have either : max a b = if a ≤ b then b else a := rfl
  rw [either]
  split
  next below => exact ⟨below, UInt64.le_refl b, .inr rfl⟩
  next above => exact ⟨UInt64.le_refl a, UInt64.le_of_lt (UInt64.not_le.mp above), .inl rfl⟩

namespace Layout

variable {layout : Layout} {base frame : Address}

/-- The lowest page address above all frames, which can be the limit of physical memory. -/
structure FirstAbove (layout : Layout) (base : Address) : Prop where
  aligned : base.IsAligned
  within : base.toNat ≤ Address.physicalLimit
  above : ∀ frame ∈ layout.frames, frame < base
  lowest : ∀ place : Address, place.IsAligned → (∀ frame ∈ layout.frames, frame < place) → base ≤ place

theorem Valid.of_mem_frames (valid : layout.Valid) (mapped : frame ∈ layout.frames) :
    frame.IsAligned ∧ frame.toNat < Address.physicalLimit := by
  obtain ⟨mapping, listed, rfl⟩ := List.mem_map.mp mapped
  obtain ⟨⟨path, leaf⟩, member, rfl⟩ := List.mem_map.mp listed
  have leafValid := Tree.Valid.leaf valid member
  exact ⟨leafValid.aligned, leafValid.below⟩

def pageAfter (frame : Address) : Address :=
  frame + UInt64.ofNat Address.pageSize

/-- The page after a frame is the lowest page above it, and lies at most at the limit. -/
theorem pageAfter_spec (aligned : frame.IsAligned) (below : frame.toNat < Address.physicalLimit) :
    (pageAfter frame).IsAligned ∧ (pageAfter frame).toNat ≤ Address.physicalLimit ∧ frame < pageAfter frame ∧
      ∀ place : Address, place.IsAligned → frame < place → pageAfter frame ≤ place := by
  rw [Address.isAligned_iff] at aligned
  simp only [Address.pageSize, Address.physicalLimit, Nat.reduceShiftLeft] at aligned below
  have next : (pageAfter frame).toNat = frame.toNat + 4096 := by
    simp only [pageAfter, Address.pageSize, UInt64.toNat_add, UInt64.toNat_ofNat']
    omega
  simp only [Address.isAligned_iff, UInt64.lt_iff_toNat_lt, UInt64.le_iff_toNat_le, next, Address.pageSize,
    Address.physicalLimit, Nat.reduceShiftLeft]
  refine ⟨by omega, by omega, by omega, fun place _ _ => by omega⟩

private theorem foldl_pageAfter (frames : List Address) (start : Address) :
    let top := frames.foldl (fun base frame => max base (pageAfter frame)) start
    start ≤ top ∧ (∀ frame ∈ frames, pageAfter frame ≤ top) ∧
      (top = start ∨ ∃ frame ∈ frames, top = pageAfter frame) := by
  induction frames generalizing start with
  | nil =>
    refine ⟨UInt64.le_refl start, ?_, .inl rfl⟩
    intro frame none
    cases none
  | cons first rest ih =>
    obtain ⟨begins, each, source⟩ := ih (max start (pageAfter first))
    obtain ⟨left, right, either⟩ := max_cases start (pageAfter first)
    refine ⟨UInt64.le_trans left begins, ?_, ?_⟩
    · intro frame member
      obtain rfl | later := List.mem_cons.mp member
      · exact UInt64.le_trans right begins
      · exact each frame later
    · obtain same | ⟨frame, later, same⟩ := source
      · obtain kept | raised := either
        · exact .inl (same.trans kept)
        · exact .inr ⟨first, List.mem_cons_self, same.trans raised⟩
      · exact .inr ⟨frame, List.mem_cons_of_mem first later, same⟩

theorem Valid.firstAbove_freeBase (valid : layout.Valid) : layout.FirstAbove layout.freeBase := by
  have each : ∀ frame ∈ layout.frames, pageAfter frame ≤ layout.freeBase :=
    (foldl_pageAfter layout.frames 0).2.1
  have above : ∀ frame ∈ layout.frames, frame < layout.freeBase := by
    intro frame mapped
    obtain ⟨aligned, below⟩ := valid.of_mem_frames mapped
    exact UInt64.lt_of_lt_of_le (pageAfter_spec aligned below).2.2.1 (each frame mapped)
  obtain none | ⟨frame, mapped, last⟩ : layout.freeBase = 0 ∨ ∃ frame ∈ layout.frames,
    layout.freeBase = pageAfter frame := (foldl_pageAfter layout.frames 0).2.2
  · refine ⟨none ▸ by decide, none ▸ by decide, above, fun place _ _ => ?_⟩
    rw [none, UInt64.le_iff_toNat_le]
    exact Nat.zero_le _
  · obtain ⟨aligned, below⟩ := valid.of_mem_frames mapped
    obtain ⟨pageAligned, within, -, lowest⟩ := pageAfter_spec aligned below
    exact ⟨last ▸ pageAligned, last ▸ within, above, fun place page clear =>
      last ▸ lowest place page (clear frame mapped)⟩

/-- Above all frames, only the limit of physical memory can be in the way of the tables. -/
theorem image_firstAbove (melted : layout.frozen = false) (first : layout.FirstAbove base) :
    layout.image base =
      if base.toNat + Address.pageSize * layout.tableCount ≤ Address.physicalLimit then
        .ok ⟨base, layout.tree.image base⟩
      else .error (.beyondLimit base) := by
  split
  next fits =>
    refine image_ok_iff.mpr ⟨melted, first.aligned, fits, ?_⟩
    rintro frame mapped ⟨reached, -⟩
    exact UInt64.not_lt.mpr reached (first.above frame mapped)
  next beyond =>
    rw [Layout.image, if_neg (Bool.eq_false_iff.mp melted), if_neg (not_not_intro first.aligned),
      if_pos (Nat.lt_of_not_le beyond)]

theorem FirstAbove.not_overlap (first : layout.FirstAbove base) (frame : Address) :
    ¬layout.Refuses base (.frameOverlap frame) := by
  rintro (_ | _ | _ | ⟨mapped, reached, -⟩)
  exact UInt64.not_lt.mpr reached (first.above frame mapped)

theorem valid_ofCalls (calls : List LayoutCall) : (ofCalls calls).Valid := by
  rw [ofCalls_eq]
  exact valid_ofInsertions (accepted {} calls)

end Layout

namespace Config

variable {lookup : String → Option String} {config : Config} {base : Address}

theorem aligned_tableBaseOf (found : tableBaseOf lookup = .ok (some base)) : base.IsAligned := by
  rw [tableBaseOf] at found
  split at found
  next place read =>
    split at found
    next aligned =>
      cases found
      exact aligned
    next => cases found
  next other => exact absurd found (other base)

/-- Settings put tables at pages only. -/
theorem aligned_tableBase (configured : ofLookup lookup = .ok config) (placed : config.tableBase = some base) :
    base.IsAligned := by
  simp only [ofLookup, bind, Except.bind] at configured
  split at configured
  · cases configured
  split at configured
  · cases configured
  next place found =>
    split at configured
    · cases configured
    split at configured
    · cases configured
    cases configured
    exact aligned_tableBaseOf (found.trans (congrArg _ placed))

end Config

namespace Session

variable {η κ : Type} {session : Session η κ} {layout : Layout}

/-- An installation is refused for its place only if the layout is refused there. -/
theorem refuses_of_install {base : Option Address} {error : MemoryError} {state : Session η κ × Layout}
    (failed : install base (session, layout) = .error error state) (free : ∀ page, error ≠ .alreadyBound page) :
    layout.Refuses (session.tableBase layout base) error := by
  have outcome := install_outcome session layout base
  rw [failed] at outcome
  obtain refused | ⟨table, -, -, -, taken⟩ := outcome.cause
  · exact refused
  · exact absurd taken (free table.address)

end Session

/-- The place above the highest frame is a page address, at most the limit of physical memory, and the lowest one
above all frames. A layout that was not written out can be written out there exactly if its tables end below the
limit, and is refused for reaching beyond it otherwise. So an installation for which no place is given is not
refused for a place that is no page address, whatever the settings were read from, and if the settings have no
place either, it is not refused for a frame that lies there. -/
theorem free_base_admissible {lookup : String → Option String} {config : Config}
    (configured : Config.ofLookup lookup = .ok config) {η κ : Type} (session : Session η κ)
    (settings : session.config = config) (calls : List LayoutCall) (space : Space) :
    let layout := Layout.ofCalls calls
    let base := layout.freeBase
    layout.FirstAbove base ∧
    (layout.frozen = false →
      if base.toNat + Address.pageSize * layout.tableCount ≤ Address.physicalLimit then
        ∃ image rest later, space.commit layout base = .ok (image, rest, later)
      else space.commit layout base = .error (.beyondLimit base)) ∧
    ∀ error state, Session.install none (session, layout) = .error error state →
      (∀ place, error ≠ .unaligned place) ∧
      (config.tableBase = none → ∀ frame, error ≠ .frameOverlap frame) := by
  intro layout base
  have first : layout.FirstAbove base := (Layout.valid_ofCalls calls).firstAbove_freeBase
  refine ⟨first, ?_, ?_⟩
  · intro melted
    have written := Layout.image_firstAbove melted first
    split at written
    next fits =>
      rw [if_pos fits]
      exact ⟨_, _, _, by rw [Space.commit, written]; rfl⟩
    next beyond =>
      rw [if_neg beyond, Space.commit, written]
      rfl
  · intro error state failed
    constructor
    · rintro place rfl
      have page : (session.tableBase layout none).IsAligned := by
        rw [Session.tableBase, settings]
        cases placed : config.tableBase with
        | none => exact first.aligned
        | some found => exact Config.aligned_tableBase configured placed
      cases Session.refuses_of_install failed (by simp) with
      | unaligned unaligned => exact unaligned page
    · rintro unset frame rfl
      have refused := Session.refuses_of_install failed (by simp)
      rw [Session.tableBase, settings, unset] at refused
      exact first.not_overlap frame refused

/-- Variables that put tables at one mebibyte. -/
def Config.atMebibyte (name : String) : Option String :=
  if name = Setting.tableBase.name then some "0x10_0000" else none

/-- Calls that map a page to a frame close to that place, and a page to the last frame of physical memory. -/
def LayoutCall.lastFrame : List LayoutCall :=
  [.insert (.plain 0x1000 0x102000 .code), .insert (.plain 0x2000 0xFFFFFFFFFF000 .data)]

/-- No tables fit above the last frame, and at the configured place a frame is in their way. -/
theorem free_base_admissible_lastFrame :
    let layout := Layout.ofCalls LayoutCall.lastFrame
    let session : Session IdleResolver Empty := Session.new { tableBase := some 0x100000 } {}
    layout.FirstAbove 0x10000000000000 ∧
    ({} : Space).commit layout 0x10000000000000 = .error (.beyondLimit 0x10000000000000) ∧
    Config.ofLookup Config.atMebibyte = .ok session.config ∧
    Session.install none (session, layout) = .error (.frameOverlap 0x102000) (session, layout) ∧
    ∀ place, MemoryError.frameOverlap 0x102000 ≠ .unaligned place := by
  intro layout session
  have configured : Config.ofLookup Config.atMebibyte = .ok session.config := by decide +kernel
  obtain ⟨first, commits, installs⟩ := free_base_admissible configured session rfl LayoutCall.lastFrame {}
  have base : layout.freeBase = 0x10000000000000 := by decide +kernel
  have melted : layout.frozen = false := by decide +kernel
  have beyond : ¬layout.freeBase.toNat + Address.pageSize * layout.tableCount ≤ Address.physicalLimit := by
    decide +kernel
  have refused := commits melted
  rw [if_neg beyond] at refused
  have written : layout.image 0x100000 = .error (.frameOverlap 0x102000) := by decide +kernel
  have failed : Session.install none (session, layout) = .error (.frameOverlap 0x102000) (session, layout) := by
    have place : session.tableBase layout none = 0x100000 := rfl
    simp only [Session.install, place, Space.commit, written]
    rfl
  exact ⟨base ▸ first, base ▸ refused, configured, failed, (installs _ _ failed).1⟩

end GuestResume
