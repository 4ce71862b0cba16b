import GuestResume.Proofs.LayoutMappings
import GuestResume.Memory.Table

/-! What a layout holds. Whatever calls were made on it, the layout is a map from pages to frames and
permissions: the last call for a page that was not refused tells what the page maps to. Lookups, the list
of mappings and the counter of mapped pages all show this one map. -/

namespace GuestResume

namespace Address

/-- The indices of a canonical address lead back to its page. -/
theorem ofIndices_indices {a : Address} (canonical : a.IsCanonical) : ofIndices a.indices = a.pageStart := by
  have inside : ∀ index ∈ a.indices, index < entriesPerTable := by
    intro index member
    obtain ⟨level, -, rfl⟩ := List.mem_map.mp member
    exact index_lt level a
  have number : pathNumber a.indices = a.block 0 := by
    rw [block_eq (by decide), block_eq (by decide), block_eq (by decide), block_eq (by decide), block_root]
    rfl
  have below : a.block 0 * blockSize 0 < 0x1000000000000 := by
    have low : a.toNat % 0x1000000000000 < 0x1000000000000 := Nat.mod_lt _ (by decide)
    exact Nat.lt_of_le_of_lt (Nat.div_mul_le_self _ _) low
  obtain ⟨start, inBlock⟩ := (mem_block (by decide) below a).mpr ⟨canonical, rfl⟩
  rw [ofIndices_path inside, number]
  apply UInt64.toNat_inj.mp
  rw [toNat_pageStart]
  rw [toNat_blockStart below] at start inBlock ⊢
  simp only [blockSize, pageSize, Nat.pow_zero, Nat.mul_one] at start inBlock ⊢
  by_cases low : a.block 0 * 4096 < 0x800000000000
  · rw [if_pos low] at start inBlock ⊢
    omega
  · rw [if_neg low] at start inBlock ⊢
    omega

end Address

/-- What callers do to a layout: they map pages, and they write it out. -/
inductive LayoutCall where
  | insert (insertion : Insertion)
  | writeOut (base : Address)

def LayoutCall.insertion? : LayoutCall → Option Insertion
  | insert insertion => some insertion
  | writeOut _ => none

namespace Layout

/-- The layout after a call that is not refused. -/
def answer (layout : Layout) : LayoutCall → Except MemoryError Layout
  | .insert insertion => layout.apply insertion
  | .writeOut base => (layout.image base).map fun _ => layout.freeze

/-- A refused call changes nothing. -/
def after (layout : Layout) (call : LayoutCall) : Layout :=
  match layout.answer call with
  | .ok changed => changed
  | .error _ => layout

def ofCalls (calls : List LayoutCall) : Layout :=
  calls.foldl after {}

/-- The insertion of a call, unless the call is refused. -/
def accepted? (layout : Layout) (call : LayoutCall) : Option Insertion :=
  match layout.answer call with
  | .ok _ => call.insertion?
  | .error _ => none

/-- The insertions that are not refused when calls are made one after another. -/
def accepted (layout : Layout) : List LayoutCall → List Insertion
  | [] => []
  | call :: rest => (layout.accepted? call).toList ++ (layout.after call).accepted rest

variable {layout changed : Layout} {mapping : Mapping}

theorem leaf?_pageStart (layout : Layout) (gva : Address) : layout.leaf? gva.pageStart = layout.leaf? gva :=
  Tree.find?_samePath (fun level _ => Address.index_of_page gva.pageStart_pageStart level) layout.tree

private theorem granted_of_insert {gva gpa : Address} {permission : Permission}
    (inserted : layout.insert gva gpa permission = .ok changed) :
    layout.frozen = false ∧ ∃ mapping, Mapping.of? gva gpa permission = some mapping ∧
      changed.size = if (layout.leaf? mapping.page).isSome then layout.size else layout.size + 1 := by
  simp only [Layout.insert] at inserted
  split at inserted
  · cases inserted
  next melted =>
    split at inserted
    · cases inserted
    next canonical =>
      split at inserted
      · cases inserted
      next below =>
        cases inserted
        refine ⟨Bool.eq_false_iff.mpr melted, ⟨gva.pageStart, gpa.pageStart, permission⟩, ?_, ?_⟩
        · exact if_pos ⟨Decidable.of_not_not canonical, Nat.lt_of_not_le below⟩
        · rw [leaf?_pageStart]

/-- An insertion that is not refused asks for a mapping of a layout that was not written out, and it counts
if its page was not mapped before. -/
theorem granted_of_apply {insertion : Insertion} (applied : layout.apply insertion = .ok changed) :
    layout.frozen = false ∧ ∃ mapping, insertion.mapping? = some mapping ∧
      changed.size = if (layout.leaf? mapping.page).isSome then layout.size else layout.size + 1 := by
  cases insertion with
  | plain gva gpa permission => exact granted_of_insert applied
  | tagged gva gpa tag =>
    simp only [Layout.apply, insertByTag] at applied
    rw [Insertion.mapping?]
    cases known : Permission.ofTag tag with
    | error error =>
      rw [known] at applied
      cases applied
    | ok permission =>
      rw [known] at applied
      exact granted_of_insert applied

private theorem accepts_plain (melted : layout.frozen = false) {gva gpa : Address} {permission : Permission}
    (asks : Mapping.of? gva gpa permission = some mapping) :
    ∃ changed, layout.insert gva gpa permission = .ok changed := by
  unfold Mapping.of? at asks
  split at asks
  next fits =>
    obtain ⟨changed, inserted, -⟩ := insert_fitting melted fits.1 fits.2 permission
    exact ⟨changed, inserted⟩
  next => cases asks

/-- An insertion is accepted exactly when it asks for a mapping of a layout that was not written out. -/
theorem apply_accepts_iff (layout : Layout) (insertion : Insertion) :
    (∃ changed, layout.apply insertion = .ok changed) ↔
      layout.frozen = false ∧ ∃ mapping, insertion.mapping? = some mapping := by
  constructor
  · rintro ⟨changed, applied⟩
    obtain ⟨melted, mapping, asks, -⟩ := granted_of_apply applied
    exact ⟨melted, mapping, asks⟩
  · rintro ⟨melted, mapping, asks⟩
    cases insertion with
    | plain gva gpa permission => exact accepts_plain melted asks
    | tagged gva gpa tag =>
      obtain ⟨permission, known, made⟩ := Option.bind_eq_some_iff.mp asks
      cases tagged : Permission.ofTag tag with
      | error error =>
        rw [tagged] at known
        cases known
      | ok granted =>
        rw [tagged] at known
        cases known
        obtain ⟨changed, inserted⟩ := accepts_plain melted made
        refine ⟨changed, ?_⟩
        rw [apply, insertByTag, tagged]
        exact inserted

/-- Writing a layout out freezes it, unless that is refused, and nothing else does. -/
theorem frozen_after (layout : Layout) (call : LayoutCall) :
    (layout.after call).frozen = true ↔
      layout.frozen = true ∨ ∃ base image, call = .writeOut base ∧ layout.image base = .ok image := by
  cases call with
  | insert insertion =>
    rw [after, answer]
    cases applied : layout.apply insertion with
    | error error => simp
    | ok changed =>
      obtain ⟨-, -, -, -, melted⟩ := apply_ok applied
      simp [melted, (granted_of_apply applied).1]
  | writeOut base =>
    rw [after, answer]
    cases written : layout.image base with
    | error error => simp [Except.map, written]
    | ok image => simp [Except.map, freeze, written]

theorem ofCalls_append (calls : List LayoutCall) (call : LayoutCall) :
    ofCalls (calls ++ [call]) = (ofCalls calls).after call :=
  List.foldl_append

/-- The calls that froze a layout are those that wrote it out. -/
theorem frozen_ofCalls (calls : List LayoutCall) :
    (ofCalls calls).frozen = true ↔
      ∃ earlier base image, earlier ++ [.writeOut base] <+: calls ∧ (ofCalls earlier).image base = .ok image := by
  induction calls using List.reverseRecOn with
  | nil => simp [ofCalls]
  | append_singleton calls call ih =>
    rw [ofCalls_append, frozen_after, ih]
    constructor
    · rintro (⟨earlier, base, image, before, written⟩ | ⟨base, image, rfl, written⟩)
      · exact ⟨earlier, base, image, before.trans (List.prefix_append calls [call]), written⟩
      · exact ⟨calls, base, image, List.prefix_rfl, written⟩
    · rintro ⟨earlier, base, image, before, written⟩
      obtain same | before := List.prefix_concat_iff.mp before
      · obtain ⟨rfl, last⟩ := List.append_inj' same rfl
        exact .inr ⟨base, image, (List.singleton_inj.mp last).symm, written⟩
      · exact .inl ⟨earlier, base, image, before, written⟩

theorem accepted_append (layout : Layout) (calls : List LayoutCall) (call : LayoutCall) :
    layout.accepted (calls ++ [call]) =
      layout.accepted calls ++ ((calls.foldl after layout).accepted? call).toList := by
  induction calls generalizing layout with
  | nil => exact List.append_nil _
  | cons first rest ih => rw [List.cons_append, accepted, ih, accepted, List.append_assoc, List.foldl_cons]

/-- The insertion that a sequence of calls ends with is accepted if it asks for a mapping before the layout was
written out. -/
theorem accepted_insert (calls : List LayoutCall) (insertion : Insertion) :
    accepted {} (calls ++ [.insert insertion]) =
      if (ofCalls calls).frozen = false ∧ insertion.mapping?.isSome then accepted {} calls ++ [insertion]
      else accepted {} calls := by
  have accepts := apply_accepts_iff (ofCalls calls) insertion
  rw [← Option.isSome_iff_exists] at accepts
  rw [accepted_append, ← ofCalls, accepted?, answer]
  cases applied : (ofCalls calls).apply insertion with
  | ok changed =>
    rw [if_pos (accepts.mp ⟨changed, applied⟩)]
    rfl
  | error error =>
    have refused : ¬∃ changed, (ofCalls calls).apply insertion = .ok changed := by simp [applied]
    rw [if_neg fun grants => refused (accepts.mpr grants)]
    exact List.append_nil _

private theorem eq_of_frozen {made : Layout} (same : layout = { made with frozen := layout.frozen })
    (frozen : made.frozen = layout.frozen) : layout = made := by
  rw [same, ← frozen]

/-- Calls that are refused and calls that write the layout out leave the mappings as they are. -/
theorem ofCalls_eq (calls : List LayoutCall) :
    ofCalls calls = { ofInsertions (accepted {} calls) with frozen := (ofCalls calls).frozen } := by
  induction calls using List.reverseRecOn with
  | nil => rfl
  | append_singleton calls call ih =>
    rw [ofCalls_append, accepted_append, ← ofCalls, after, accepted?]
    cases answered : (ofCalls calls).answer call with
    | error error =>
      rw [Option.toList_none, List.append_nil]
      exact ih
    | ok changed =>
      cases call with
      | insert insertion =>
        have melted := (granted_of_apply answered).1
        have same : ofCalls calls = ofInsertions (accepted {} calls) :=
          eq_of_frozen ih ((melted_ofInsertions _).trans melted.symm)
        have performed : (ofInsertions (accepted {} calls)).perform insertion = changed := by
          rw [perform, ← same, show (ofCalls calls).apply insertion = .ok changed from answered]
        rw [LayoutCall.insertion?, Option.toList_some, ofInsertions_append, performed]
      | writeOut base =>
        rw [answer] at answered
        cases written : (ofCalls calls).image base with
        | error error =>
          rw [written] at answered
          cases answered
        | ok image =>
          rw [written] at answered
          cases answered
          rw [LayoutCall.insertion?, Option.toList_none, List.append_nil]
          conv => lhs; rw [ih]
          rfl

/-- An accepted insertion asks for a mapping. -/
theorem mapping_accepted (layout : Layout) {calls : List LayoutCall} {insertion : Insertion}
    (member : insertion ∈ layout.accepted calls) : ∃ mapping, insertion.mapping? = some mapping := by
  induction calls generalizing layout with
  | nil => cases member
  | cons call rest ih =>
    obtain here | later := List.mem_append.mp member
    · rw [Option.mem_toList, accepted?] at here
      cases answered : layout.answer call with
      | error error =>
        rw [answered] at here
        cases here
      | ok changed =>
        rw [answered] at here
        cases call with
        | writeOut base => cases here
        | insert insertion =>
          cases here
          obtain ⟨-, mapping, asks, -⟩ := granted_of_apply answered
          exact ⟨mapping, asks⟩
    · exact ih _ later

/-- A page that is found is listed. -/
theorem mem_mappings_of_leaf? {gva : Address} (canonical : gva.IsCanonical) {leaf : Leaf}
    (found : layout.leaf? gva = some leaf) :
    ⟨gva.pageStart, leaf.frame, leaf.permission⟩ ∈ layout.mappings := by
  refine List.mem_map.mpr ⟨_, Tree.mem_leaves_of_find? found, ?_⟩
  rw [← Address.ofIndices_indices canonical]
  rfl

end Layout

namespace Insertion

theorem mapping?_page {insertion : Insertion} {mapping : Mapping} (asks : insertion.mapping? = some mapping) :
    mapping.page.IsCanonical ∧ mapping.page.IsAligned := by
  have ofPage : ∀ {gva gpa permission}, Mapping.of? gva gpa permission = some mapping →
      mapping.page.IsCanonical ∧ mapping.page.IsAligned := by
    intro gva gpa permission made
    unfold Mapping.of? at made
    split at made
    next fits =>
      cases made
      exact ⟨Address.isCanonical_of_page gva.pageStart_pageStart.symm fits.1, Address.isAligned_pageStart gva⟩
    next => cases made
  cases insertion with
  | plain gva gpa permission => exact ofPage asks
  | tagged gva gpa tag =>
    obtain ⟨permission, -, made⟩ := Option.bind_eq_some_iff.mp asks
    exact ofPage made

theorem last?_eq_some {insertions : List Insertion} {page : Address} {mapping : Mapping}
    (last : last? insertions page = some mapping) :
    mapping.page = page ∧ mapping.page.IsCanonical ∧ mapping.page.IsAligned := by
  obtain ⟨asked, page⟩ := List.mem_filter.mp (List.mem_of_getLast? last)
  obtain ⟨insertion, -, asks⟩ := List.mem_filterMap.mp asked
  exact ⟨of_decide_eq_true page, mapping?_page asks⟩

end Insertion

namespace Layout

variable {insertions : List Insertion} {mapping : Mapping}

/-- A layout lists what was asked for last, page by page. -/
theorem mem_mappings_ofInsertions :
    mapping ∈ (ofInsertions insertions).mappings ↔ Insertion.last? insertions mapping.page = some mapping := by
  refine ⟨last?_of_mem, fun last => ?_⟩
  obtain ⟨-, canonical, aligned⟩ := Insertion.last?_eq_some last
  have found := leaf?_ofInsertions insertions canonical
  rw [aligned.pageStart, last] at found
  have listed := mem_mappings_of_leaf? canonical found
  rwa [aligned.pageStart] at listed

def pages (layout : Layout) : List Address :=
  layout.mappings.map Mapping.page

theorem nodup_pages (insertions : List Insertion) : (ofInsertions insertions).pages.Nodup := by
  have sorted := (valid_ofInsertions insertions).sorted_mappings
  refine List.pairwise_map.mpr (sorted.imp fun {a b} before same => ?_)
  exact UInt64.lt_irrefl _ (same ▸ before)

theorem mem_pages {page : Address} :
    page ∈ (ofInsertions insertions).pages ↔ (Insertion.last? insertions page).isSome := by
  rw [pages, List.mem_map, Option.isSome_iff_exists]
  constructor
  · rintro ⟨mapping, listed, rfl⟩
    exact ⟨mapping, mem_mappings_ofInsertions.mp listed⟩
  · rintro ⟨mapping, last⟩
    obtain ⟨same, -⟩ := Insertion.last?_eq_some last
    subst same
    exact ⟨mapping, mem_mappings_ofInsertions.mpr last, rfl⟩

theorem mem_pages_iff_leaf? {page : Address} (canonical : page.IsCanonical) (aligned : page.IsAligned) :
    page ∈ (ofInsertions insertions).pages ↔ ((ofInsertions insertions).leaf? page).isSome := by
  rw [mem_pages, leaf?_ofInsertions insertions canonical, aligned.pageStart, Option.isSome_map]

/-- One more mapping makes one more page, unless its page was mapped before. -/
theorem length_pages_append (insertions : List Insertion) {insertion : Insertion}
    (asks : insertion.mapping? = some mapping) :
    (ofInsertions (insertions ++ [insertion])).pages.length =
      if mapping.page ∈ (ofInsertions insertions).pages then (ofInsertions insertions).pages.length
      else (ofInsertions insertions).pages.length + 1 := by
  have members : ∀ page, page ∈ (ofInsertions (insertions ++ [insertion])).pages ↔
      page = mapping.page ∨ page ∈ (ofInsertions insertions).pages := by
    intro page
    rw [mem_pages, mem_pages, Insertion.last?_accepted asks]
    split
    next same => simp [same]
    next other => simp [Ne.symm other]
  have distinct := nodup_pages insertions
  split
  next listed =>
    refine ((List.perm_ext_iff_of_nodup (nodup_pages _) distinct).mpr fun page => ?_).length_eq
    rw [members]
    exact ⟨fun either => either.elim (fun same => same ▸ listed) id, .inr⟩
  next fresh =>
    have all : (mapping.page :: (ofInsertions insertions).pages).Nodup := List.nodup_cons.mpr ⟨fresh, distinct⟩
    refine ((List.perm_ext_iff_of_nodup (nodup_pages _) all).mpr fun page => ?_).length_eq
    rw [members, List.mem_cons]

/-- The counter of mapped pages counts the listed ones. -/
theorem size_ofInsertions (insertions : List Insertion) :
    (ofInsertions insertions).size = (ofInsertions insertions).mappings.length := by
  rw [← List.length_map Mapping.page, ← pages]
  induction insertions using List.reverseRecOn with
  | nil => rfl
  | append_singleton earlier insertion ih =>
    cases applied : (ofInsertions earlier).apply insertion with
    | error error =>
      have kept : ofInsertions (earlier ++ [insertion]) = ofInsertions earlier := by
        rw [ofInsertions_append, perform, applied]
      rw [kept, ih]
    | ok changed =>
      have made : ofInsertions (earlier ++ [insertion]) = changed := by
        rw [ofInsertions_append, perform, applied]
      obtain ⟨-, mapping, asks, size⟩ := granted_of_apply applied
      obtain ⟨canonical, aligned⟩ := Insertion.mapping?_page asks
      have length := length_pages_append earlier asks
      rw [made] at length
      rw [made, size, length, ih]
      simp only [mem_pages_iff_leaf? canonical aligned]

/-- Where an address leads by the last mapping of its page. -/
theorem physical_ofInsertions (insertions : List Insertion) (gva : Address) :
    (ofInsertions insertions).physical gva =
      if gva.IsCanonical then
        match Insertion.last? insertions gva.pageStart with
        | some mapping => .ok (mapping.frame + UInt64.ofNat gva.offset)
        | none => .error (.unmapped gva)
      else .error (.nonCanonical gva) := by
  by_cases canonical : gva.IsCanonical
  · rw [physical, if_neg (not_not_intro canonical), if_pos canonical, leaf?_ofInsertions insertions canonical]
    cases Insertion.last? insertions gva.pageStart <;> rfl
  · rw [physical, if_pos canonical, if_neg canonical]

end Layout

/-- A layout is a map from pages in which the last insertion wins, whatever calls were made and whichever of
them were refused. An insertion with a canonical address, a frame below the limit and a known tag is accepted
until the layout was written out, and no other is. At a canonical address the layout finds the frame that was
last asked for, at the same distance from the start of the page. It lists one mapping for every page that was
inserted, the last one, in ascending order of the pages, and its size is the number of mappings listed. -/
theorem last_insertion_wins (calls : List LayoutCall) :
    let layout := Layout.ofCalls calls
    let accepted := Layout.accepted {} calls
    (∀ insertion ∈ accepted, ∃ mapping, insertion.mapping? = some mapping) ∧
    (∀ insertion, Layout.accepted {} (calls ++ [.insert insertion]) =
      if layout.frozen = false ∧ insertion.mapping?.isSome then accepted ++ [insertion] else accepted) ∧
    (layout.frozen = true ↔ ∃ earlier base image,
      earlier ++ [.writeOut base] <+: calls ∧ (Layout.ofCalls earlier).image base = .ok image) ∧
    (∀ gva, layout.physical gva =
      if gva.IsCanonical then
        match Insertion.last? accepted gva.pageStart with
        | some mapping => .ok (mapping.frame + UInt64.ofNat gva.offset)
        | none => .error (.unmapped gva)
      else .error (.nonCanonical gva)) ∧
    (∀ mapping, mapping ∈ layout.mappings ↔ Insertion.last? accepted mapping.page = some mapping) ∧
    layout.mappings.Pairwise (fun a b => a.page < b.page) ∧
    layout.size = layout.mappings.length ∧
    (layout.isEmpty ↔ layout.mappings = []) := by
  intro layout accepted
  have same : layout = { Layout.ofInsertions accepted with frozen := layout.frozen } := Layout.ofCalls_eq calls
  have size : layout.size = layout.mappings.length := by
    rw [same]
    exact Layout.size_ofInsertions accepted
  refine ⟨fun insertion member => Layout.mapping_accepted {} member, Layout.accepted_insert calls,
    Layout.frozen_ofCalls calls, ?_, ?_, ?_, size, ?_⟩
  · intro gva
    rw [same]
    exact Layout.physical_ofInsertions accepted gva
  · intro mapping
    rw [same]
    exact Layout.mem_mappings_ofInsertions
  · rw [same]
    exact (Layout.valid_ofInsertions accepted).sorted_mappings
  · rw [Layout.isEmpty, size, decide_eq_true_iff, List.length_eq_zero_iff]

end GuestResume
