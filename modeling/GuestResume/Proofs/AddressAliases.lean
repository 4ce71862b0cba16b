import GuestResume.Proofs.LayoutContents

/-! Addresses that select the same table entries. Bits above the forty-eighth select nothing, so every address
is an alias of one canonical address. The permission of a page is looked up by the selected entries alone,
while the translation insists on the canonical address: the two agree on what is mapped at canonical addresses
and differ at the aliases of mapped pages. -/

namespace GuestResume

namespace Address

theorem isCanonical_signExtend (a : Address) : (signExtend a).IsCanonical := by
  rw [isCanonical_iff, toNat_signExtend]
  split <;> omega

theorem signExtend_eq_self_iff (a : Address) : signExtend a = a ↔ a.IsCanonical := by
  have bound := a.toNat_lt
  rw [← UInt64.toNat_inj, toNat_signExtend, isCanonical_iff]
  split <;> omega

theorem toNat_signExtend_mod (a : Address) :
    (signExtend a).toNat % 0x1000000000000 = a.toNat % 0x1000000000000 := by
  rw [toNat_signExtend]
  split <;> omega

/-- An address selects what its canonical form selects. -/
theorem index_signExtend {level : Nat} (inside : level ≤ 3) (a : Address) :
    (signExtend a).index level = a.index level := by
  have same : (signExtend a).block level = a.block level := by
    rw [block, block, toNat_signExtend_mod]
  rw [← block_mod inside, ← block_mod inside, same]

end Address

namespace Layout

theorem leaf?_signExtend (layout : Layout) (gva : Address) :
    layout.leaf? gva.signExtend = layout.leaf? gva :=
  Tree.find?_samePath (fun _ below => Address.index_signExtend (Nat.le_of_lt_succ below) gva) layout.tree

theorem isOk_physical (layout : Layout) (gva : Address) :
    (layout.physical gva).isOk ↔ gva.IsCanonical ∧ (layout.leaf? gva).isSome := by
  by_cases canonical : gva.IsCanonical
  · have same : (layout.physical gva).isOk = (layout.leaf? gva).isSome := by
      rw [physical, if_neg (not_not_intro canonical)]
      cases layout.leaf? gva <;> rfl
    rw [same]
    exact ⟨fun found => ⟨canonical, found⟩, And.right⟩
  · have refused : (layout.physical gva).isOk = false := by
      rw [physical, if_pos canonical]
      rfl
    rw [refused]
    exact ⟨fun translated => absurd translated Bool.false_ne_true, fun mapped => absurd mapped.1 canonical⟩

end Layout

/-- The permission at an address is the one that was last asked for at its canonical form, and there is one
exactly if the canonical form is translated. An address itself is translated exactly if it has a permission and
is canonical, that is, its own canonical form. -/
theorem permission_of_canonical_form (calls : List LayoutCall) (gva : Address) :
    let layout := Layout.ofCalls calls
    let last := Insertion.last? (Layout.accepted {} calls) gva.signExtend.pageStart
    layout.permission? gva = last.map Mapping.permission ∧
    ((layout.permission? gva).isSome ↔ (layout.physical gva.signExtend).isOk) ∧
    ((layout.physical gva).isOk ↔ gva.IsCanonical ∧ (layout.permission? gva).isSome) ∧
    gva.signExtend.IsCanonical ∧ (gva.signExtend = gva ↔ gva.IsCanonical) := by
  intro layout last
  have canonical := Address.isCanonical_signExtend gva
  have found : layout.permission? gva = (layout.leaf? gva).map Leaf.permission := rfl
  refine ⟨?_, ?_, ?_, canonical, Address.signExtend_eq_self_iff gva⟩
  · have held : layout.leaf? gva.signExtend = last.map fun mapping => ⟨mapping.frame, mapping.permission⟩ := by
      rw [show layout = _ from Layout.ofCalls_eq calls]
      exact Layout.leaf?_ofInsertions _ canonical
    rw [found, ← Layout.leaf?_signExtend, held, Option.map_map]
    rfl
  · rw [found, Option.isSome_map, Layout.isOk_physical, Layout.leaf?_signExtend]
    exact ⟨fun mapped => ⟨canonical, mapped⟩, And.right⟩
  · rw [found, Option.isSome_map, Layout.isOk_physical]

/-- A mapped page has a permission at an address that is not translated. -/
theorem permission_of_noncanonical_alias :
    let layout := Layout.ofCalls [.insert (.plain 0x1000 0x5000 .data)]
    layout.permission? 0x1000000001000 = some .data ∧
      layout.physical 0x1000000001000 = .error (.nonCanonical 0x1000000001000) := by
  decide +kernel

end GuestResume
