import GuestResume.Memory.Desk
import GuestResume.Proofs.PageAccounts

/-! The accounts of memory together with its caller. Between operations the caller holds pages and table
images by their numbers; during an operation pages may be in neither place, and every step says how
many those are. No operation ends, well or badly, with a page left over. -/

namespace GuestResume

namespace Holdings

theorem inUse_push {α : Type} (numbered : Array (Option α)) (item : α) :
    inUse (numbered.push (some item)) = inUse numbered ++ [item] := by
  simp [inUse]

private theorem filterMap_set {α : Type} {numbered : List (Option α)} {position : Nat} {old : α}
    (put : Option α) (found : numbered[position]? = some (some old)) :
    (put.toList ++ numbered.filterMap id).Perm (old :: (numbered.set position put).filterMap id) := by
  induction numbered generalizing position with
  | nil => cases found
  | cons head rest ih =>
    cases position with
    | zero =>
      cases found
      cases put with
      | none => exact List.Perm.refl _
      | some item => exact List.Perm.swap old item _
    | succ position =>
      have later := ih found
      cases head with
      | none => exact later
      | some item =>
        refine (List.perm_middle.trans (later.cons item)).trans ?_
        exact List.Perm.swap old item _

theorem inUse_setIfInBounds {α : Type} {numbered : Array (Option α)} {position : Nat} {old : α}
    (put : Option α) (found : numbered[position]?.join = some old) :
    (put.toList ++ inUse numbered).Perm (old :: inUse (numbered.setIfInBounds position put)) := by
  rw [inUse, inUse, Array.toList_setIfInBounds]
  exact filterMap_set put (by rwa [Array.getElem?_toList, ← Option.join_eq_some_iff])

variable {holdings : Holdings} {slot number : Nat} {page : Page} {image : TableImage}

def page? (holdings : Holdings) (slot : Nat) : Option Page :=
  holdings.slots[slot]?.join

def image? (holdings : Holdings) (number : Nat) : Option TableImage :=
  holdings.images[number]?.join

theorem pageCount_keepPage (holdings : Holdings) (page : Page) :
    ({ holdings with slots := holdings.slots.push (some page) } : Holdings).pageCount =
      holdings.pageCount + 1 := by
  simp only [pageCount, inUse_push, List.length_append, List.length_singleton]
  omega

theorem pageCount_keepImage (holdings : Holdings) (image : TableImage) :
    ({ holdings with images := holdings.images.push (some image) } : Holdings).pageCount =
      holdings.pageCount + image.pages.length := by
  simp only [pageCount, inUse_push, List.flatMap_append, List.flatMap_singleton, List.length_append]
  omega

theorem pageCount_putPage (found : holdings.page? slot = some page) (put : Option Page) :
    ({ holdings with slots := holdings.slots.setIfInBounds slot put } : Holdings).pageCount + 1 =
      holdings.pageCount + put.toList.length := by
  have sizes := (inUse_setIfInBounds put found).length_eq
  simp only [List.length_append, List.length_cons] at sizes
  simp only [pageCount]
  omega

theorem pageCount_takeImage (found : holdings.image? number = some image) :
    ({ holdings with images := holdings.images.setIfInBounds number none } : Holdings).pageCount +
      image.pages.length = holdings.pageCount := by
  have sizes := ((inUse_setIfInBounds none found).flatMap_right TableImage.pages).length_eq
  simp only [Option.toList_none, List.nil_append, List.flatMap_cons, List.length_append] at sizes
  simp only [pageCount]
  omega

end Holdings

namespace MemoryDesk

variable {S α : Type}

/-- The accounts of memory and its caller, with pages that are on their way between the two. -/
def Balanced (desk : MemoryDesk S) (moving : Nat) : Prop :=
  desk.memory.space.Balanced (desk.holdings.pageCount + moving)

theorem held_eq (desk : MemoryDesk S) : held desk = .ok desk.holdings desk := rfl

theorem heldPage_eq (slot : Nat) (desk : MemoryDesk S) :
    heldPage slot desk = match desk.holdings.page? slot with
      | some page => .ok page desk
      | none => .error .notHeld desk := by
  rw [heldPage, Access.bind_ok (held_eq desk), Holdings.page?]
  rcases desk.holdings.slots[slot]? with _ | _ | page <;> rfl

theorem takePage_eq (slot : Nat) (desk : MemoryDesk S) :
    takePage slot desk = match desk.holdings.page? slot with
      | some page => .ok page
          { desk with holdings :=
              { desk.holdings with slots := desk.holdings.slots.setIfInBounds slot none } }
      | none => .error .notHeld desk := by
  have found := heldPage_eq slot desk
  cases held : desk.holdings.page? slot with
  | some page =>
    rw [held] at found
    exact Access.bind_ok found
  | none =>
    rw [held] at found
    exact Access.bind_error found

theorem takeImage_eq (number : Nat) (desk : MemoryDesk S) :
    takeImage number desk = match desk.holdings.image? number with
      | some image => .ok image
          { desk with holdings :=
              { desk.holdings with images := desk.holdings.images.setIfInBounds number none } }
      | none => .error .notHeld desk := by
  rw [takeImage, Access.bind_ok (held_eq desk), Holdings.image?]
  rcases desk.holdings.images[number]? with _ | _ | image <;> rfl

theorem accounts_onMemory {operation : Access (Paged (Pager S)) α} {given : Nat} {back : α → Nat}
    (accounts : Access.Accounts Paged.Balanced given operation back) :
    Access.Accounts Balanced given (onMemory operation) back := by
  constructor
  intro others desk balanced
  rw [Balanced, ← Nat.add_assoc] at balanced
  have moved := accounts.settles (desk.holdings.pageCount + others) desk.memory balanced
  rw [onMemory]
  cases done : operation desk.memory with
  | ok value memory =>
    rw [done] at moved
    simp only [Balanced, ← Nat.add_assoc]
    exact moved
  | error error memory =>
    rw [done] at moved
    exact moved

theorem accounts_onSpace {operation : Access Space α} {given : Nat} {back : α → Nat}
    (accounts : Access.Accounts Space.Balanced given operation back) :
    Access.Accounts (Balanced (S := S)) given (onSpace operation) back :=
  accounts_onMemory (Paged.accounts_onSpace accounts)

theorem accounts_kept {operation : Access Space α}
    (keeps : ∀ held, (Comparison.keeping fun space : Space => space.Balanced held).Simulates
      operation operation) :
    Access.Accounts (Balanced (S := S)) 0 (onSpace operation) fun _ => 0 :=
  accounts_onSpace (Access.accounts_of_keeping keeps)

theorem accounts_ofExcept (answer : Except MemoryError α) :
    Access.Accounts (Balanced (S := S)) 0 (ofExcept answer) fun _ => 0 := by
  cases answer with
  | ok value => exact Access.Accounts.pure value fun _ => 0
  | error error => exact Access.Accounts.throw (DeskError.memory error) fun _ => 0

theorem accounts_setLayout (number : Nat) (layout : Layout) :
    Access.Accounts (Balanced (S := S)) 0 (setLayout number layout) fun _ => 0 :=
  ⟨fun _ _ balanced => balanced⟩

theorem accounts_layout (number : Nat) :
    Access.Accounts (Balanced (S := S)) 0 (layout number) fun _ => 0 :=
  ⟨fun _ _ balanced => balanced⟩

theorem accounts_keepPage (page : Page) :
    Access.Accounts (Balanced (S := S)) 1 (keepPage page) fun _ => 0 := by
  constructor
  intro others desk balanced
  change desk.memory.space.Balanced _
  rw [Holdings.pageCount_keepPage, Nat.add_zero, Nat.add_assoc, Nat.add_comm 1]
  exact balanced

theorem accounts_keepImage (image : TableImage) :
    Access.Accounts (Balanced (S := S)) image.pages.length (keepImage image) fun _ => 0 := by
  constructor
  intro others desk balanced
  change desk.memory.space.Balanced _
  rw [Holdings.pageCount_keepImage, Nat.add_zero, Nat.add_assoc, Nat.add_comm image.pages.length]
  exact balanced

theorem accounts_heldPage (slot : Nat) :
    Access.Accounts (Balanced (S := S)) 0 (heldPage slot) fun _ => 0 := by
  constructor
  intro others desk balanced
  rw [heldPage_eq]
  cases desk.holdings.page? slot <;> exact balanced

theorem accounts_takePage (slot : Nat) :
    Access.Accounts (Balanced (S := S)) 0 (takePage slot) fun _ => 1 := by
  constructor
  intro others desk balanced
  rw [takePage_eq]
  cases held : desk.holdings.page? slot with
  | none => exact balanced
  | some page =>
    have count := Holdings.pageCount_putPage held none
    change desk.memory.space.Balanced _
    rw [Nat.add_comm others, ← Nat.add_assoc, count]
    exact balanced

theorem accounts_takeImage (number : Nat) :
    Access.Accounts (Balanced (S := S)) 0 (takeImage number) fun image => image.pages.length := by
  constructor
  intro others desk balanced
  rw [takeImage_eq]
  cases held : desk.holdings.image? number with
  | none => exact balanced
  | some image =>
    have count := Holdings.pageCount_takeImage held
    change desk.memory.space.Balanced _
    rw [Nat.add_comm others, ← Nat.add_assoc, count]
    exact balanced

/-- Pages are taken one by one. Only a page that is not held stops this, with the others in hand. -/
theorem balanced_takePages (rows : List (Address × Nat)) {desk : MemoryDesk S} {others : Nat}
    (balanced : desk.Balanced others) :
    match takePages rows desk with
    | .ok pages later => later.Balanced (others + pages.length)
    | .error error _ => error = .notHeld := by
  induction rows generalizing desk others with
  | nil => exact balanced
  | cons row rest ih =>
    obtain ⟨address, slot⟩ := row
    have moved := (accounts_takePage slot).settles others desk balanced
    have taken := takePage_eq slot desk
    rw [takePages]
    cases held : desk.holdings.page? slot with
    | none =>
      rw [held] at taken
      rw [Access.bind_error taken]
    | some page =>
      rw [held] at taken
      rw [taken] at moved
      rw [Access.bind_ok taken]
      have further := ih moved
      cases done : takePages rest { desk with holdings :=
          { desk.holdings with slots := desk.holdings.slots.setIfInBounds slot none } } with
      | error error later =>
        rw [done] at further
        rw [Access.bind_error done]
        exact further
      | ok pages later =>
        rw [done] at further
        rw [Access.bind_ok done]
        change later.Balanced (others + (pages.length + 1))
        rwa [Nat.add_comm pages.length, ← Nat.add_assoc]

theorem accounts_attempt_takePages (rows : List (Address × Nat)) :
    Access.Accounts (Balanced (S := S)) 0 (attempt (takePages rows)) List.length := by
  constructor
  intro others desk balanced
  have taken := balanced_takePages rows balanced
  rw [attempt]
  cases done : takePages rows desk with
  | ok pages later =>
    rw [done] at taken
    exact taken
  | error error later =>
    rw [done] at taken
    subst taken
    exact balanced

/-- A page that finds its slot leaves the pages behind it on their way. -/
theorem accounts_keepPages (tables : List TablePage) :
    Access.Accounts (Balanced (S := S)) tables.length (keepPages tables) fun _ => 0 := by
  induction tables with
  | nil => exact Access.Accounts.pure [] fun _ => 0
  | cons table rest ih =>
    constructor
    intro others desk balanced
    rw [List.length_cons, ← Nat.add_assoc] at balanced
    have kept : keepPage table.page desk = .ok desk.holdings.slots.size
        { desk with holdings := { desk.holdings with slots := desk.holdings.slots.push (some table.page) } } := rfl
    have moved := (accounts_keepPage table.page).settles (others + rest.length) desk balanced
    rw [kept] at moved
    rw [keepPages, Access.bind_ok kept]
    exact (ih.bind fun _ => Access.Accounts.pure _ fun _ => 0).settles others _ moved

theorem accounts_allocate : Access.Accounts (Balanced (S := S)) 0 allocate fun _ => 1 := by
  have given : Access.Accounts (Balanced (S := S)) 0 (onSpace (modify Space.allocate)) fun _ => 1 :=
    accounts_onSpace ⟨fun _ _ balanced => balanced.allocate 1⟩
  exact given.bind fun _ => Access.Accounts.pure _ fun _ => 1

theorem accounts_release : Access.Accounts (Balanced (S := S)) 1 release fun _ => 0 :=
  accounts_onSpace ⟨fun _ _ balanced => balanced.release⟩

theorem accounts_reply (reply : MemoryReply) :
    Access.Accounts (Balanced (S := S)) 0 (pure reply : Run S MemoryReply) fun _ => 0 :=
  ⟨fun _ _ balanced => balanced⟩

theorem accounts_insertAll (number : Nat) (rows : List (Address × Address × UInt32)) :
    Access.Accounts (Balanced (S := S)) 0 (insertAll number rows) fun _ => 0 := by
  induction rows with
  | nil => exact Access.Accounts.pure () fun _ => 0
  | cons row rest ih =>
    exact (accounts_layout number).bind fun layout => (accounts_ofExcept _).bind fun changed =>
      (accounts_setLayout number changed).bind fun _ => ih

theorem accounts_runLayout (number : Nat) (command : LayoutCommand) :
    Access.Accounts (Balanced (S := S)) 0 (runLayout number command) fun _ => 0 := by
  cases command with
  | insert gva gpa permission =>
    exact (accounts_layout number).bind fun layout => (accounts_ofExcept _).bind fun changed =>
      (accounts_setLayout number changed).bind fun _ => accounts_reply _
  | insertByTag gva gpa tag => exact (accounts_insertAll number _).bind fun _ => accounts_reply _
  | insertAll rows => exact (accounts_insertAll number rows).bind fun _ => accounts_reply _
  | physical gva =>
    exact (accounts_layout number).bind fun layout => (accounts_ofExcept _).bind fun _ => accounts_reply _
  | permission gva => exact (accounts_layout number).bind fun _ => accounts_reply _
  | mappings => exact (accounts_layout number).bind fun _ => accounts_reply _
  | summary => exact (accounts_layout number).bind fun _ => accounts_reply _

theorem accounts_discard {operation : Run S α} {given back : Nat}
    (accounts : Access.Accounts Balanced given operation fun _ => back) :
    Access.Accounts Balanced given (discard operation) fun _ => back := by
  have forgotten : (discard operation : Run S PUnit) = operation >>= fun _ => pure ⟨⟩ := by
    rw [bind_pure_comp]
    rfl
  rw [forgotten]
  exact accounts.bind fun _ => Access.Accounts.pure _ fun _ => back

theorem accounts_writeSlot (slot offset : Nat) (data : List UInt8) :
    Access.Accounts (Balanced (S := S)) 0 (runSpace (.writeSlot slot offset data)) fun _ => 0 := by
  constructor
  intro others desk balanced
  have found := heldPage_eq slot desk
  rw [runSpace]
  cases held : desk.holdings.page? slot with
  | none =>
    rw [held] at found
    rw [Access.bind_error found]
    exact balanced
  | some page =>
    rw [held] at found
    rw [Access.bind_ok found]
    have count := Holdings.pageCount_putPage held (some (page.write offset data))
    change desk.memory.space.Balanced (_ + others)
    rw [Nat.add_right_cancel count]
    exact balanced

theorem accounts_clear : Access.Accounts (Balanced (S := S)) 0 (runSpace .clear) fun _ => 0 :=
  ⟨fun _ _ balanced => balanced.clear⟩

theorem accounts_commit (number : Nat) (base : Option Address) :
    Access.Accounts (Balanced (S := S)) 0 (runSpace (.commit number base)) fun _ => 0 := by
  constructor
  intro others desk balanced
  cases committed : desk.memory.space.commit (desk.holdings.layout number)
      (base.getD (desk.holdings.layout number).freeBase) with
  | error error =>
    have refused : runSpace (.commit number base) desk = .error (.memory error) desk := by
      change ((ofExcept (desk.memory.space.commit _ _) >>= _ : Run S MemoryReply) desk) = _
      rw [committed]
      rfl
    rw [refused]
    exact balanced
  | ok result =>
    obtain ⟨image, frozen, space⟩ := result
    obtain ⟨-, -, rfl⟩ := Space.commit_ok committed
    let taken : MemoryDesk S :=
      { memory := { desk.memory with space := desk.memory.space.allocate image.pages.length },
        holdings := desk.holdings.setLayout number frozen }
    have written : runSpace (.commit number base) desk =
        (keepImage image >>= fun number => pure (.committed number image)) taken := by
      change ((ofExcept (desk.memory.space.commit _ _) >>= _ : Run S MemoryReply) desk) = _
      rw [committed]
      rfl
    have allocated : taken.Balanced (others + image.pages.length) := by
      rw [Balanced, ← Nat.add_assoc]
      exact balanced.allocate image.pages.length
    rw [written]
    exact ((accounts_keepImage image).bind fun number =>
      accounts_reply (.committed number image)).settles others taken allocated

theorem accounts_runSpace (command : SpaceCommand) :
    Access.Accounts (Balanced (S := S)) 0 (runSpace command) fun _ => 0 := by
  cases command with
  | allocate =>
    exact accounts_allocate.bind fun page => (accounts_keepPage page).bind fun _ => accounts_reply _
  | writeSlot slot offset data => exact accounts_writeSlot slot offset data
  | readSlot slot => exact (accounts_heldPage slot).bind fun _ => accounts_reply _
  | insert gpa slot =>
    refine (accounts_takePage slot).bind fun page =>
      (accounts_onSpace (Space.accounts_insert gpa page)).bind fun old => ?_
    cases old with
    | some old => exact (accounts_keepPage old).bind fun _ => accounts_reply _
    | none => exact accounts_reply _
  | bindNew gpa data =>
    refine accounts_allocate.bind fun page =>
      (accounts_onSpace (Space.accounts_insert gpa (page.write 0 data))).bind fun old => ?_
    cases old with
    | some old => exact accounts_release.bind fun _ => accounts_reply _
    | none => exact accounts_reply _
  | remove gpa =>
    exact (accounts_onSpace (Space.accounts_remove gpa)).bind fun page =>
      (accounts_keepPage page).bind fun _ => accounts_reply _
  | release slot =>
    exact (accounts_discard (accounts_takePage slot)).bind fun _ =>
      accounts_release.bind fun _ => accounts_reply _
  | clear => exact accounts_clear
  | isBound gpa => exact ⟨fun _ _ balanced => balanced⟩
  | isEmpty => exact ⟨fun _ _ balanced => balanced⟩
  | policy => exact ⟨fun _ _ balanced => balanced⟩
  | bindings => exact ⟨fun _ _ balanced => balanced⟩
  | access command => exact accounts_kept fun held => (Space.balanced_bus held).run command
  | readWord gpa =>
    exact (accounts_kept fun held => (Space.balanced_bus held).readWord gpa).bind fun _ => accounts_reply _
  | writeWord gpa word =>
    exact (accounts_kept fun held => (Space.balanced_bus held).write gpa _).bind fun _ => accounts_reply _
  | records cr3 =>
    exact (accounts_kept fun held => (Space.balanced_bus held).records cr3).bind fun _ => accounts_reply _
  | commit number base => exact accounts_commit number base
  | assemble root pages =>
    exact (accounts_attempt_takePages pages).bind fun pages =>
      (accounts_keepImage ⟨root, pages⟩).bind fun _ => accounts_reply _
  | dismantle number =>
    exact (accounts_takeImage number).bind fun image =>
      (accounts_keepPages image.pages).bind fun _ => accounts_reply _
  | bindImage number =>
    exact (accounts_takeImage number).bind fun image =>
      (accounts_onSpace (Space.accounts_bindImage image)).bind fun _ => accounts_reply _

theorem accounts_onIdle {operation : Access (Paged IdleResolver) α}
    (keeps : ∀ held, (Comparison.keeping fun memory : Paged IdleResolver => memory.space.Balanced held).Simulates
      operation operation) : Access.Accounts (Balanced (S := S)) 0 (onIdle operation) fun _ => 0 := by
  refine accounts_onSpace ⟨fun others space balanced => ?_⟩
  have later := Comparison.simulates_keeping.mp (keeps others) ⟨{}, space⟩ balanced
  cases done : operation ⟨{}, space⟩ with
  | ok value memory => rwa [Access.after_ok done] at later
  | error error memory => rwa [Access.after_error done] at later

variable [PageSource S]

/-- Every operation of the caller leaves the accounts as they were. -/
theorem accounts_run (command : MemoryCommand) :
    Access.Accounts (Balanced (S := S)) 0 (run command) fun _ => 0 := by
  cases command with
  | layout number command => exact accounts_runLayout number command
  | space command => exact accounts_runSpace command
  | view command =>
    exact accounts_onMemory (Access.accounts_of_keeping fun held => Paged.balanced_run held command)
  | idleView command => exact accounts_onIdle fun held => Paged.balanced_run_idle held command
  | resolve gpa =>
    exact (accounts_onMemory (Access.accounts_of_keeping fun held => Paged.balanced_resolve held gpa)).bind
      fun _ => accounts_reply _
  | sourceContains gpa => exact ⟨fun _ _ balanced => balanced⟩

end MemoryDesk

/-- After any operations of the caller, failed ones included, every page that was given out is taken
back, bound or held by the caller, and no page was ever taken back beyond those given out. Clearing the
memory then takes back the bound pages and leaves those that the caller holds. -/
theorem pages_accounted {S : Type} [PageSource S] (pager : Pager S) (policy : BindingPolicy)
    (commands : List MemoryCommand) :
    let desk := Access.afterAll MemoryDesk.run commands { memory := ⟨pager, { policy }⟩ }
    let space := desk.memory.space
    space.allocated = space.released + space.bound.size + desk.holdings.pageCount ∧
      space.released ≤ space.allocated ∧ space.overdrawn = false ∧
      ∃ cleared, MemoryDesk.run (.space .clear) desk = .ok (.count space.bound.size) cleared ∧
        cleared.holdings = desk.holdings ∧ cleared.memory.space.bound.isEmpty ∧
        cleared.memory.space.live = desk.holdings.pageCount := by
  intro desk space
  have balanced : desk.Balanced 0 := by
    refine Access.afterAll_keeps (MemoryDesk.Balanced · 0)
      (fun command _ state balanced => (MemoryDesk.accounts_run command).after_kept balanced) ⟨rfl, rfl⟩
  have sum : space.allocated = space.released + space.bound.size + desk.holdings.pageCount := balanced.sum
  refine ⟨sum, by omega, balanced.covered, _, rfl, rfl, Std.TreeMap.isEmpty_emptyc, ?_⟩
  change space.allocated - (space.released + space.bound.size) = desk.holdings.pageCount
  omega

end GuestResume
