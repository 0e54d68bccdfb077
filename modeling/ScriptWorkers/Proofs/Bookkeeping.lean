import ScriptWorkers.Proofs.Books.Host
import ScriptWorkers.Proofs.Numbering

/-!
# Bookkeeping is exact

For a context whose scripts go over its desk for everything, the desk keeps exactly those functions
that can still be called back, and no function is kept for two things.

* `World.registered` are the slots that something may be called back by: the messages of the owner,
  the messages of the workers that the context holds, the intervals.
* `World.Exact` says that these are the slots on the desk, each registered once.
* `World.HoldsScripted` says that the workers on the desk are those that the scripts of the context
  have created and not terminated, each under a number of its own.
* `callback_books_exact` says this of every context in every run, both between the operations of a
  host and in the middle of one.

The books themselves, with what is in hand while a request is being served, are in
`ScriptWorkers.Proofs.Books.Basic`, and `Books.Kept.bookkeeping` reads off what they say of a
context that is at rest.
-/

namespace ScriptWorkers

open World

variable {κ : Type}

namespace World

variable {w : World κ} {x : WorkerId}

/-- The slots that are registered for a context, with every place that they are registered at. -/
def registered (w : World κ) (x : WorkerId) : List Slot :=
  w.listening x ++ (w.scope x).timers.callbacks

/-- The books of the context are exact. -/
structure Exact (w : World κ) (x : WorkerId) : Prop where
  /-- What is on the desk is registered, and conversely. -/
  slots : (w.scope x).desk.slots.Perm (w.registered x)
  /-- Nothing is registered at two places. -/
  once : (w.registered x).Nodup

/-- The workers on the desk of the context are the registered ones that its scripts have created. -/
structure HoldsScripted (w : World κ) (x : WorkerId) : Prop where
  workers : (w.scope x).desk.workers = w.scripted x
  /-- Under the number of each of them there is no other one. -/
  numbers : ∀ earlier, ((w.scope x).desk.workers.map (·.number earlier)).Nodup

/-- Nobody is registered twice. -/
theorem Shape.nodup_scripted (h : w.Shape) : (w.scripted x).Nodup :=
  (h.fits x).nodup.filter _

theorem Shape.exists_scripted (h : w.Shape) (c : WorkerId) (hc : c ∈ w.scripted x) :
    (w.worker? c).isSome :=
  worker?_isSome_of_owner? ((h.fits x).kids c (List.mem_filter.1 hc).1)

end World

/-- The books that are kept of a context are exact when nothing of it is under way. -/
theorem Books.Kept.bookkeeping {w : World κ} {x : WorkerId} (h : Books.Kept [] [] x w)
    (hs : w.Shape) (hn : w.Numbered) : w.HoldsScripted x ∧ (w.InRange x → w.Exact x) := by
  refine ⟨⟨h.held, fun earlier ↦ ?_⟩, fun hr ↦ ⟨(h.exact hr).slots, ?_⟩⟩
  · rw [h.held]
    exact hn.nodup_numbers hs.exists_scripted hs.nodup_scripted
  · exact (h.exact hr).slots.nodup_iff.1 (h.exact hr).nodup

/-- **Bookkeeping is exact in all runs.**  Scripts may ask for anything over their desks, and a host
may do anything that leaves callbacks and registers to the scripts, and less than 2³² workers are
made.  Then between operations, of every context that has not come to its end, and in the middle of
one, of the context that has control: the workers on its desk are the registered ones that its
scripts have created, each under a number of its own; and as long as it has been given less than 2³²
slots and less than 2³² numbers of intervals, its books are exact, and there was a function behind
every slot by which a drain or an interval has called it. -/
theorem callback_books_exact (e : DeskEngine κ) (loader : Loader) :
    (∀ w, Reachable e.engine loader HostOp.leavesBooks w → w.Numbered → ∀ x, w.Awake x →
      w.HoldsScripted x ∧ (w.InRange x → w.Exact x)) ∧
    (∀ me w, Moment e.engine loader HostOp.leavesBooks me w → w.Numbered →
      w.HoldsScripted me ∧ (w.InRange me → w.Exact me)) ∧
    (∀ w, Reachable e.engine loader HostOp.leavesBooks w ∨
        (∃ me, Moment e.engine loader HostOp.leavesBooks me w) → w.Numbered →
      ∀ x cause slot f args, Deed.called x cause slot f args ∈ w.journal.toList → w.InRange x →
        f.isSome) := by
  have hall {w : World κ} (hw : Reachable e.engine loader HostOp.leavesBooks w) :
      Books.books.All 0 w :=
    Upkeep.all_of_reachable (Books.lawful e) (Books.keeps_direct e) Books.all_created hw
  have hmoment {me : WorkerId} {w : World κ} (hw : Moment e.engine loader HostOp.leavesBooks me w) :
      Books.Sound w ∧ (w.Awake me → Books.Kept [] [] me w) :=
    Upkeep.sound_busy_of_moment (Books.lawful e) (Books.keeps_direct e) Books.all_created hw
  refine ⟨fun w hw hn x hx ↦ ?_, fun me w hw hn ↦ ?_, fun w hw _ ↦ ?_⟩
  · have hs := (Order.shape_tended_of_reachable hw).1
    exact ((hall hw).2 x (hs.under_root_of_known hx.known) hx).bookkeeping hs hn
  · obtain ⟨⟨hs, hawake⟩, -⟩ := Order.inv_tended_of_moment hw
    exact ((hmoment hw).2 hawake).bookkeeping hs hn
  · rcases hw with hw | ⟨me, hw⟩
    · exact (hall hw).1.called
    · exact (hmoment hw).1.called

/-! ## An office -/

/-- An engine whose scripts of the name `office` create a worker and listen to it, and all others
post to their owners.  Whatever calls the office back starts an interval and changes the handler. -/
def clerk : DeskEngine Unit where
  create _ := .ok ()
  execute _ _ name :=
    if name = "office" then
      .ask (.create "branch") fun _ ↦ .ask (.handle (.worker 1) (.function 7)) fun _ ↦
        .done ((), .done)
    else .ask (.post ⟨"true"⟩) fun _ ↦ .done ((), .done)
  call _ _ _ := .ask (.startInterval 8 none) fun _ ↦
    .ask (.handle (.worker 1) (.function 9)) fun _ ↦ .done ((), .done)
  depth := 4

/-- The scripts of the office. -/
def officeShelf : Loader := .shelf ⟨[("branch", .text "")]⟩

/-- The office before it opens. -/
def closedOffice : World Unit := { root := some { context := some () }, loader := officeShelf }

/-- The operations that lead to the root being called back for a message of its worker. -/
def officeDay : List HostOp := [.eval (.text "") "office", .step 1 1, .tick]

/-- The root after it has been called back. -/
def office : World Unit := (performAll clerk.engine officeDay closedOffice).getD closedOffice

theorem reachable_office : Reachable clerk.engine officeShelf HostOp.leavesBooks office := by
  have hclosed : Reachable clerk.engine officeShelf HostOp.leavesBooks closedOffice := .created rfl
  exact hclosed.performAll closedOffice (by simp [officeDay, HostOp.leavesBooks])
    (by decide +kernel)

/-- The first handler has been given up; the interval and the second handler are registered. -/
theorem office_books : office.Numbered ∧ office.InRange 0 ∧ office.registered 0 = [3, 2] ∧
    (office.scope 0).desk.slots.Perm [3, 2] ∧ (office.scope 0).desk.workers = [1] ∧
    office.scripted 0 = [1] := by
  have hawake : office.Awake 0 := by
    rw [Awake, if_pos rfl]
    decide +kernel
  have hn : office.Numbered := by decide +kernel
  have hbooks := (callback_books_exact clerk officeShelf).1 office reachable_office hn 0 hawake
  have hr : office.InRange 0 := by decide +kernel
  have hregistered : office.registered 0 = [3, 2] := by decide +kernel
  have hworkers : (office.scope 0).desk.workers = [1] := by decide +kernel
  exact ⟨hn, hr, hregistered, hregistered ▸ (hbooks.2 hr).slots, hworkers,
    hbooks.1.workers ▸ hworkers⟩

end ScriptWorkers
