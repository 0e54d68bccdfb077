import ScriptWorkers.Proofs.Upkeep.Lawful

/-!
# Upkeep in all runs

If steps keep an upkeep, and so do the operations by which the host itself changes links, registers
or intervals, then everybody's affairs are at rest between the operations of any run
(`Upkeep.all_of_reachable`), and those of the context in control are in hand in the middle of one
(`Upkeep.sound_busy_of_moment`).

The two theorems are what the books of callbacks and the account of messages are read off from.

* `host` and `anyHost` are what operations of the host guarantee, before and after the root is given
  up.
* `All.dropped` and `keeps_drop`: nobody's affairs are left when the root is gone.
* `keeps_perform` goes through the operations, with those of the host's own left to each upkeep.
-/

namespace ScriptWorkers

open World

variable {κ : Type}

namespace Upkeep

variable {u : Upkeep κ} {w w' : World κ} {id me x : WorkerId} {engine : Engine κ}

/-- The guarantee of the operations of the host that do not give up the root. -/
def host (u : Upkeep κ) : Guarantee (World κ) := Order.host.both (u.resting 0)

/-- The guarantee of all operations of the host. -/
def anyHost (u : Upkeep κ) : Guarantee (World κ) := Order.anyHost.both (u.resting 0)

/-- What is kept for the root and in steps is kept for the host. -/
theorem hosts (u : Upkeep κ) : u.regime.Hosts u.host where
  act_inv hi hw := ⟨Order.hosts.act_inv hi.1 hw, hi.2⟩
  act_rel hi hi' hr := by
    obtain ⟨ho, hr'⟩ := Order.hosts.act_rel hi.1 hi'.1 hr.1
    exact ⟨⟨ho, hi'.2⟩, hr', trivial⟩
  act_broken hi hb := ⟨Order.hosts.act_broken hi.1 hb.1, hb.2⟩
  whole_inv {id w} hi hid :=
    ⟨hi.1, hi.2.1, fun x hx ↦ hi.2.2 x ((hi.1.under_root id hid).trans hx)⟩
  whole_rel hi hid hi' hr := by
    obtain ⟨ho, hr'⟩ := Order.hosts.whole_rel hi.1 hid hi'.1 hr.1
    exact ⟨⟨ho, All.nested hi.1 hid hr.1.1 hi.2 hi'.2⟩, hr', trivial⟩
  whole_broken {id e w w'} hi hid hb := by
    refine ⟨Order.hosts.whole_broken hi.1 hid hb.1, ?_⟩
    cases e with
    | panic => exact hb.1.elim
    | exhausted => trivial
    | endless p => exact hb.2
  rooted hi hr hw := Order.hosts.rooted hi.1 hr.1 hw
  flag hid := resting_of_mild (Order.hosts.flag hid) mild_flag
  clock f w := resting_of_mild (Order.hosts.clock f w) (mild_clock f)
  loader f w := resting_of_mild (Order.hosts.loader f w) (mild_loader f)

theorem any_of_host {α : Type} {y : Run (World κ) α} (h : KeepsAt u.host y w) :
    KeepsAt u.anyHost y w := by
  refine h.mono (fun hi ↦ hi) (fun _ _ hi' hr ↦ ⟨hi', hr.1.1, trivial⟩) fun e w' _ hb ↦ ?_
  refine ⟨?_, hb.2⟩
  cases e with
  | panic => exact ⟨hb.1.1, hb.1.2.1⟩
  | exhausted => trivial
  | endless p => exact hb.1

theorem host_of_quiet {α : Type} {y : Run (World κ) α} (hw : w.root.isSome)
    (h : KeepsAt (u.quiet 0) y w) : KeepsAt u.host y w := by
  refine h.mono (fun hi ↦ ?_) (fun w' hi hi' hr ↦ ?_) fun e w' hi hb ↦ ?_
  · exact ⟨⟨hi.1, hw⟩, hi.2.others, u.busy_of_rest (hi.2.2 0 (.refl w 0))⟩
  · refine ⟨⟨hi'.1.1, All.of_rest hi'.2.1 ?_⟩, ⟨⟨hr.1.1.toPassage, hr.1.2⟩, hr.1.1.rooted⟩, trivial⟩
    exact u.rest_of_own (hi.2.2 0 (.refl w 0)) hi'.2.2 hr.2
  · refine ⟨Order.BrokenOff.host hb.1, ?_⟩
    cases e with
    | panic => exact hb.1.elim
    | exhausted => trivial
    | endless p => exact hb.2

/-- A worker is terminated by its handle. -/
theorem keepsAt_dismiss_handle (hl : u.regime.Brings (stepFully engine))
    (hid : w.owner? id = some 0) (hbusy : (u.quiet 0).inv w → u.busy 0 (w.unregister 0 [id]))
    (hleft : (u.quiet 0).inv w → u.own 0 w (w.unregister 0 [id])) :
    KeepsAt u.host (dismiss (stepFully engine) 0 id) w := by
  by_cases hw : w.root.isSome
  · exact host_of_quiet hw (keepsAt_dismiss hl hbusy hleft hid)
  · intro hi
    have hflag : KeepsAt u.host (flag id) w :=
      resting_of_mild (Order.host_of_still (Order.keepsAt_flag (.inr hid))) mild_flag
    rw [Order.run_dismiss_of_dropped hi.1 hw]
    exact hflag.bind (fun _ w₁ _ _ _ ↦ keepsAt_pure _ () w₁) hi

/-! ## Giving up the root -/

/-- When the root is given up, nobody's affairs are left but those of the dead. -/
theorem All.dropped (hw : w.root.isSome) (hs : w.Shape) (hall : u.All 0 w) {w₁ : World κ} {a : Unit}
    (hl : u.regime.Brings (stepFully engine))
    (h : terminateKids (stepFully engine) 0 w = .ok a w₁) : u.All 0 { w₁ with root := none } := by
  have hi : (u.spent 0).inv w := ⟨⟨hs, hw⟩, hall.others⟩
  obtain ⟨hi₁, hr₁⟩ := (keeps_terminateKids hl w).ok hi h
  refine All.of_rest (hi₁.2.besides besides_dropped) (u.ended (hall.2 0 (.refl w 0)) hr₁.2 ?_)
  simp [Awake]

theorem keeps_drop (hl : u.regime.Brings (stepFully engine)) : Keeps u.anyHost (drop engine) := by
  intro w
  refine (Order.keeps_drop w).both ?_ ?_
  · intro hs hall _ w' h _ _
    obtain ⟨_, w₁, h₁, h₂⟩ := of_run_bind_ok h
    cases h₂
    refine ⟨?_, trivial⟩
    by_cases hw : w.root.isSome
    · exact hall.dropped hw hs hl h₁
    · rw [Option.not_isSome_iff_eq_none] at hw
      rw [Order.terminateKids_of_dropped hw] at h₁
      cases h₁
      cases w
      cases hw
      exact hall
  · intro hs hall e w' h _
    cases h₁ : terminateKids (stepFully engine) 0 w with
    | ok a w₁ =>
      rw [drop, run_bind_ok h₁] at h
      cases h
    | error e₁ w₁ =>
      rw [drop, run_bind_error h₁] at h
      cases h
      by_cases hw : w.root.isSome
      · have hi : (u.spent 0).inv w := ⟨⟨hs, hw⟩, hall.others⟩
        have hb := (keeps_terminateKids hl w).error hi h₁
        cases e with
        | panic => exact hb.1.elim
        | exhausted => trivial
        | endless p => exact hb.2
      · rw [Option.not_isSome_iff_eq_none] at hw
        rw [Order.terminateKids_of_dropped hw] at h₁
        cases h₁

/-! ## All runs -/

section Runs

variable {loader : Loader} {requests : Request → Prop} {allowed : HostOp → Prop}
  (hl : u.regime.Lawful engine requests)
  (hdirect : ∀ {op unlimited fuel}, allowed op → op.direct = true → op ≠ .drop →
    Keeps u.host (perform engine unlimited fuel op))
include hl hdirect

/-- Every operation keeps the upkeep, if the direct ones do. -/
theorem keeps_perform {op : HostOp} (hop : allowed op) (unlimited : Bool) (fuel : Nat) :
    Keeps u.anyHost (perform engine unlimited fuel op) := by
  intro w
  by_cases hd : op.direct = true
  · by_cases hdrop : op = .drop
    · subst hdrop
      exact (keeps_drop hl.brings_stepFully w).bind fun _ w₁ _ _ _ ↦ keepsAt_pure _ _ w₁
    · exact any_of_host (hdirect hop hd hdrop w)
  · exact any_of_host (u.hosts.keeps_perform hl unlimited fuel (Bool.eq_false_iff.2 hd) w)

omit hl hdirect in
theorem All.cleared (h : u.All 0 w) : u.All 0 { w with events := #[] } := by
  have hsame : Same w { w with events := #[] } := ⟨rfl, rfl, rfl⟩
  exact All.alike (alike_of_same hsame rfl) h

/-- Between operations everybody's affairs are at rest. -/
theorem all_of_reachable (hcreated : ∀ {w}, create engine loader = .ok w → u.All 0 w)
    (h : Reachable engine loader allowed w) : u.All 0 w := by
  induction h with
  | created h => exact hcreated h
  | performed hw hop h ih =>
    have hs := (Order.shape_tended_cleared (Order.shape_tended_of_reachable hw)).1
    exact ((keeps_perform hl hdirect hop _ _ _).ok ⟨hs, ih.cleared⟩ h).1.2
  | panicked hw hop h ih =>
    have hs := (Order.shape_tended_cleared (Order.shape_tended_of_reachable hw)).1
    exact ((keeps_perform hl hdirect hop _ _ _).error ⟨hs, ih.cleared⟩ h).2.2.1

/-- While a context has control its affairs are in hand. -/
theorem sound_busy_of_moment (hcreated : ∀ {w}, create engine loader = .ok w → u.All 0 w)
    (h : Moment engine loader allowed me w) : u.sound w ∧ u.busy me w := by
  obtain ⟨w₀, unlimited, fuel, op, hw₀, hop, h⟩ := h
  have hs := (Order.shape_tended_cleared (Order.shape_tended_of_reachable hw₀)).1
  have hall := all_of_reachable hl hdirect hcreated hw₀
  exact ((keeps_perform hl hdirect hop _ _ _).error ⟨hs, hall.cleared⟩ h).2

end Runs

end Upkeep

end ScriptWorkers
