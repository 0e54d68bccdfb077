import ScriptWorkers.Proofs.Likeness.Basic
import ScriptWorkers.World.Serve

/-!
# Requests in worlds alike

Whatever a context that counts asks for, two worlds alike give the same answer and stay alike, if
bringing a thread to its end does so too.

`Ends fin₁ fin₂` is what is asked of the two ways to bring a thread to its end.  With this come the
operations by which workers are waited for and terminated (`meets_terminateKid`,
`meets_terminateKids`, `meets_dismiss`), and `meets_serveDesk` and `meets_serve` go through the
requests.  A context can only name workers of its own, which count if it does (`inside_source`).
-/

namespace ScriptWorkers
namespace Likeness

variable {κ₁ κ₂ : Type} {L : Likeness κ₁ κ₂} {id me : WorkerId}

open World

/-! ## The world's own operations -/

/-- The callback of a mailbox is exchanged on both sides. -/
theorem meets_exchange {p₁ : Place (World κ₁) Mailbox} {p₂ : Place (World κ₂) Mailbox}
    (hread : L.Meets Eq p₁.read p₂.read) (hlisten : ∀ cb : Option Slot,
      L.Meets Eq (p₁.update (·.listen cb)) (p₂.update (·.listen cb))) (cb : Option Slot) :
    L.Meets Eq (exchange p₁ cb) (exchange p₂ cb) :=
  hread.next fun _ ↦ (hlisten cb).next fun _ ↦ meets_pure rfl

theorem meets_exchange_box (hid : L.inside id) (side : Side) (cb : Option Slot) :
    L.Meets Eq (exchange (boxPlace id side) cb) (exchange (boxPlace id side) cb) :=
  meets_exchange (meets_read_box hid side) (fun _ ↦ meets_update_box hid side _) cb

theorem meets_flag (hid : L.inside id) : L.Meets Eq (flag id) (flag id) :=
  (meets_read_link hid).next fun _ ↦ (meets_update_link hid _).next fun _ ↦ meets_pure rfl

theorem meets_deposit (hid : L.inside id) (side : Side) (m : Message) :
    L.Meets Eq (deposit id side m) (deposit id side m) :=
  (meets_read_link hid).next fun _ ↦ (meets_record hid).next fun _ ↦ meets_update_box hid side _

theorem meets_retain (hme : L.inside me) (f : FunctionRef) :
    L.Meets Eq (retain me f) (retain me f) := by
  refine (meets_read_desk hme).bind ?_
  rintro d _ ⟨rfl, -⟩
  refine (meets_record hme).next fun _ ↦ ?_
  exact (meets_update_desk hme (·.retain f) fun _ _ hc ↦ .inl hc).next fun _ ↦ meets_pure rfl

theorem meets_forget (hme : L.inside me) (old : Option Slot) :
    L.Meets Eq ((deskPlace me).update (·.forget old)) ((deskPlace me).update (·.forget old)) := by
  refine meets_update_desk hme (·.forget old) fun d c hc ↦ .inl ?_
  cases old <;> exact hc

theorem meets_addTimer (hme : L.inside me) (callback : Slot) (period : Option Float) :
    L.Meets Eq (addTimer me callback period) (addTimer me callback period) :=
  (meets_read_timers hme).next fun _ ↦ meets_read_clock.next fun _ ↦ (meets_record hme).next fun _ ↦
    (meets_update_timers hme _).next fun _ ↦ meets_pure rfl

theorem meets_removeTimer (hme : L.inside me) (n : UInt32) :
    L.Meets Eq (removeTimer me n) (removeTimer me n) :=
  (meets_read_timers hme).next fun _ ↦ (meets_update_timers hme _).next fun _ ↦ meets_pure rfl

theorem meets_spawn_eq (hme : L.inside me) (script : String) :
    L.Meets Eq (spawn me script) (spawn me script) :=
  (meets_spawn hme script).mono fun _ _ h ↦ h.1

/-! ## Waiting for threads -/

/-- Two ways to bring threads to their end do the same to those that count. -/
def Ends (L : Likeness κ₁ κ₂) (fin₁ : WorkerId → Run (World κ₁) Unit)
    (fin₂ : WorkerId → Run (World κ₂) Unit) : Prop :=
  ∀ id, L.inside id → L.Meets Eq (fin₁ id) (fin₂ id)

variable {fin₁ : WorkerId → Run (World κ₁) Unit} {fin₂ : WorkerId → Run (World κ₂) Unit}

theorem meets_logCrash (hme : L.inside me) (hid : L.inside id) :
    L.Meets Eq (logCrash me id) (logCrash me id) := by
  refine meets_get_bind fun w₁ w₂ hw ↦ ?_
  rcases hw.worker hid with ⟨h₁, h₂⟩ | ⟨k₁, k₂, h₁, h₂, hk⟩
  · rw [h₁, h₂]
    exact meets_pure rfl
  · simp only [h₁, h₂, hk.crashed, hk.script]
    exact meets_ite Iff.rfl (fun _ ↦ meets_note hme _) fun _ ↦ meets_pure rfl

section Ends

variable (hfin : L.Ends fin₁ fin₂)
include hfin

/-- A thread that counts is waited for. -/
theorem meets_await (hid : L.inside id) : L.Meets Eq (await fin₁ id) (await fin₂ id) := by
  refine meets_get_bind fun w₁ w₂ hw ↦ ?_
  exact meets_ite (by rw [hw.isLive hid]) (fun _ ↦ hfin id hid) fun _ ↦ meets_pure rfl

theorem meets_join (hme : L.inside me) (hid : L.inside id) :
    L.Meets Eq (join fin₁ me id) (join fin₂ me id) :=
  (meets_await hfin hid).next fun _ ↦ meets_logCrash hme hid

/-- A worker is terminated by its number. -/
theorem meets_terminateKid (hme : L.inside me) (id : WorkerId) :
    L.Meets Eq (terminateKid fin₁ me id) (terminateKid fin₂ me id) := by
  refine (meets_read_kids hme).bind ?_
  rintro kids _ ⟨rfl, hkids⟩
  refine meets_ite Iff.rfl (fun hc ↦ ?_) fun _ ↦ meets_pure rfl
  have hid : L.inside id := hkids id (List.contains_iff_mem.1 hc)
  refine (meets_update_kids hme (·.erase id) fun _ _ ↦ List.mem_of_mem_erase).next fun _ ↦ ?_
  exact (meets_flag hid).next fun _ ↦ (meets_join hfin hme hid).next fun _ ↦ meets_pure rfl

omit hfin in
theorem meets_flagAll : ∀ {ids : List WorkerId}, (∀ c ∈ ids, L.inside c) →
    L.Meets Eq (flagAll ids) (flagAll ids)
  | [], _ => meets_pure rfl
  | _ :: _, h => (meets_flag (h _ List.mem_cons_self)).next fun _ ↦
      meets_flagAll fun c hc ↦ h c (List.mem_cons_of_mem _ hc)

/-- By induction on the workers. -/
theorem meets_joinAll (hme : L.inside me) : ∀ {ids : List WorkerId}, (∀ c ∈ ids, L.inside c) →
    L.Meets Eq (joinAll fin₁ me ids) (joinAll fin₂ me ids)
  | [], _ => meets_pure rfl
  | _ :: _, h => (meets_join hfin hme (h _ List.mem_cons_self)).next fun _ ↦
      meets_joinAll hme fun c hc ↦ h c (List.mem_cons_of_mem _ hc)

theorem meets_terminateKids (hme : L.inside me) :
    L.Meets Eq (terminateKids fin₁ me) (terminateKids fin₂ me) := by
  refine (meets_read_kids hme).bind ?_
  rintro kids _ ⟨rfl, hkids⟩
  refine (meets_update_kids hme (fun _ ↦ []) fun _ c hc ↦ absurd hc List.not_mem_nil).next
    fun _ ↦ ?_
  exact (meets_flagAll hkids).next fun _ ↦ meets_joinAll hfin hme hkids

theorem meets_dismiss (hme : L.inside me) (hid : L.inside id) :
    L.Meets Eq (dismiss fin₁ me id) (dismiss fin₂ me id) := by
  refine (meets_terminateKid hfin hme id).next fun b ↦ ?_
  exact meets_ite Iff.rfl (fun _ ↦ meets_pure rfl) fun _ ↦
    (meets_flag hid).next fun _ ↦ meets_pure rfl

/-! ## Requests -/

omit hfin in
/-- A source that a context may handle is within reach: it is its owner or a worker it holds. -/
theorem inside_source {d : Desk} {s : Source} (hd : ∀ c, d.holds c → L.inside c)
    (hs : mayHandle me d s = true) : ∀ id, s = .worker id → L.inside id := by
  rintro id rfl
  exact hd id hs

omit hfin in
theorem meets_handlerPlace {s : Source} (hme : L.inside me)
    (hs : ∀ id, s = .worker id → L.inside id) :
    L.Meets Eq (handlerPlace me s).read (handlerPlace me s).read ∧
      ∀ cb, L.Meets Eq (exchange (handlerPlace me s) cb) (exchange (handlerPlace me s) cb) := by
  cases s with
  | owner => exact ⟨meets_read_box hme .inbox, meets_exchange_box hme .inbox⟩
  | worker id => exact ⟨meets_read_box (hs id rfl) .outbox, meets_exchange_box (hs id rfl) .outbox⟩

omit hfin in
theorem meets_register {s : Source} (hme : L.inside me) (hs : ∀ id, s = .worker id → L.inside id)
    (h : Handler) : L.Meets Eq (register me s h) (register me s h) := by
  have hex := (meets_handlerPlace hme hs).2
  cases h with
  | invalid => exact meets_note hme _
  | clear => exact (hex none).next fun _ ↦ meets_forget hme _
  | function f =>
    exact (meets_retain hme f).next fun slot ↦ (hex (some slot)).next fun _ ↦ meets_forget hme _

/-- A worker is let go of and brought to its end. -/
theorem meets_layOff (hme : L.inside me) (hid : L.inside id) :
    L.Meets Eq (layOff fin₁ me id) (layOff fin₂ me id) := by
  refine (meets_update_desk hme (·.letGo id) fun _ _ hc ↦ .inl (List.mem_filter.1 hc).1).next
    fun _ ↦ ?_
  refine (meets_dismiss hfin hme hid).next fun _ ↦ ?_
  exact (meets_exchange_box hid .outbox none).next fun _ ↦ meets_forget hme _

theorem meets_serveDesk (hme : L.inside me) (q : DeskRequest) :
    L.Meets Eq (serveDesk fin₁ me q) (serveDesk fin₂ me q) := by
  cases q with
  | note e => exact meets_note hme e
  | post m => exact meets_deposit hme .outbox m
  | holds id =>
    refine (meets_read_desk hme).bind ?_
    rintro d _ ⟨rfl, -⟩
    exact meets_pure rfl
  | function slot =>
    refine (meets_read_desk hme).bind ?_
    rintro d _ ⟨rfl, -⟩
    exact meets_pure rfl
  | handle s h =>
    refine (meets_read_desk hme).bind ?_
    rintro d _ ⟨rfl, hd⟩
    exact meets_ite Iff.rfl (fun hs ↦ meets_register hme (inside_source hd hs) h) fun _ ↦
      meets_pure rfl
  | handler s =>
    refine (meets_read_desk hme).bind ?_
    rintro d _ ⟨rfl, hd⟩
    refine meets_ite Iff.rfl (fun hs ↦ ?_) fun _ ↦ meets_pure rfl
    exact (meets_handlerPlace hme (inside_source hd hs)).1.next fun _ ↦ meets_pure rfl
  | startInterval f period =>
    exact (meets_retain hme f).next fun slot ↦ meets_addTimer hme slot period
  | stopInterval n => exact (meets_removeTimer hme n).next fun _ ↦ meets_forget hme _
  | create script =>
    refine (meets_spawn hme script).bind ?_
    rintro r _ ⟨rfl, hr⟩
    cases r with
    | ok id =>
      refine (meets_update_desk hme (·.hold id) fun d c hc ↦ ?_).next fun _ ↦ meets_pure rfl
      rcases List.mem_append.1 hc with hc | hc
      · exact .inl hc
      · rw [List.mem_singleton] at hc
        exact .inr (hc ▸ hr id rfl)
    | error e => exact meets_pure rfl
  | send id m =>
    refine (meets_read_desk hme).bind ?_
    rintro d _ ⟨rfl, hd⟩
    exact meets_ite Iff.rfl (fun hid ↦ meets_deposit (hd id hid) .inbox m) fun _ ↦ meets_pure rfl
  | retire id =>
    refine (meets_read_desk hme).bind ?_
    rintro d _ ⟨rfl, hd⟩
    exact meets_ite Iff.rfl (fun hid ↦ (meets_layOff hfin hme (hd id hid)).next fun _ ↦
      meets_record hme) fun _ ↦ meets_pure rfl

/-- A request of a context that counts comes to the same in worlds alike. -/
theorem meets_serve (hme : L.inside me) (q : Request) :
    L.Meets Eq (serve fin₁ me q) (serve fin₂ me q) := by
  -- a context turns only to workers that it owns, and these count as well
  have hown {id : WorkerId} {α : Type} {x₁ y₁ : Run (World κ₁) α} {x₂ y₂ : Run (World κ₂) α}
      (hx : L.inside id → L.Meets Eq x₁ x₂) (hy : L.Meets Eq y₁ y₂) :
      L.Meets Eq (get >>= fun w ↦ if w.owner? id = some me then x₁ else y₁)
        (get >>= fun w ↦ if w.owner? id = some me then x₂ else y₂) :=
    meets_get_bind fun w₁ w₂ hw ↦ meets_ite (by rw [hw.owners])
      (fun ho ↦ hx (hw.inside_of_owner? hme ho)) fun _ ↦ hy
  cases q with
  | desk q => exact meets_serveDesk hfin hme q
  | advance s => exact meets_update_clock _
  | unload id =>
    exact meets_read_loader.next fun _ ↦ (meets_update_loader _).next fun _ ↦ meets_pure rfl
  | listen cb => exact meets_exchange_box hme .inbox cb
  | addTimer cb period => exact meets_addTimer hme cb period
  | removeTimer n => exact meets_removeTimer hme n
  | spawn script => exact meets_spawn_eq hme script
  | postTo id m => exact hown (fun hid ↦ meets_deposit hid .inbox m) (meets_pure rfl)
  | listenTo id cb => exact hown (fun hid ↦ meets_exchange_box hid .outbox cb) (meets_pure rfl)
  | terminate id => exact hown (fun hid ↦ meets_dismiss hfin hme hid) (meets_pure rfl)
  | terminateAll => exact meets_terminateKids hfin hme
  | resign => exact meets_flag hme

end Ends

end Likeness
end ScriptWorkers
