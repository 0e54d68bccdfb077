import ScriptWorkers.Bench.Link
import ScriptWorkers.Proofs.Trial

/-!
# A terminated link is only emptied

When a link has been terminated, its mailboxes are closed for good.  What they hold may still be
handed over, but nothing is added, even if the link is terminated in the middle of a drain of one of
its own mailboxes, which still has to remove the messages that it has walked.

* `lifetime` are several links through operations and drains, with any callbacks; these may turn to
  any of the links, and posts of other threads may come in at any time.
* `Mailbox.Fades` is what every change of a mailbox comes to: a closed one stays closed, and
  what it holds later is the end of what it holds now.  `Link.Fades` is the same for a link,
  `AllFade` for several.
* `Effect` says what an operation can do to the links.
* `terminated_links_only_empty` puts it together, with who is told that it was the first to
  terminate a link, and with what becomes of links that nobody turns to.
-/

namespace ScriptWorkers

/-! ## Mailboxes -/

namespace Mailbox

variable {b b' : Mailbox}

/-- No post waits for a closed mailbox. -/
def Tidy (b : Mailbox) : Prop := b.closed = true → b.waiting = []

/-- A closed mailbox stays closed, and only the end of what it holds is left. -/
def Fades (b b' : Mailbox) : Prop := b.closed = true → b'.closed = true ∧ b'.items <:+ b.items

/-- What every change of a mailbox comes to. -/
def Change (f : Mailbox → Mailbox) : Prop := ∀ b, b.Tidy → (f b).Tidy ∧ b.Fades (f b)

theorem Fades.refl (b : Mailbox) : b.Fades b := fun hc ↦ ⟨hc, List.suffix_refl _⟩

theorem Fades.trans {b'' : Mailbox} (h : b.Fades b') (h' : b'.Fades b'') : b.Fades b'' := by
  intro hc
  obtain ⟨hc', hi⟩ := h hc
  obtain ⟨hc'', hi'⟩ := h' hc'
  exact ⟨hc'', hi'.trans hi⟩

theorem change_id : Change id := fun b hb ↦ ⟨hb, .refl b⟩

/-- What a closed mailbox does not take. -/
theorem change_of_refused {f : Mailbox → Mailbox} (hrefused : ∀ b, b.closed = true → f b = b)
    (hclosed : ∀ b, (f b).closed = b.closed) : Change f := by
  intro b hb
  by_cases hc : b.closed = true
  · rw [hrefused b hc]
    exact ⟨hb, .refl b⟩
  · exact ⟨fun hc' ↦ absurd ((hclosed b).symm.trans hc') hc, fun hc' ↦ absurd hc' hc⟩

/-- A closed mailbox takes no message. -/
theorem change_push (m : Message) : Change (·.push m) :=
  change_of_refused (fun _ hc ↦ if_pos hc) fun _ ↦ closed_push

/-- Nor does it keep one that waits for the end of a drain. -/
theorem change_pushWaiting (m : Message) : Change (·.pushWaiting m) := by
  refine change_of_refused (fun _ hc ↦ if_pos hc) fun b ↦ ?_
  rw [pushWaiting]
  split <;> rfl

theorem change_listen (callback : Option Slot) : Change (·.listen callback) :=
  fun _ hb ↦ ⟨hb, fun hc ↦ ⟨hc, List.suffix_refl _⟩⟩

/-- Those that wait are given up. -/
theorem change_close : Change close :=
  fun _ _ ↦ ⟨fun _ ↦ rfl, fun _ ↦ ⟨rfl, List.suffix_refl _⟩⟩

/-- The end of a drain only takes messages off the front of a closed mailbox. -/
theorem change_settle (n : Nat) : Change (·.settle n) := by
  intro b hb
  refine ⟨fun _ ↦ rfl, fun hc ↦ ⟨hc, ?_⟩⟩
  -- no post has waited, so nothing comes in at the end
  show b.items.drop n ++ b.waiting <:+ b.items
  rw [hb hc, List.append_nil]
  exact List.drop_suffix n b.items

end Mailbox

namespace Link

open Trial

/-! ## Trials of links with any callbacks -/

/-- The operation drains a mailbox. -/
def Op.drains : Op → Bool
  | .box _ .drain => true
  | _ => false

/-- What a callback may ask for. -/
inductive Demand where
  | op (o : Op) (h : o.drains = false)
  /-- Adds a message that has been encoded. -/
  | push (target : Address) (m : Message)
  /-- Adds a message from another thread while a drain is going on. -/
  | aside (target : Address) (m : Message)

/-- The link that an operation is about. -/
def Op.link? : Op → Option Nat
  | .new => none
  | .terminate i | .named i => some i
  | .box target _ => some target.link

/-- The link that is named. -/
def Demand.link? : Demand → Option Nat
  | op o _ => o.link?
  | push target _ | aside target _ => some target.link

/-- The link that is to be terminated. -/
def Demand.ends? : Demand → Option Nat
  | op (.terminate i) _ => some i
  | _ => none

/-- Performs what is asked for. -/
def meet : Demand → Run (Bench (List Link)) Answer
  | .op o _ => perform [] o
  | .push target m => do
    (Bench.part.within target.place).update (·.push m)
    return .nothing
  | .aside target m => do
    (Bench.part.within target.place).update (·.pushWaiting m)
    return .nothing

/-- What is done to links from outside. -/
inductive Turn where
  | ask (q : Demand)
  | drain (target : Address)

/-- The link that is named. -/
def Turn.link? : Turn → Option Nat
  | ask q => q.link?
  | drain target => some target.link

variable {μ : Type}

/-- Takes a turn. -/
def Turn.act (script : Script Demand μ) : Turn → Run (Trial (List Link) Demand μ) Answer
  | .ask q => serve meet q
  | .drain target => do
    return .count (← Mailbox.drain (part.within target.place) (callee meet script))

/-- No links at first, through a list of turns; the script starts with the memory `m`. -/
def lifetime (script : Script Demand μ) (turns : List Turn) (m : μ) : Trial (List Link) Demand μ :=
  Trial.run (Turn.act script) turns (Trial.start [] m)

/-- What a turn does to the links itself: at the end of a drain it removes the messages. -/
def Turn.Own : Turn → List Link → List Link → Prop
  | ask _, _, _ => False
  | drain target, ls, ls' => ∃ n, ls' = target.place.modify (·.settle n) ls

/-- What some turn does. -/
def Settled (ls ls' : List Link) : Prop := ∃ turn : Turn, turn.Own ls ls'

/-- What an operation on a mailbox does, if it is not a drain. -/
theorem run_box (target : Address) {o : Mailbox.Op} (ho : (Op.box target o).drains = false)
    (b : Bench (List Link)) : ∃ a b', perform [] (.box target o) b = .ok a b' ∧
      (b'.subject = b.subject ∨
        ∃ f, Mailbox.Change f ∧ b'.subject = target.place.modify f b.subject) := by
  cases o with
  | drain => cases ho
  | listen cb => exact ⟨_, _, rfl, .inr ⟨_, Mailbox.change_listen cb, rfl⟩⟩
  | callback => exact ⟨_, b, rfl, .inl rfl⟩
  | close => exact ⟨_, _, rfl, .inr ⟨_, Mailbox.change_close, rfl⟩⟩
  | post p =>
    rw [perform, Mailbox.perform, run_read_bind, Mailbox.post]
    cases hp : Message.encode p with
    | error e => exact ⟨_, b, rfl, .inl rfl⟩
    | ok m => exact ⟨_, _, rfl, .inr ⟨_, Mailbox.change_push m, rfl⟩⟩

/-- What can become of links when something is asked for. -/
inductive Effect (q : Demand) (ls : List Link) (a : Answer) : List Link → Prop
  | same (he : q.ends? = none) : Effect q ls a ls
  | added (he : q.ends? = none) : Effect q ls a (ls ++ [{ id := ls.length + 1 }])
  | ended {i : Nat} (he : q.ends? = some i) (hl : q.link? = some i)
    (ha : a = .flag !(ls.getD i default).terminated) : Effect q ls a ((nth i).modify terminate ls)
  | changed {target : Address} {f : Mailbox → Mailbox} (he : q.ends? = none)
    (hl : q.link? = some target.link) (hf : Mailbox.Change f) :
    Effect q ls a (target.place.modify f ls)

/-- Whatever is asked for has an effect, and is never broken off. -/
theorem run_meet (q : Demand) (b : Bench (List Link)) :
    ∃ a b', meet q b = .ok a b' ∧ Effect q b.subject a b'.subject := by
  cases q with
  | push target m => exact ⟨_, _, rfl, .changed rfl rfl (Mailbox.change_push m)⟩
  | aside target m => exact ⟨_, _, rfl, .changed rfl rfl (Mailbox.change_pushWaiting m)⟩
  | op o ho =>
    cases o with
    | new => exact ⟨_, _, rfl, .added rfl⟩
    | terminate i => exact ⟨_, _, rfl, .ended rfl rfl rfl⟩
    | named i => exact ⟨_, b, rfl, .same rfl⟩
    | box target o =>
      obtain ⟨a, b', hrun, hsame | ⟨f, hf, hafter⟩⟩ := run_box target ho b
      · exact ⟨a, b', hrun, hsame ▸ .same rfl⟩
      · exact ⟨a, b', hrun, hafter ▸ .changed rfl rfl hf⟩

theorem keeps_act (script : Script Demand μ) (turn : Turn) :
    Keeps (told meet turn.Own) (turn.act script) := by
  have hsteady (q : Demand) (b : Bench (List Link)) : ∃ a b', meet q b = .ok a b' := by
    obtain ⟨a, b', hrun, -⟩ := run_meet q b
    exact ⟨a, b', hrun⟩
  intro t
  cases turn with
  | ask q => exact keeps_serve hsteady q t
  | drain target =>
    have hcallee : (callee meet script).KeepsAll (told meet (Turn.drain target).Own) :=
      callee_keepsAll hsteady script
    have hsettle (n : Nat) : Keeps (told meet (Turn.drain target).Own)
        ((part.within target.place).update (·.settle n) : Run (Trial (List Link) Demand μ) Unit) :=
      keeps_own (f := target.place.modify (·.settle n)) fun _ ↦ ⟨n, rfl⟩
    refine KeepsAt.bind ?_ fun _ t₁ _ _ _ ↦ keepsAt_pure _ _ t₁
    exact keeps_drain hcallee.log (fun s slot args _ ↦ hcallee.call slot args s) hsettle t

/-- Every lifetime has a story. -/
theorem story_lifetime (script : Script Demand μ) (turns : List Turn) (m : μ) :
    Story meet Settled [] (lifetime script turns m).diary (part.get (lifetime script turns m)) :=
  story_run (fun turn ↦ keeps_told_mono (fun _ _ ho ↦ ⟨turn, ho⟩) (keeps_act script turn)) turns
    [] m

variable {d : Deal (List Link) Demand} {h : List (Deal (List Link) Demand)} {ls ls' : List Link}
  {i : Nat}

theorem effect_of_honest (hd : Honest meet d) : Effect d.op d.before d.answer d.after := by
  obtain ⟨b, b', hbefore, hrun, hafter⟩ := hd
  obtain ⟨a, b₁, hrun', heffect⟩ := run_meet d.op b
  rw [hrun] at hrun'
  cases hrun'
  rwa [hbefore, hafter] at heffect

/-! ## One link among others -/

/-- One link changes, the others stay. -/
theorem getElem?_modify (f : Link → Link) (ls : List Link) (i j : Nat) :
    ((nth i).modify f ls)[j]? = if i = j then ls[j]?.map f else ls[j]? := by
  show (ls.set i (f (ls.getD i default)))[j]? = _
  rw [List.getElem?_set]
  by_cases hij : i = j
  · subst hij
    by_cases hi : i < ls.length <;> simp [hi]
  · rw [if_neg hij, if_neg hij]

/-- A link of which the mark and the mailboxes agree. -/
structure Sealed (l : Link) : Prop where
  closed : l.terminated = true → ∀ side, (l.box side).closed = true
  tidy : ∀ side, (l.box side).Tidy

/-- The link stays the same one, is not revived, and its closed mailboxes are only emptied. -/
structure Fades (l l' : Link) : Prop where
  id : l'.id = l.id
  terminated : l.terminated = true → l'.terminated = true
  boxes : ∀ side, (l.box side).Fades (l'.box side)

theorem Fades.refl (l : Link) : l.Fades l := ⟨rfl, fun ht ↦ ht, fun _ ↦ .refl _⟩

theorem Fades.trans {l l' l'' : Link} (h : l.Fades l') (h' : l'.Fades l'') : l.Fades l'' :=
  ⟨h'.id.trans h.id, fun ht ↦ h'.terminated (h.terminated ht), fun side ↦
    (h.boxes side).trans (h'.boxes side)⟩

/-- What every change of a link comes to. -/
def Change (f : Link → Link) : Prop := ∀ l, l.Sealed → (f l).Sealed ∧ l.Fades (f l)

/-- Both mailboxes of the link are closed. -/
theorem change_terminate : Change terminate := by
  intro l hl
  have hbox (side : Side) : (terminate l).box side = (l.box side).close := by cases side <;> rfl
  refine ⟨⟨fun _ side ↦ ?_, fun side ↦ ?_⟩, ⟨rfl, fun _ ↦ rfl, fun side ↦ ?_⟩⟩
  · rw [hbox]
    rfl
  · rw [hbox]
    exact (Mailbox.change_close _ (hl.tidy side)).1
  · rw [hbox]
    exact (Mailbox.change_close _ (hl.tidy side)).2

/-- A change of one mailbox is a change of the link. -/
theorem change_box {f : Mailbox → Mailbox} (hf : Mailbox.Change f) (side : Side) :
    Change ((place side).modify f) := by
  intro l hl
  have hterminated : ((place side).modify f l).terminated = l.terminated := terminated_setBox
  have hid : ((place side).modify f l).id = l.id := by cases side <;> rfl
  have hbox (side' : Side) :
      ∃ g, Mailbox.Change g ∧ ((place side).modify f l).box side' = g (l.box side') := by
    by_cases hne : side' = side
    · subst hne
      exact ⟨f, hf, box_setBox_self⟩
    · exact ⟨_, Mailbox.change_id, box_setBox_ne hne⟩
  refine ⟨⟨fun ht side' ↦ ?_, fun side' ↦ ?_⟩, hid, fun ht ↦ hterminated.trans ht, fun side' ↦ ?_⟩
  · obtain ⟨g, hg, heq⟩ := hbox side'
    rw [heq]
    exact ((hg _ (hl.tidy side')).2 (hl.closed (hterminated.symm.trans ht) side')).1
  · obtain ⟨g, hg, heq⟩ := hbox side'
    rw [heq]
    exact (hg _ (hl.tidy side')).1
  · obtain ⟨g, hg, heq⟩ := hbox side'
    rw [heq]
    exact (hg _ (hl.tidy side')).2

/-! ## All links -/

/-- Every link fades. -/
def AllFade (ls ls' : List Link) : Prop :=
  ∀ (i : Nat) (l : Link), ls[i]? = some l → ∃ l', ls'[i]? = some l' ∧ l.Fades l'

theorem AllFade.refl (ls : List Link) : AllFade ls ls := fun _ l hl ↦ ⟨l, hl, .refl l⟩

theorem AllFade.trans {ls'' : List Link} (h : AllFade ls ls') (h' : AllFade ls' ls'') :
    AllFade ls ls'' := by
  intro i l hl
  obtain ⟨l', hl', hf⟩ := h i l hl
  obtain ⟨l'', hl'', hf'⟩ := h' i l' hl'
  exact ⟨l'', hl'', hf.trans hf'⟩

/-- A change of one link. -/
theorem Change.nth {f : Link → Link} (hf : Change f) (hls : ∀ l ∈ ls, l.Sealed) (i : Nat) :
    (∀ l ∈ (nth i).modify f ls, l.Sealed) ∧ AllFade ls ((nth i).modify f ls) := by
  constructor
  · intro l hl
    obtain ⟨j, hj⟩ := List.mem_iff_getElem?.1 hl
    rw [getElem?_modify] at hj
    split at hj
    · obtain ⟨l₀, hl₀, rfl⟩ := Option.map_eq_some_iff.1 hj
      exact (hf l₀ (hls l₀ (List.mem_of_getElem? hl₀))).1
    · exact hls l (List.mem_of_getElem? hj)
  · intro j l hl
    rw [getElem?_modify]
    split
    · rw [hl]
      exact ⟨f l, rfl, (hf l (hls l (List.mem_of_getElem? hl))).2⟩
    · exact ⟨l, hl, .refl l⟩

/-- A new link is in order, and nothing happens to the others. -/
theorem fade_append (hls : ∀ l ∈ ls, l.Sealed) (n : WorkerId) :
    (∀ l ∈ ls ++ [({ id := n } : Link)], l.Sealed) ∧ AllFade ls (ls ++ [{ id := n }]) := by
  constructor
  · intro l hl
    rcases List.mem_append.1 hl with hl | hl
    · exact hls l hl
    · obtain rfl := List.mem_singleton.1 hl
      exact ⟨nofun, fun side ↦ by cases side <;> nofun⟩
  · intro i l hl
    exact ⟨l, by rw [List.getElem?_append_left (List.getElem?_eq_some_iff.1 hl).1, hl], .refl l⟩

/-- Every operation lets links fade. -/
theorem Effect.fade {q : Demand} {a : Answer} (he : Effect q ls a ls') (hls : ∀ l ∈ ls, l.Sealed) :
    (∀ l ∈ ls', l.Sealed) ∧ AllFade ls ls' := by
  cases he with
  | same => exact ⟨hls, .refl ls⟩
  | added => exact fade_append hls _
  | ended => exact change_terminate.nth hls _
  | changed _ _ hf => exact (change_box hf _).nth hls _

/-- And so does the end of a drain. -/
theorem Settled.fade (hs : Settled ls ls') (hls : ∀ l ∈ ls, l.Sealed) :
    (∀ l ∈ ls', l.Sealed) ∧ AllFade ls ls' := by
  obtain ⟨turn, hs⟩ := hs
  cases turn with
  | ask => exact hs.elim
  | drain target =>
    obtain ⟨n, rfl⟩ := hs
    exact (change_box (Mailbox.change_settle n) _).nth hls _

/-! ## Who has terminated a link -/

/-- The operation terminates that link. -/
def Ends (i : Nat) (d : Deal (List Link) Demand) : Prop :=
  d.op.ends? = some i ∧ i < d.before.length

/-- The links that are terminated are those that an operation has terminated. -/
structure Kept (h : List (Deal (List Link) Demand)) (ls : List Link) : Prop where
  flags : ∀ i l, ls[i]? = some l → (l.terminated = true ↔ ∃ d ∈ h, Ends i d)
  bound : ∀ i, ∀ d ∈ h, Ends i d → i < ls.length

theorem Kept.modify {f : Link → Link} (hk : Kept h ls)
    (hf : ∀ l, (f l).terminated = l.terminated) (j : Nat) : Kept h ((nth j).modify f ls) := by
  refine ⟨fun i l hl ↦ ?_, fun i d hd he ↦ ?_⟩
  · rw [getElem?_modify] at hl
    split at hl
    · obtain ⟨l₀, hl₀, rfl⟩ := Option.map_eq_some_iff.1 hl
      rw [hf]
      exact hk.flags i l₀ hl₀
    · exact hk.flags i l hl
  · show i < (ls.set j _).length
    rw [List.length_set]
    exact hk.bound i d hd he

theorem Kept.append (hk : Kept h ls) (n : WorkerId) : Kept h (ls ++ [{ id := n }]) := by
  refine ⟨fun i l hl ↦ ?_, fun i d hd he ↦ ?_⟩
  · rcases Nat.lt_or_ge i ls.length with hi | hi
    · rw [List.getElem?_append_left hi] at hl
      exact hk.flags i l hl
    · rw [List.getElem?_append_right hi] at hl
      -- the new link, which nobody can have terminated before it was there
      obtain rfl := List.mem_singleton.1 (List.mem_of_getElem? hl)
      refine ⟨nofun, fun ⟨d, hd, he⟩ ↦ ?_⟩
      have := hk.bound i d hd he
      omega
  · have := hk.bound i d hd he
    simp only [List.length_append, List.length_singleton]
    omega

theorem Kept.concat (hk : Kept h ls) (hd : d.op.ends? = none) : Kept (h ++ [d]) ls := by
  have hnot (i : Nat) : ¬ Ends i d := by
    rintro ⟨he, -⟩
    rw [hd] at he
    cases he
  refine ⟨fun i l hl ↦ ?_, fun i e he hends ↦ ?_⟩
  · rw [hk.flags i l hl]
    simp [hnot]
  · rcases List.mem_append.1 he with he | he
    · exact hk.bound i e he hends
    · exact absurd (List.mem_singleton.1 he ▸ hends) (hnot i)

theorem Kept.terminate (hk : Kept h d.before) (hd : d.op.ends? = some i) :
    Kept (h ++ [d]) ((nth i).modify Link.terminate d.before) := by
  have hlength : ((nth i).modify Link.terminate d.before).length = d.before.length :=
    List.length_set
  refine ⟨fun j l hl ↦ ?_, fun j e he hends ↦ ?_⟩
  · rw [getElem?_modify] at hl
    split at hl
    · rename_i hij
      subst hij
      obtain ⟨l₀, hl₀, rfl⟩ := Option.map_eq_some_iff.1 hl
      exact ⟨fun _ ↦ ⟨d, by simp, hd, (List.getElem?_eq_some_iff.1 hl₀).1⟩, fun _ ↦ rfl⟩
    · rename_i hij
      have hnot : ¬ Ends j d := fun ⟨he, _⟩ ↦ hij (by rw [hd] at he; exact Option.some_inj.1 he)
      rw [hk.flags j l hl]
      simp [hnot]
  · rw [hlength]
    rcases List.mem_append.1 he with he | he
    · exact hk.bound j e he hends
    · obtain rfl := List.mem_singleton.1 he
      exact hends.2

/-- An operation terminates no link but the one that it says. -/
theorem Kept.deal (hk : Kept h d.before) (hd : Honest meet d) : Kept (h ++ [d]) d.after := by
  have heffect := effect_of_honest hd
  generalize hafter : d.after = ls at heffect
  cases heffect with
  | same he => exact hk.concat he
  | added he => exact (hk.concat he).append _
  | ended he => exact hk.terminate he
  | changed he => exact (hk.concat he).modify (fun _ ↦ terminated_setBox) _

theorem kept_of_story (hs : Story meet Settled [] h ls) : Kept h ls := by
  induction hs with
  | refl => exact ⟨by simp, by simp⟩
  | own _ ho ih =>
    obtain ⟨turn, ho⟩ := ho
    cases turn with
    | ask => exact ho.elim
    | drain target =>
      obtain ⟨n, rfl⟩ := ho
      exact ih.modify (fun _ ↦ terminated_setBox) _
  | deal _ hd ih => exact ih.deal hd

/-- An operation that terminates a link is told whether the link was not terminated before. -/
theorem answer_of_ends (hd : Honest meet d) (he : Ends i d) :
    ∃ l, d.before[i]? = some l ∧ d.answer = .flag !l.terminated := by
  have heffect := effect_of_honest hd
  obtain ⟨hends, hi⟩ := he
  generalize d.after = ls at heffect
  cases heffect with
  | ended he _ ha =>
    rw [hends] at he
    cases he
    refine ⟨d.before.get ⟨i, hi⟩, List.getElem?_eq_getElem hi, ?_⟩
    rw [ha, List.getD_eq_getElem?_getD, List.getElem?_eq_getElem hi]
    rfl
  | same he | added he | changed he =>
    rw [hends] at he
    cases he

/-! ## Links that nobody turns to -/

/-- A link that nobody turns to stays as it is. -/
theorem Effect.frame {q : Demand} {a : Answer} {l : Link} (he : Effect q ls a ls')
    (hq : q.link? ≠ some i) (hl : ls[i]? = some l) : ls'[i]? = some l := by
  have hother {j : Nat} (hj : q.link? = some j) : j ≠ i := fun h ↦ hq (h ▸ hj)
  cases he with
  | same => exact hl
  | added => rw [List.getElem?_append_left (List.getElem?_eq_some_iff.1 hl).1, hl]
  | ended _ hj => rw [getElem?_modify, if_neg (hother hj), hl]
  | changed _ hj =>
    show ((nth _).modify _ ls)[i]? = _
    rw [getElem?_modify, if_neg (hother hj), hl]

/-- In a turn that does not name a link, only an operation that does changes it. -/
theorem frame_of_story {turn : Turn} {l : Link} (hs : Story meet turn.Own ls h ls')
    (hturn : turn.link? ≠ some i) (hh : ∀ d ∈ h, d.op.link? ≠ some i) (hl : ls[i]? = some l) :
    ls'[i]? = some l := by
  induction hs with
  | refl => exact hl
  | own _ ho ih =>
    cases turn with
    | ask => exact ho.elim
    | drain target =>
      obtain ⟨n, rfl⟩ := ho
      show ((nth _).modify _ _)[i]? = _
      rw [getElem?_modify, if_neg fun h ↦ hturn (congrArg some h), ih hh]
  | deal _ hd ih =>
    exact (effect_of_honest hd).frame (hh _ (by simp)) (ih fun e he ↦ hh e (by simp [he]))

/-- **A terminated link is closed for good and can only be emptied.**  Take any script and any run
of operations and drains on any number of links.  In every state both mailboxes of a terminated
link are closed.  From any state to any later one links keep their numbers, are not revived, and a
closed mailbox stays closed and holds the end of what it held.  Of all operations that terminate a
link exactly the first is told so.  A link that a turn does not name stays as it is, unless a
callback names it. -/
theorem terminated_links_only_empty (script : Script Demand μ) (turns : List Turn) (m : μ) :
    (∀ ls ∈ seen (lifetime script turns m).diary (part.get (lifetime script turns m)), ∀ l ∈ ls,
      l.terminated = true → ∀ side, (l.box side).closed = true) ∧
    (seen (lifetime script turns m).diary (part.get (lifetime script turns m))).Pairwise AllFade ∧
    (∀ h₁ d h₂ i, (lifetime script turns m).diary = h₁ ++ d :: h₂ → Ends i d →
      ∃ first, d.answer = .flag first ∧ (first = true ↔ ∀ e ∈ h₁, ¬ Ends i e)) ∧
    ∀ turn : Turn, ∃ h,
      (lifetime script (turns ++ [turn]) m).diary = (lifetime script turns m).diary ++ h ∧
      ∀ i l, turn.link? ≠ some i → (∀ d ∈ h, d.op.link? ≠ some i) →
        (part.get (lifetime script turns m))[i]? = some l →
        (part.get (lifetime script (turns ++ [turn]) m))[i]? = some l := by
  have hstory := story_lifetime script turns m
  obtain ⟨hsealed, hfade⟩ := hstory.seen (I := fun ls ↦ ∀ l ∈ ls, l.Sealed) AllFade.refl
    (fun _ _ _ ↦ AllFade.trans) (fun hi ho ↦ Settled.fade ho hi)
    (fun _ hi hd ↦ (effect_of_honest hd).fade hi) (by simp)
  refine ⟨fun ls hls l hl ↦ (hsealed ls hls l hl).closed, hfade, fun h₁ d h₂ i heq hends ↦ ?_,
    fun turn ↦ ?_⟩
  · rw [heq] at hstory
    obtain ⟨hbefore, hd, -⟩ := hstory.split
    obtain ⟨l, hl, hanswer⟩ := answer_of_ends hd hends
    refine ⟨_, hanswer, ?_⟩
    rw [Bool.not_eq_true', ← Bool.not_eq_true, (kept_of_story hbefore).flags i l hl]
    simp
  · obtain ⟨h, hdiary, hs⟩ := told_next (keeps_act script turn) (lifetime script turns m)
    have hnext : lifetime script (turns ++ [turn]) m =
        next (turn.act script) (lifetime script turns m) := by
      rw [lifetime, Trial.run, List.foldl_append]
      rfl
    rw [hnext]
    exact ⟨h, hdiary, fun i l hturn hh ↦ frame_of_story hs hturn hh⟩

/-! ## A last message -/

/-- A script whose callbacks terminate the first link, try to post to it, take the callback away,
post to the second link and fail. -/
def farewell : Script Demand Unit := fun _ _ _ ↦
  .ask (.op (.terminate 0) rfl) fun _ ↦ .ask (.push ⟨0, .inbox⟩ ⟨"null"⟩) fun _ ↦
    .ask (.op (.box ⟨0, .inbox⟩ (.listen none)) rfl) fun _ ↦ .ask (.push ⟨1, .outbox⟩ ⟨"null"⟩)
      fun _ ↦
      .done ((), .failed (.uncaught "over"))

/-- Two links; the first has two messages, which are drained, and is terminated again. -/
def farewellTurns : List Turn :=
  [.ask (.op .new rfl), .ask (.op .new rfl), .ask (.push ⟨0, .inbox⟩ ⟨"null"⟩),
    .ask (.push ⟨0, .inbox⟩ ⟨"null"⟩), .ask (.op (.box ⟨0, .inbox⟩ (.listen (some 5))) rfl),
    .drain ⟨0, .inbox⟩, .ask (.op (.terminate 0) rfl)]

/-- The link is terminated in the middle of its own drain, while it still holds both messages.  The
callback is told that it was the first.  In the end one message is left, and the one for the other
link has arrived. -/
theorem farewell_fades : ∃ h₁ d h₂, (lifetime farewell farewellTurns ()).diary = h₁ ++ d :: h₂ ∧
    Ends 0 d ∧ d.answer = .flag true ∧ (∀ e ∈ h₁, ¬ Ends 0 e) ∧
    d.after.map (·.inbox.items.length) = [2, 0] ∧
    AllFade d.after (part.get (lifetime farewell farewellTurns ())) ∧
    (part.get (lifetime farewell farewellTurns ())).map (fun l ↦
      (l.terminated, l.inbox.items.length, l.outbox.items.length)) =
        [(true, 1, 0), (false, 0, 1)] := by
  obtain ⟨-, hfade, hfirst, -⟩ := terminated_links_only_empty farewell farewellTurns ()
  obtain ⟨h₁, d, h₂, hdiary, hends, hanswer, hitems⟩ : ∃ h₁ d h₂,
      (lifetime farewell farewellTurns ()).diary = h₁ ++ d :: h₂ ∧ Ends 0 d ∧
      d.answer = .flag true ∧ d.after.map (·.inbox.items.length) = [2, 0] :=
    ⟨[_, _, _, _, _], _, _, rfl, ⟨rfl, by decide⟩, rfl, rfl⟩
  obtain ⟨first, ha, hnone⟩ := hfirst h₁ d h₂ 0 hdiary hends
  rw [hanswer] at ha
  cases ha
  refine ⟨h₁, d, h₂, hdiary, hends, hanswer, hnone.1 rfl, hitems, ?_, rfl⟩
  have hmem : d.after ∈ (lifetime farewell farewellTurns ()).diary.flatMap
      fun d ↦ [d.before, d.after] :=
    List.mem_flatMap.2 ⟨d, by rw [hdiary]; simp, by simp⟩
  exact (List.pairwise_append.1 hfade).2.2 d.after hmem _ (by simp)

end Link

end ScriptWorkers
