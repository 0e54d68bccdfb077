import ScriptWorkers.Bench.Mailbox
import ScriptWorkers.Proofs.Guarantee

/-!
# What a drain hands over

A drain hands over the longest prefix of the messages for which a callback is registered.  Before
each message it looks for the callback anew, because the callback of the message before may have
replaced it or taken it away.

* `Callee.Invoked` is one invocation: the callback comes back, or it fails and the
  failure is reported.
* `Handed` is what has been handed over from one state to another, one `Handover` after the other.
  Whatever callbacks do, a drain that comes to its end is such a series, and it has gone on as long
  as it could (`handed_of_walk`).
* An `Editor` tells what callbacks do to the mailbox that is being drained.  Such a drain always
  comes to its end (`Editor.run_walk`), and what is in the mailbox afterwards follows from the edits
  alone (`Handed.get_eq`, `foldl_apply`).
-/

namespace ScriptWorkers

variable {σ : Type}

/-! ## Invocations -/

/-- The callback of a slot has been invoked.  A failure is reported, and that is all. -/
inductive Callee.Invoked (c : Callee σ) (origin : Origin) (slot : Slot) (args : List Json) :
    σ → σ → Prop where
  | returned {s s' : σ} (call : c.call slot args s = .ok (.ok ()) s') :
      Invoked c origin slot args s s'
  | failed {s s₁ s' : σ} {e : ScriptError} (call : c.call slot args s = .ok (.error e) s₁)
    (log : c.log (.uncaught origin e) s₁ = .ok () s') : Invoked c origin slot args s s'

/-- An invocation that comes to its end. -/
theorem Callee.invoked_of_run {c : Callee σ} {origin : Origin} {slot : Slot} {args : List Json}
    {s s' : σ} {u : Unit} (h : c.invoke origin slot args s = .ok u s') :
    c.Invoked origin slot args s s' := by
  obtain ⟨r, s₁, hcall, hrest⟩ := of_run_bind_ok h
  cases r with
  | ok _ =>
    cases hrest
    exact .returned hcall
  | error e => exact .failed hcall hrest

theorem Callee.Invoked.run {c : Callee σ} {origin : Origin} {slot : Slot} {args : List Json}
    {s s' : σ} (h : c.Invoked origin slot args s s') : c.invoke origin slot args s = .ok () s' := by
  cases h with
  | returned hcall =>
    rw [Callee.invoke, run_bind_ok hcall]
    rfl
  | failed hcall hlog =>
    rw [Callee.invoke, run_bind_ok hcall]
    exact hlog

namespace Mailbox

/-! ## Messages one after the other -/

/-- A message, the state in which its turn comes, and the callback that is registered then. -/
structure Handover (σ : Type) where
  state : σ
  slot : Slot
  message : Message

/-- What has been handed over from one state to another: the callback gets an object with the
value of the message as its data.  A message that cannot be read takes its turn as well, but
nobody gets it. -/
inductive Handed (place : Place σ Mailbox) (callee : Callee σ) :
    σ → List (Handover σ) → σ → Prop where
  | done (s : σ) : Handed place callee s [] s
  | delivered {s s₁ s' : σ} {slot : Slot} {m : Message} {v : Json} {rest : List (Handover σ)}
    (registered : (place.get s).callback = some slot) (readable : m.decode = .ok v)
    (invoked : callee.Invoked .message slot [.obj [("data", v)]] s s₁)
    (next : Handed place callee s₁ rest s') : Handed place callee s (⟨s, slot, m⟩ :: rest) s'
  | dropped {s s₁ s' : σ} {slot : Slot} {m : Message} {e : SerializationError}
      {rest : List (Handover σ)}
    (registered : (place.get s).callback = some slot) (unreadable : m.decode = .error e)
    (logged : callee.log (.undecodable e) s = .ok () s₁) (next : Handed place callee s₁ rest s') :
    Handed place callee s (⟨s, slot, m⟩ :: rest) s'

variable {place : Place σ Mailbox} {callee : Callee σ} {s s₁ s' : σ}

/-- A message that was delivered, then the rest. -/
theorem Handed.of_deliver {slot : Slot} {m : Message} {u : Unit} {rest : List (Handover σ)}
    (hslot : (place.get s).callback = some slot) (h : callee.deliver slot m s = .ok u s₁)
    (hrest : Handed place callee s₁ rest s') : Handed place callee s (⟨s, slot, m⟩ :: rest) s' := by
  rw [Callee.deliver] at h
  cases hm : m.decode with
  | ok v =>
    simp only [hm] at h
    exact .delivered hslot hm (Callee.invoked_of_run h) hrest
  | error e =>
    simp only [hm] at h
    exact .dropped hslot hm h hrest

/-- A walk hands over its first messages, and it only stops before the end if no callback
is registered. -/
theorem handed_of_walk : ∀ {ms : List Message} {n : Nat} {s : σ},
    walk place callee ms s = .ok n s' → ∃ given, Handed place callee s given s' ∧ given.length = n ∧
      given.map (·.message) = ms.take n ∧ (n < ms.length → (place.get s').callback = none)
  | [], n, s, h => by
    cases h
    exact ⟨[], .done _, rfl, rfl, fun hlt ↦ absurd hlt (Nat.lt_irrefl 0)⟩
  | m :: rest, n, s, h => by
    rw [walk, run_read_bind] at h
    cases hslot : (place.get s).callback with
    | none =>
      simp only [hslot] at h
      cases h
      exact ⟨[], .done _, rfl, rfl, fun _ ↦ hslot⟩
    | some slot =>
      simp only [hslot] at h
      obtain ⟨_, s₁, hdeliver, h⟩ := of_run_bind_ok h
      obtain ⟨k, s₂, hwalk, h⟩ := of_run_bind_ok h
      cases h
      obtain ⟨given, hgiven, hlength, hmessages, hstop⟩ := handed_of_walk hwalk
      refine ⟨⟨s, slot, m⟩ :: given, .of_deliver hslot hdeliver hgiven, ?_, ?_, fun hlt ↦ ?_⟩
      · rw [List.length_cons, hlength]
      · rw [List.map_cons, hmessages, List.take_succ_cons]
      · exact hstop (Nat.lt_of_succ_lt_succ hlt)

/-! ## Edits -/

/-- What can be done to a mailbox while it is drained. -/
inductive Edit where
  | listen (callback : Option Slot)
  | close
  /-- A post from another thread, which waits for the end of the drain. -/
  | post (m : Message)

namespace Edit

/-- The mailbox after an edit. -/
def apply (b : Mailbox) : Edit → Mailbox
  | listen callback => b.listen callback
  | close => b.close
  | post m => b.pushWaiting m

/-- Whether the mailbox is closed. -/
def closes : Edit → Bool
  | close => true
  | listen _ | post _ => false

/-- What is posted. -/
def message? : Edit → Option Message
  | post m => some m
  | listen _ | close => none

/-- The callback that is registered, or `none` in place of it. -/
def callback? : Edit → Option (Option Slot)
  | listen callback => some callback
  | close | post _ => none

end Edit

/-- The posts that get in when the drain is over: all are given up if the mailbox is closed
meanwhile, and there are no new ones if it has been closed before. -/
def latecomers (b : Mailbox) (edits : List Edit) : List Message :=
  if edits.any Edit.closes then []
  else b.waiting ++ if b.closed then [] else edits.filterMap Edit.message?

/-- Edits leave the messages alone. -/
theorem foldl_apply : ∀ (edits : List Edit) (b : Mailbox), edits.foldl Edit.apply b =
    { items := b.items
      waiting := b.latecomers edits
      closed := b.closed || edits.any Edit.closes
      callback := (edits.filterMap Edit.callback?).getLastD b.callback }
  | [], b => by simp [latecomers]
  | .listen callback :: edits, b => by
    have hlast : Edit.callback? (.listen callback) = some callback := rfl
    rw [List.foldl_cons, foldl_apply edits, List.filterMap_cons_some hlast, List.getLastD_cons]
    rfl
  | .close :: edits, b => by
    rw [List.foldl_cons, foldl_apply edits, List.filterMap_cons_none rfl]
    simp [Edit.apply, close, latecomers, Edit.closes]
  | .post m :: edits, b => by
    rw [List.foldl_cons, foldl_apply edits, List.filterMap_cons_none rfl]
    cases hb : b.closed with
    | true => simp [Edit.apply, pushWaiting, hb, latecomers, Edit.closes]
    | false => simp [Edit.apply, pushWaiting, hb, latecomers, Edit.closes, Edit.message?]

/-- Callbacks come back, possibly with an error, and what they do to the mailbox are edits. -/
structure Editor (place : Place σ Mailbox) (callee : Callee σ) where
  /-- The edits of a call. -/
  edits : Slot → List Json → σ → List Edit
  call : ∀ slot args s, ∃ r s', callee.call slot args s = .ok r s' ∧
    place.get s' = (edits slot args s).foldl Edit.apply (place.get s)
  log : ∀ line s, ∃ s', callee.log line s = .ok () s' ∧ place.get s' = place.get s

namespace Editor

variable (ed : Editor place callee)
include ed

/-- The edits of the callback that gets a message; nobody gets one that cannot be read. -/
def editsOf (g : Handover σ) : List Edit :=
  match g.message.decode with
  | .ok v => ed.edits g.slot [.obj [("data", v)]] g.state
  | .error _ => []

theorem run_invoke (slot : Slot) (args : List Json) (s : σ) : ∃ s',
    callee.invoke .message slot args s = .ok () s' ∧
      place.get s' = (ed.edits slot args s).foldl Edit.apply (place.get s) := by
  obtain ⟨r, s₁, hcall, hget⟩ := ed.call slot args s
  cases r with
  | ok _ => exact ⟨s₁, (Callee.Invoked.returned hcall).run, hget⟩
  | error e =>
    obtain ⟨s₂, hlog, hsame⟩ := ed.log (.uncaught .message e) s₁
    exact ⟨s₂, (Callee.Invoked.failed hcall hlog).run, hsame.trans hget⟩

/-- Whatever callbacks do, a delivery comes to its end. -/
theorem run_deliver (slot : Slot) (m : Message) (s : σ) :
    ∃ s', callee.deliver slot m s = .ok () s' := by
  rw [Callee.deliver]
  cases m.decode with
  | ok v =>
    obtain ⟨s', hinvoke, -⟩ := ed.run_invoke slot [Message.event v] s
    exact ⟨s', hinvoke⟩
  | error e =>
    obtain ⟨s', hlog, -⟩ := ed.log (.undecodable e) s
    exact ⟨s', hlog⟩

/-- Nothing breaks off a walk. -/
theorem run_walk : ∀ (ms : List Message) (s : σ), ∃ n s', walk place callee ms s = .ok n s'
  | [], s => ⟨0, s, rfl⟩
  | m :: rest, s => by
    rw [walk, run_read_bind]
    cases (place.get s).callback with
    | none => exact ⟨0, s, rfl⟩
    | some slot =>
      obtain ⟨s₁, hdeliver⟩ := ed.run_deliver slot m s
      obtain ⟨n, s', hwalk⟩ := run_walk rest s₁
      refine ⟨n + 1, s', ?_⟩
      show (callee.deliver slot m >>= fun _ ↦ _) s = _
      rw [run_bind_ok hdeliver, run_bind_ok hwalk]
      rfl

/-- What an invocation has done to the mailbox are the edits of its callback. -/
theorem get_of_invoked {slot : Slot} {args : List Json}
    (h : callee.Invoked .message slot args s s') :
    place.get s' = (ed.edits slot args s).foldl Edit.apply (place.get s) := by
  obtain ⟨s₁, hinvoke, hget⟩ := ed.run_invoke slot args s
  rw [h.run] at hinvoke
  cases hinvoke
  exact hget

end Editor

/-- What callbacks do to the mailbox, they do one after the other. -/
theorem Handed.get_eq (ed : Editor place callee) {given : List (Handover σ)}
    (h : Handed place callee s given s') :
    place.get s' = (given.flatMap ed.editsOf).foldl Edit.apply (place.get s) := by
  induction h with
  | done s => rfl
  | @delivered s _ _ slot m v _ _ hm hinvoked _ ih =>
    have hedits : ed.editsOf ⟨s, slot, m⟩ = ed.edits slot [.obj [("data", v)]] s := by
      rw [Editor.editsOf, hm]
    rw [List.flatMap_cons, List.foldl_append, hedits, ← ed.get_of_invoked hinvoked, ih]
  | @dropped s s₁ _ _ _ e _ _ hm hlogged _ ih =>
    obtain ⟨s₂, hlog, hsame⟩ := ed.log (.undecodable e) s
    rw [hlog] at hlogged
    cases hlogged
    rw [List.flatMap_cons, Editor.editsOf, hm, List.nil_append, ih, hsame]

/-- **A drain hands over the longest prefix for which a callback is registered.**  Take callbacks
that come back, possibly with an error, and that on each call replace the callback of the mailbox,
close it or make other threads post to it, in any order and number.  Without a callback a drain does
nothing and returns zero.  Otherwise it hands over the messages from the first on, each to the
callback that is registered when its turn comes, until one finds none or there are no more of those
that were there at the start.  It returns how many have taken their turn.  These are gone
afterwards; the posts that have not been given up come after those that are left. -/
theorem drain_hands_over_while_registered (place : Place σ Mailbox)
    (hplace : ∀ b s, place.get (place.set b s) = b) (callee : Callee σ) (ed : Editor place callee)
    (s : σ) :
    ((place.get s).callback = none → drain place callee s = .ok 0 s) ∧
    ((place.get s).callback ≠ none → ∃ given s₁,
      Handed place callee s given s₁ ∧
      given.map (·.message) = (place.get s).items.take given.length ∧
      (given.length < (place.get s).items.length → (place.get s₁).callback = none) ∧
      drain place callee s = .ok given.length (place.modify (·.settle given.length) s₁) ∧
      place.get (place.modify (·.settle given.length) s₁) =
        { items := (place.get s).items.drop given.length ++
            (place.get s).latecomers (given.flatMap ed.editsOf)
          waiting := []
          closed := (place.get s).closed || (given.flatMap ed.editsOf).any Edit.closes
          callback := ((given.flatMap ed.editsOf).filterMap Edit.callback?).getLastD
            (place.get s).callback }) := by
  refine ⟨run_drain_none, fun hsome ↦ ?_⟩
  obtain ⟨slot, hslot⟩ := Option.ne_none_iff_exists'.1 hsome
  obtain ⟨n, s₁, hwalk⟩ := ed.run_walk (place.get s).items s
  obtain ⟨given, hgiven, rfl, hmessages, hstop⟩ := handed_of_walk hwalk
  refine ⟨given, s₁, hgiven, hmessages, hstop, run_drain_ok hslot hwalk, ?_⟩
  rw [Place.modify, hplace, hgiven.get_eq ed, foldl_apply]
  rfl

/-! ## On the bench -/

/-- The edits of reactions.  After a failure there are no more, and a post that is only made to a
closed mailbox is none. -/
def Reaction.edits : List Reaction → List Edit
  | [] => []
  | .fail _ :: _ => []
  | .listen callback :: rest => .listen callback :: edits rest
  | .close :: rest => .close :: edits rest
  | .postAside p :: rest =>
    match Message.encode p with
    | .ok m => .post m :: edits rest
    | .error _ => edits rest
  | .postClosed _ :: rest => edits rest

/-- On the bench, reactions are edits. -/
theorem run_performAll : ∀ (reactions : List Reaction) (b : Bench Mailbox), ∃ r b',
    Bench.performAll react reactions b = .ok r b' ∧
      b'.subject = (Reaction.edits reactions).foldl Edit.apply b.subject
  | [], b => ⟨.ok (), b, rfl, rfl⟩
  | reaction :: rest, b => by
    -- Only a failure keeps the others from their turn.
    have hgo (b₁ : Bench Mailbox) (hreact : react reaction b = .ok (.ok ()) b₁)
        (hedits : (Reaction.edits (reaction :: rest)).foldl Edit.apply b.subject =
          (Reaction.edits rest).foldl Edit.apply b₁.subject) :
        ∃ r b', Bench.performAll react (reaction :: rest) b = .ok r b' ∧
          b'.subject = (Reaction.edits (reaction :: rest)).foldl Edit.apply b.subject := by
      obtain ⟨r, b', hrun, hsubject⟩ := run_performAll rest b₁
      refine ⟨r, b', ?_, hsubject.trans hedits.symm⟩
      rw [Bench.performAll, run_bind_ok hreact]
      exact hrun
    cases reaction with
    | fail text => exact ⟨_, b, rfl, rfl⟩
    | listen callback => exact hgo _ rfl rfl
    | close => exact hgo _ rfl rfl
    | postAside p =>
      cases hp : Message.encode p with
      | ok m =>
        refine hgo { b with subject := b.subject.pushWaiting m } ?_ ?_
        · simp only [react, hp]
          rfl
        · simp only [Reaction.edits, hp]
          rfl
      | error e =>
        refine hgo b ?_ ?_
        · simp only [react, hp]
          rfl
        · simp only [Reaction.edits, hp]
    | postClosed p =>
      refine hgo b ?_ rfl
      rw [react, run_read_bind]
      split
      · rename_i hclosed
        have hpush (m : Message) : b.subject.push m = b.subject := if_pos hclosed
        cases Message.encode p with
        | ok m =>
          show EStateM.Result.ok (Except.ok ()) { b with subject := b.subject.push m } = _
          rw [hpush]
        | error e => rfl
      · rfl

/-- What the rules of a slot do on the next call. -/
def reactions (rules : Rules Reaction) (slot : Slot) (args : List Json) (b : Bench Mailbox) :
    List Reaction :=
  let n := (b.calls.push slot).count slot
  (((rules.lookup slot).getD []).filter (·.guard.holds n args)).flatMap (·.actions)

/-- Callbacks that follow rules only edit the mailbox of their bench. -/
def benchEditor (rules : Rules Reaction) : Editor Bench.part (Bench.callee rules react) where
  edits slot args b := Reaction.edits (reactions rules slot args b)
  call slot args b := run_performAll (reactions rules slot args b)
    ⟨b.subject, b.calls.push slot, b.events.push (.call slot args)⟩
  log line b := ⟨{ b with events := b.events.push (.log line) }, rfl, rfl⟩

/-- The first callback makes another thread post and hands on to the second one, which takes itself
away and fails. -/
def relay : Rules Reaction :=
  [(1, [⟨.always, [.postAside (.json .null), .listen (some 2)]⟩]),
    (2, [⟨.always, [.listen none, .fail "over"]⟩])]

/-- Four messages, of which the second cannot be read. -/
def relayBench : Bench Mailbox :=
  ⟨{ items := [⟨"null"⟩, ⟨"?"⟩, ⟨"null"⟩, ⟨"true"⟩], callback := some 1 }, #[], #[]⟩

/-- Three messages take their turn, and the callbacks get what two of them say.  The last one stays,
and the post comes after it. -/
theorem relay_hands_over_three : ∃ given s₁ s',
    Handed Bench.part (Bench.callee relay react) relayBench given s₁ ∧
    given.map (·.message) = [⟨"null"⟩, ⟨"?"⟩, ⟨"null"⟩] ∧ s₁.subject.callback = none ∧
    drain Bench.part (Bench.callee relay react) relayBench = .ok 3 s' ∧
    s'.subject = { items := [⟨"true"⟩, ⟨"null"⟩] } ∧
    s'.events = #[.call 1 [.obj [("data", .null)]], .log (.undecodable ⟨"malformed text"⟩),
      .call 2 [.obj [("data", .null)]], .log (.uncaught .message (.uncaught "over"))] := by
  obtain ⟨given, s₁, hgiven, hmessages, hstop, hdrain, -⟩ :=
    (drain_hands_over_while_registered Bench.part (fun _ _ ↦ rfl) (Bench.callee relay react)
      (benchEditor relay) relayBench).2 (by decide)
  obtain ⟨s', hrun, hsubject, hevents⟩ : ∃ s',
      drain Bench.part (Bench.callee relay react) relayBench = .ok 3 s' ∧
      s'.subject = { items := [⟨"true"⟩, ⟨"null"⟩] } ∧
      s'.events = #[.call 1 [.obj [("data", .null)]], .log (.undecodable ⟨"malformed text"⟩),
        .call 2 [.obj [("data", .null)]], .log (.uncaught .message (.uncaught "over"))] :=
    ⟨_, rfl, rfl, rfl⟩
  have hlength : given.length = 3 := (EStateM.Result.ok.inj (hdrain.symm.trans hrun)).1
  rw [hlength] at hmessages hstop
  exact ⟨given, s₁, s', hgiven, hmessages, hstop (by decide), hrun, hsubject, hevents⟩

end Mailbox

end ScriptWorkers
