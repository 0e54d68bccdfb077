import ScriptWorkers.Proofs.Cloning.Conversion
import ScriptWorkers.Proofs.Refusals.Functions

/-!
# What can be posted

A value can be posted if no function can be reached from it and its conversion comes to its end.
Otherwise the script that posts it gets an error, and no mailbox has changed.

* `Heap.Postable` says which values these are, without looking at how they are
  searched or converted.
* `posted_values_are_function_free_trees` puts the search, the conversion and the functions together
  by which scripts post.
* The conversion does not look at the fields of an array that are no elements.  So a cycle behind
  such a field goes unnoticed (`hidden_cycle_is_posted`).

The message of a value is settled without asking the world for anything (`settles_toMessage`), so a
value that cannot be posted is found out before a mailbox is touched (`play_postMessage`,
`play_workerPost`).
-/

namespace ScriptWorkers
namespace Script

open Relation World

variable {κ α : Type} {finish : WorkerId → Run (World κ) Unit} {me id : WorkerId} {r r' : Realm}
  {w : World κ} {call : Caller} {args : List Value} {v : Value} {stop : Stop}

/-- No function can be reached from the value, and it is a tree for the conversion. -/
structure Heap.Postable (h : Heap) (v : Value) : Prop where
  free : ∀ u, ReflTransGen h.Holds v u → h.isCallable u = false
  tree : h.Tree v

theorem Settles.unique {x : Eval α} {o o' : Except Stop α} {r₁ r₂ : Realm} (h₁ : Settles x r o r₁)
    (h₂ : Settles x r o' r₂) : o = o' :=
  congrArg Prod.fst (Plan.done.inj (h₁.symm.trans h₂))

/-! ## The message of a value -/

section Message

variable (call) (hdata : r.heap.DataOnly v)
include hdata

/-- If a function can be reached, the search complains. -/
theorem settles_toMessage_found
    (hfound : ∃ u, ReflTransGen r.heap.Holds v u ∧ r.heap.isCallable u = true) :
    Settles (toMessage call v) r (.error (.thrown (.object r.heap.size)))
      (r.complained "function could not be cloned") := by
  have hheap : Settles Eval.heap r (.ok r.heap) r := rfl
  refine hheap.bind (Settles.bind_error ?_)
  exact (settles_rejectFunctions call hdata (by simp [searchAllowance])).1 hfound

section Free

variable (hfree : ∀ u, ReflTransGen r.heap.Holds v u → r.heap.isCallable u = false)
include hfree

/-- If there is none and the conversion succeeds, it gives the message. -/
theorem settles_toMessage_ok {j : Option Json} (hj : jsonOf r.heap [] v (r.heap.size + 2) = .ok j) :
    Settles (toMessage call v) r (.ok (j.getD .null)) r := by
  have hheap : Settles Eval.heap r (.ok r.heap) r := rfl
  obtain ⟨seen, hsearch⟩ := (settles_rejectFunctions call hdata
    (n := r.heap.size + searchAllowance) (by simp [searchAllowance])).2 hfree
  refine hheap.bind (hsearch.bind (hheap.bind ?_))
  simp only [hj]
  exact settles_pure _

/-- If it does not succeed, it complains. -/
theorem settles_toMessage_error {text : String}
    (hj : jsonOf r.heap [] v (r.heap.size + 2) = .error text) :
    Settles (toMessage call v) r (.error (.thrown (.object r.heap.size)))
      (r.complained ("TypeError: " ++ text)) := by
  have hheap : Settles Eval.heap r (.ok r.heap) r := rfl
  obtain ⟨seen, hsearch⟩ := (settles_rejectFunctions call hdata
    (n := r.heap.size + searchAllowance) (by simp [searchAllowance])).2 hfree
  refine hheap.bind (hsearch.bind (hheap.bind ?_))
  simp only [hj]
  exact settles_cloneError _

end Free

/-- A value has a message if it can be posted, and otherwise there is an error. -/
theorem settles_toMessage :
    (r.heap.Postable v → ∃ j, Settles (toMessage call v) r (.ok j) r) ∧
    (¬ r.heap.Postable v → ∃ text, Settles (toMessage call v) r
      (.error (.thrown (.object r.heap.size))) (r.complained text)) := by
  have hjson : (∃ j, jsonOf r.heap [] v (r.heap.size + 2) = .ok j) ↔ r.heap.Tree v := by
    rw [exists_jsonOf (by rw [Heap.unseen_nil]; omega)]
    simp
  refine ⟨fun ⟨hfree, htree⟩ ↦ ?_, fun hnot ↦ ?_⟩
  · obtain ⟨j, hj⟩ := hjson.2 htree
    exact ⟨_, settles_toMessage_ok call hdata hfree hj⟩
  · by_cases hfree : ∀ u, ReflTransGen r.heap.Holds v u → r.heap.isCallable u = false
    · cases hj : jsonOf r.heap [] v (r.heap.size + 2) with
      | ok j => exact absurd ⟨hfree, hjson.1 ⟨j, hj⟩⟩ hnot
      | error text => exact ⟨_, settles_toMessage_error call hdata hfree hj⟩
    · refine ⟨_, settles_toMessage_found call hdata ?_⟩
      simpa using hfree

end Message

/-! ## The functions that post -/

theorem play_of_settles {x : Eval α} {o : Except Stop α} (hx : Settles x r o r') :
    play finish me x r w = .ok (o, r') w := by
  rw [play, hx]
  rfl

/-- Posting to the owner ends in the error, and no mailbox has changed. -/
theorem play_postMessage (hx : Settles (toMessage call (argument args 0)) r (.error stop) r') :
    ∃ es, play finish me (postMessage call args) r w =
      .ok (.error stop, r') { w with events := es } := by
  rw [postMessage]
  split
  · exact ⟨_, (play_bind (play_note _)).trans (play_bind_error (play_of_settles hx))⟩
  · exact ⟨w.events, play_bind_error (play_of_settles hx)⟩

/-- The same for posting to a worker. -/
theorem play_workerPost (hid : Settles (workerArgument call args) r (.ok id) r)
    (hheld : (w.scope me).desk.holds id = true)
    (hx : Settles (toMessage call (argument args 1)) r (.error stop) r') :
    ∃ es, play finish me (workerPost call args) r w =
      .ok (.error stop, r') { w with events := es } := by
  have hrest (es : Array (WorkerId × Event)) : play finish me (do
      let id ← workerArgument call args
      if ← Eval.ask (.holds id) then
        let j ← toMessage call (argument args 1)
        Eval.ask (.send id (.ofJson j))
      return Value.undefined) r { w with events := es } = .ok (.error stop, r')
        { w with events := es } := by
    have hask : play finish me (Eval.ask (.holds id)) r { w with events := es } =
        .ok (.ok true, r) { w with events := es } :=
      play_ask (congrArg (EStateM.Result.ok · _) hheld)
    rw [play_bind (play_of_settles hid), play_bind hask]
    exact play_bind_error (play_of_settles hx)
  rw [workerPost]
  split
  · exact ⟨_, (play_bind (play_note _)).trans (hrest _)⟩
  · exact ⟨w.events, hrest w.events⟩

/-- **Values that are posted hold no functions and are trees.**  Take a value from which no field
can be reached that is read by a function.  The search for functions comes to its end if it may go
two levels deeper than there are objects; it fails exactly if a function can be reached, and
otherwise nothing has changed.  The value has a message exactly if no function can be reached and
its conversion meets nothing that cannot stand in a message and nothing inside itself; an object may
be met on several ways.  If it is made of plain objects and of arrays without further fields, it has
no cycles.  If it has no message, a script that posts it to its owner, or to a worker that it holds,
gets an error, and the world is as it was but for what is seen. -/
theorem posted_values_are_function_free_trees (call : Caller) (r : Realm) (v : Value)
    (hdata : r.heap.DataOnly v) :
    (∀ n, r.heap.size + 2 ≤ n →
      ((∃ u, ReflTransGen r.heap.Holds v u ∧ r.heap.isCallable u = true) →
        Settles (rejectFunctions call [] v n) r (.error (.thrown (.object r.heap.size)))
          (r.complained "function could not be cloned")) ∧
      ((∀ u, ReflTransGen r.heap.Holds v u → r.heap.isCallable u = false) →
        ∃ seen, Settles (rejectFunctions call [] v n) r (.ok seen) r)) ∧
    ((∃ j, Settles (toMessage call v) r (.ok j) r) ↔ r.heap.Postable v) ∧
    (¬ r.heap.Postable v → ∃ text, Settles (toMessage call v) r
      (.error (.thrown (.object r.heap.size))) (r.complained text)) ∧
    ((∀ o, ReflTransGen r.heap.Holds v (.object o) → (r.heap.get o).Ordinary) → r.heap.Postable v →
      ∀ u, ReflTransGen r.heap.Holds v u → ¬ TransGen r.heap.Holds u u) ∧
    (¬ r.heap.Postable v → ∀ (finish : WorkerId → Run (World κ) Unit) (me : WorkerId) (w : World κ)
      (args : List Value),
      (argument args 0 = v → ∃ e r' es, play finish me (postMessage call args) r w =
        .ok (.error (.thrown e), r') { w with events := es }) ∧
      ∀ id, Settles (workerArgument call args) r (.ok id) r → (w.scope me).desk.holds id = true →
        argument args 1 = v → ∃ e r' es, play finish me (workerPost call args) r w =
          .ok (.error (.thrown e), r') { w with events := es }) := by
  obtain ⟨hok, herror⟩ := settles_toMessage call hdata
  refine ⟨fun n hn ↦ settles_rejectFunctions call hdata hn, ⟨?_, hok⟩, herror, ?_, ?_⟩
  · rintro ⟨j, hj⟩
    by_contra hnot
    obtain ⟨text, htext⟩ := herror hnot
    cases hj.unique htext
  · exact fun hordinary hpostable u hu ↦ hpostable.tree.acyclic_holds hordinary hu
  · intro hnot finish me w args
    obtain ⟨text, htext⟩ := herror hnot
    refine ⟨?_, fun id hid hheld ↦ ?_⟩
    · rintro rfl
      exact ⟨_, _, play_postMessage htext⟩
    · rintro rfl
      exact ⟨_, _, play_workerPost hid hheld htext⟩

/-! ## Shared objects and hidden cycles -/

/-- Functions that do nothing. -/
def silent : Caller := fun _ _ _ ↦ return .undefined

/-- An array with an object, another object that holds it, and the first one again. -/
def sharing : Realm :=
  { heap := ⟨#[.ofValues [.object 1, .object 2, .object 1],
      { fields := [(.ofString "data", .plain .null)] },
      { fields := [(.ofString "again", .plain (.object 1))] }]⟩ }

/-- An object that is met three times is posted three times. -/
theorem sharing_is_posted : sharing.heap.DataOnly (.object 0) ∧
    ∃ j, Settles (toMessage silent (.object 0)) sharing (.ok j) sharing := by
  have hdata : sharing.heap.DataOnly (.object 0) := Heap.dataOnly_of_forall (by decide)
  have htree : sharing.heap.Tree (.object 0) :=
    ((exists_jsonOf (n := 5) (by rw [Heap.unseen_nil]; decide)).1 ⟨_, rfl⟩).1
  have hfree (u : Value) : sharing.heap.isCallable u = false :=
    Heap.isCallable_of_forall (by decide)
  exact ⟨hdata, (posted_values_are_function_free_trees (κ := Unit) silent sharing _ hdata).2.1.2
    ⟨fun u _ ↦ hfree u, htree⟩⟩

/-- An array with one element and a further field, which holds an object that holds itself. -/
def hoop : Realm :=
  { heap := ⟨#[{ Obj.ofValues [.null] with fields := [(.ofString "extra", .plain (.object 1))] },
      { fields := [(.ofString "self", .plain (.object 1))] }]⟩ }

/-- A cycle can be reached from the array, and yet it is posted. -/
theorem hidden_cycle_is_posted : hoop.heap.DataOnly (.object 0) ∧
    Settles (toMessage silent (.object 0)) hoop (.ok (.arr [.null])) hoop ∧
    ReflTransGen hoop.heap.Holds (.object 0) (.object 1) ∧
    TransGen hoop.heap.Holds (.object 1) (.object 1) := by
  have hdata : hoop.heap.DataOnly (.object 0) := Heap.dataOnly_of_forall (by decide)
  have hfree (u : Value) : hoop.heap.isCallable u = false := Heap.isCallable_of_forall (by decide)
  have hextra : hoop.heap.Holds (.object 0) (.object 1) :=
    ⟨0, .ofString "extra", .all, rfl, rfl, rfl⟩
  have hself : hoop.heap.Holds (.object 1) (.object 1) := ⟨1, .ofString "self", .all, rfl, rfl, rfl⟩
  exact ⟨hdata, settles_toMessage_ok silent hdata (fun u _ ↦ hfree u) rfl, .single hextra,
    .single hself⟩

end Script
end ScriptWorkers
