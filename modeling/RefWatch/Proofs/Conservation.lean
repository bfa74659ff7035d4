import RefWatch.Proofs.Turns

namespace RefWatch.Delivery

open List Metrics

variable {l : Listener} {e : HeadEvent}

namespace Calls

-- All that has been tallied in the calls.
def tallies (l : Listener) (cs : List Call) : List Tally :=
  cs.flatMap fun c => c.told.flatMap (Delivery.tallies l c.event)

-- What each turn preserves.
structure Tallied (l : Listener) (b : Calls) : Prop where
  metrics  : b.metrics.Sound
  calls    : ∀ c ∈ b.made, c.Sound
  readings : ∀ g : Gauge, b.metrics.reading g = (tallies l b.made).countP g.shows
  observed : Metrics.observed b.metrics.lag = b.made.length

variable {b b' : Calls}

theorem tallied_empty (l : Listener) : Tallied l {} where
  metrics := sound_empty
  calls := forall_mem_nil _
  readings g := by
    obtain ⟨f, p⟩ := g
    cases f <;> rfl
  observed := rfl

theorem Tallied.turn (h : Tallied l b) (t : Turn l b b') : Tallied l b' := by
  obtain ⟨metrics, calls, readings, observed⟩ := h
  cases t
  case call a now e r m cs =>
    have ⟨sound, begun⟩ := Call.sound_resume_fresh a now e r
    refine ⟨sound_countAll metrics _, ?_, fun g => ?_, ?_⟩
    · exact forall_mem_append.mpr ⟨calls, forall_mem_singleton.mpr sound⟩
    · rw [reading_countAll metrics, readings g]
      simp [tallies, Call.resume, Call.fresh]
    · rw [observed_countAll metrics, observed, begun, length_append, length_singleton]
  case resume c r m cs ds =>
    have sound : c.Sound := calls c (mem_append_right _ mem_cons_self)
    -- A lag is observed where a call begins, and this one has begun.
    have none : (c.next r).1.countP Step.begins = 0 :=
      countP_eq_zero.mpr fun o ho => by simp [(sound.next r o ho).begins]
    refine ⟨sound_countAll metrics _, fun d hd => ?_, fun g => ?_, ?_⟩
    · rcases mem_append.mp hd with hd | hd
      case inl => exact calls d (mem_append_left _ hd)
      case inr =>
        rcases mem_cons.mp hd with rfl | hd
        · exact sound.resume r
        · exact calls d (mem_append_right _ (mem_cons_of_mem _ hd))
    · rw [reading_countAll metrics, readings g]
      simp only [tallies, Call.resume, flatMap_append, flatMap_cons, countP_append]
      omega
    · rw [observed_countAll metrics, observed, none]
      simp

theorem Tallied.turns (h : Tallied l b) (t : Turns l b b') : Tallied l b' := by
  induction t
  case refl => exact h
  case tail last hi => exact hi.turn last

end Calls

-- What has been delivered to targets of a kind.
def deliveries (t : Target) : Gauge := ⟨.deliveries, fun ls => ls[1]? = some t.name⟩

def failures : Gauge := ⟨.failures, fun _ => true⟩

def branchesAndTags : Gauge := ⟨.heads, fun ls => [RefKind.branch, .tag].any ([·.name] = ls)⟩

theorem countP_deliveries (t : Target) (o : Step) :
    (tallies l e o).countP (deliveries t).shows = o.callback?.toList.countP (· = ⟨t, false⟩) := by
  cases o
  case navigator n r =>
    cases failed : r.failed <;> cases t <;>
      simp [tallies, responseTally, failed, Gauge.shows, deliveries, Step.callback?, Target.name]
  case source s heads r =>
    cases failed : r.failed <;> cases t <;>
      simp [tallies, responseTally, failed, Gauge.shows, deliveries, Step.callback?, Target.name,
        countP_eq_zero]
  all_goals rfl

theorem countP_failures (o : Step) :
    (tallies l e o).countP failures.shows = o.callback?.toList.countP (·.failed) := by
  cases o
  case navigator n r =>
    cases failed : r.failed <;>
      simp [tallies, responseTally, failed, Gauge.shows, failures, Step.callback?]
  case source s heads r =>
    cases failed : r.failed <;>
      simp [tallies, responseTally, failed, Gauge.shows, failures, Step.callback?, countP_eq_zero]
  all_goals rfl

theorem countP_branchesAndTags {o : Step} (single : o.Single) :
    (tallies l e o).countP branchesAndTags.shows =
      o.callback?.toList.countP (·.target = .source) := by
  cases o
  case navigator n r =>
    cases failed : r.failed <;>
      simp [tallies, responseTally, failed, Gauge.shows, branchesAndTags, Step.callback?]
  case source s heads r =>
    obtain ⟨rep, rfl⟩ := length_eq_one_iff.mp single
    have kind : rep.head.kind = .branch ∨ rep.head.kind = .tag := by cases rep.head.kind <;> simp
    cases failed : r.failed <;> rcases kind with kind | kind <;>
      simp [tallies, responseTally, failed, Gauge.shows, branchesAndTags, Step.callback?, kind]
  all_goals rfl

theorem countP_delivers (o : Step) :
    [o].countP Step.delivers = o.callback?.toList.countP (!·.failed) := by
  cases o
  case navigator n r => cases failed : r.failed <;> simp [Step.delivers, Step.callback?, failed]
  case source s heads r => cases failed : r.failed <;> simp [Step.delivers, Step.callback?, failed]
  all_goals rfl

namespace Calls

variable {b : Calls}

-- In quiet, a gauge that moves with callbacks of some kind shows how many of them there have been.
theorem Tallied.reading_eq (h : Tallied l b) (quiet : b.Quiet) {g : Gauge} {p : Callback → Bool}
    (moves : ∀ e o, o.Single → (Delivery.tallies l e o).countP g.shows = o.callback?.toList.countP p) :
    b.metrics.reading g = b.callbacks.countP p := by
  -- Nobody is being called, so that what a call has told is all that it has called.
  have call (c : Call) (hc : c ∈ b.made) :
      (c.told.flatMap (Delivery.tallies l c.event)).countP g.shows = c.callbacks.countP p := by
    rw [Call.callbacks, quiet c hc, Option.toList_none, append_nil, filterMap_eq_flatMap_toList,
      countP_flatMap, countP_flatMap]
    exact congrArg sum (map_congr_left fun o ho => moves c.event o ((h.calls c hc).single o ho))
  rw [h.readings g, tallies, callbacks, countP_flatMap, countP_flatMap]
  exact congrArg sum (map_congr_left call)

theorem countP_source (ks : List Callback) :
    ks.countP (·.target = .source) =
      ks.countP (· = ⟨.source, false⟩) + ks.countP (· = ⟨.source, true⟩) := by
  induction ks
  case nil => rfl
  case cons k ks hi =>
    obtain ⟨t, failed⟩ := k
    cases t <;> cases failed <;> simp [hi] <;> omega

-- A call that returns has told as many as it returns.
theorem Tallied.returns (h : Tallied l b) {c : Call} (hc : c ∈ b.made) {n : Nat} (returns : c.Returns n) :
    n = c.callbacks.countP (!·.failed) := by
  obtain ⟨ended, returned⟩ := returns
  have leads := (h.calls c hc).leads
  rw [ended] at leads
  have told : n = c.told.countP Step.delivers := by
    have concluded := leads rfl
    rw [returned] at concluded
    exact Except.ok.inj concluded
  have none : c.awaited? = none := by rw [Call.awaited?, ended]
  have steps : c.told.countP Step.delivers = (c.told.flatMap fun o => [o]).countP Step.delivers := by
    rw [flatMap_singleton']
  rw [told, Call.callbacks, none, Option.toList_none, append_nil, filterMap_eq_flatMap_toList, steps,
    countP_flatMap, countP_flatMap]
  exact congrArg sum (map_congr_left fun o _ => countP_delivers o)

-- What is counted of calls that have been made.
structure Conserved (b : Calls) : Prop where
  delivered : ∀ t : Target, b.metrics.reading (deliveries t) = b.callbacks.countP (· = ⟨t, false⟩)
  failed    : b.metrics.reading failures = b.callbacks.countP (·.failed)
  resolved  : b.metrics.reading branchesAndTags = b.callbacks.countP (·.target = .source)
  balance   : b.metrics.reading branchesAndTags =
    b.metrics.reading (deliveries .source) + b.callbacks.countP (· = ⟨.source, true⟩)
  observed  : Metrics.observed b.metrics.lag = b.made.length
  returned  : ∀ c ∈ b.made, ∀ n, c.Returns n → n = c.callbacks.countP (!·.failed)

theorem turns_conserved (l : Listener) (b : Calls) (turns : Turns l {} b) (quiet : b.Quiet) :
    Conserved b := by
  have tallied : Tallied l b := (tallied_empty l).turns turns
  have delivered (t : Target) := tallied.reading_eq quiet fun e o _ => countP_deliveries (e := e) t o
  have resolved := tallied.reading_eq quiet fun e o => countP_branchesAndTags (e := e)
  exact {
    delivered
    failed := tallied.reading_eq quiet fun e o _ => countP_failures (e := e) o
    resolved
    balance := by rw [resolved, delivered, countP_source]
    observed := tallied.observed
    returned := fun c hc n => tallied.returns hc
  }

-- Two calls overlap. The listener fails for one of two equal sources, and the other call comes to a
-- source that stops it.
theorem turns_conserved_overlap :
    ∃ b : Calls, Turns (.single .silent) {} b ∧ b.Quiet ∧ b.made.length = 2 ∧
      b.callbacks = [⟨.navigator, false⟩, ⟨.source, true⟩, ⟨.source, false⟩] ∧ Conserved b := by
  let e : HeadEvent := {
    payload :=
      { ref := "refs/heads/main"
        subject :=
          { name := some "widgets", htmlUrl := some "https://github.com/acme/widgets"
            owner := { login := some "acme" } }
        change := .push (some "0123456789abcdef0123456789abcdef01234567") none false false }
    repository := { host := "github.com", owner := "acme", name := "widgets" }
    origin := "unknown"
    received := .ofInstant 1714564800000000
    aliases := Aliases.standard }
  let first : Listener := .single (.failing false true "listener down")
  let a (i : Nat) : Listener := if i = 0 then first else .single .silent
  let source : Source := { owner := "acme", repository := "widgets" }
  let r : Registry := { sources := [source, source], navigators := [{ owner := "acme" }] }
  let c := (Call.fresh a 1714564805000000 e).resume r
  let stopping : Registry :=
    { sources := [{ owner := "acme", repository := "gadgets", api := some "http://[" }] }
  let d := (Call.fresh a 1714564806000000 e).resume stopping
  have turns : Turns (.single .silent) {} _ :=
    .tail (.tail (.tail (.tail (.tail (.tail .refl
      (.call a 1714564805000000 e r _ []))
      (.call a 1714564806000000 e stopping _ [c]))
      (.resume c r _ [] [d]))
      (.resume d stopping _ [c.resume r] []))
      (.resume (c.resume r) r _ [] [d.resume stopping]))
      (.resume ((c.resume r).resume r) r _ [] [d.resume stopping])
  refine ⟨_, turns, ?quiet, rfl, ?callbacks, turns_conserved _ _ turns ?quiet⟩
  case quiet => decide +kernel
  case callbacks => decide +kernel

end Calls

end RefWatch.Delivery
