import RefWatch.Dispatch

namespace RefWatch

namespace Field.Checked

variable {α β : Type} {x : Checked α} {b : β}

theorem map_eq_ok_iff {f : α → β} : f <$> x = ok b ↔ ∃ a, x = ok a ∧ f a = b := by
  cases x <;> simp [Functor.map, Checked.map]

theorem ap_eq_ok_iff {f : Checked (α → β)} :
    f <*> x = ok b ↔ ∃ g a, f = ok g ∧ x = ok a ∧ g a = b :=
  seq_eq_ok_iff

theorem under_eq_ok_iff {s : Step} {a : α} {x : Checked α} : x.under s = ok a ↔ x = ok a := by
  cases x <;> simp [under]

end Field.Checked

namespace Payload

open RefWatch.Field Checked

variable {k : EventKind} {ms : Json.Members} {c : Change} {p : Payload} {body : ByteArray}

theorem Change.kind_of_ofMembers (h : Change.ofMembers k ms = ok c) : c.kind = k := by
  cases k
  case create =>
    obtain ⟨t, -, rfl⟩ := map_eq_ok_iff.mp h
    rfl
  case delete =>
    cases h
    rfl
  case push =>
    obtain ⟨f, deleted, hf, -, rfl⟩ := ap_eq_ok_iff.mp h
    obtain ⟨g, created, hg, -, rfl⟩ := ap_eq_ok_iff.mp hf
    obtain ⟨i, head, hi, -, rfl⟩ := ap_eq_ok_iff.mp hg
    obtain ⟨after, -, rfl⟩ := map_eq_ok_iff.mp hi
    rfl

theorem kind_of_ofMembers (h : ofMembers k ms = ok p) : p.kind = k := by
  obtain ⟨f, subject, hf, -, rfl⟩ := ap_eq_ok_iff.mp h
  obtain ⟨g, change, hg, hc, rfl⟩ := ap_eq_ok_iff.mp hf
  obtain ⟨ref, -, rfl⟩ := map_eq_ok_iff.mp hg
  exact Change.kind_of_ofMembers hc

theorem decode_eq_ok_iff_document : decode k body = .ok p ↔ document (ofJson k) body = ok p := by
  unfold decode
  cases document (ofJson k) body
  case ok q =>
    change Except.ok q = Except.ok p ↔ _
    simp
  case wrong problem =>
    change Except.error problem.count = Except.ok p ↔ _
    simp

theorem decode_eq_ok_iff :
    decode k body = .ok p ↔
      ∃ ms, Json.readBytes .body body = .ok (.object ms) ∧ ofMembers k ms = ok p := by
  rw [decode_eq_ok_iff_document, document]
  cases Json.readBytes .body body
  case error f => simp [flaw]
  case ok j => cases j <;> simp [ofJson, object, flaw]

theorem kind_of_decode (h : decode k body = .ok p) : p.kind = k :=
  have ⟨_, _, read⟩ := decode_eq_ok_iff.mp h
  kind_of_ofMembers read

end Payload

namespace Dispatch

variable {σ : Type} {al : Aliases} {n : Notification} {e f : HeadEvent}

-- What is known of the event of a notification.
structure Made (al : Aliases) (n : Notification) (e : HeadEvent) : Prop where
  payload    : n.payload = .ok e.payload
  kind       : e.kind = n.kind
  changeType : e.changeType = e.payload.changeType
  host       : hostOf e.payload.subject = some e.repository.host
  owner      : e.repository.owner = e.payload.subject.ownerName.getD ""
  name       : e.repository.name = e.payload.subject.name.getD ""
  origin     : e.origin = n.origin
  received   : e.received = n.received.assumeUtc
  aware      : e.received.isAware
  aliases    : e.aliases = al

theorem made_iff :
    Made al n e ↔
      ∃ p host, n.payload = .ok p ∧ hostOf p.subject = some host ∧ e = eventOf n al p host := by
  constructor
  case mp =>
    intro h
    refine ⟨e.payload, e.repository.host, h.payload, h.host, ?_⟩
    rw [eventOf, repositoryOf, ← h.owner, ← h.name, ← h.origin, ← h.received, ← h.aliases, ← h.changeType]
  case mpr =>
    rintro ⟨p, host, hp, hh, rfl⟩
    exact {
      payload := hp
      kind := Payload.kind_of_decode hp
      changeType := rfl
      host := hh
      owner := rfl
      name := rfl
      origin := rfl
      received := rfl
      aware := Timestamp.isAware_assumeUtc n.received
      aliases := rfl
    }

theorem Made.eq_iff (h : Made al n e) : Made al n f ↔ f = e := by
  constructor
  case mp =>
    intro h'
    obtain ⟨p, host, hp, hh, rfl⟩ := made_iff.mp h
    obtain ⟨q, host', hq, hh', rfl⟩ := made_iff.mp h'
    cases hp.symm.trans hq
    cases hh.symm.trans hh'
    rfl
  case mpr =>
    rintro rfl
    exact h

def Undecodable (n : Notification) : Prop := ∃ faults, n.payload = .error faults

def Hostless (n : Notification) : Prop := ∃ p, n.payload = .ok p ∧ hostOf p.subject = none

theorem Undecodable.not_made (h : Undecodable n) : ¬Made al n e := by
  obtain ⟨faults, h⟩ := h
  exact fun m => by cases h.symm.trans m.payload

theorem Undecodable.not_hostless (h : Undecodable n) : ¬Hostless n := by
  obtain ⟨faults, h⟩ := h
  rintro ⟨p, hp, -⟩
  cases h.symm.trans hp

theorem Hostless.not_made (h : Hostless n) : ¬Made al n e := by
  obtain ⟨p, hp, hh⟩ := h
  intro m
  cases hp.symm.trans m.payload
  cases hh.symm.trans m.host

inductive Reading (al : Aliases) (n : Notification) : Prop
  | undecodable (h : Undecodable n)
  | hostless (h : Hostless n)
  | made (e : HeadEvent) (h : Made al n e)

theorem reading (al : Aliases) (n : Notification) : Reading al n := by
  cases hp : n.payload
  case error faults => exact .undecodable ⟨faults, hp⟩
  case ok p =>
    cases hh : hostOf p.subject
    case none => exact .hostless ⟨p, hp, hh⟩
    case some host => exact .made _ (made_iff.mpr ⟨p, host, hp, hh, rfl⟩)

section

variable (al : Aliases) (arm : HeadEvent → Except String σ)

theorem outcome_of_undecodable (h : Undecodable n) :
    ∃ faults, outcome al arm n = .undecodable faults := by
  obtain ⟨faults, h⟩ := h
  exact ⟨faults, by rw [outcome, h]⟩

theorem outcome_of_hostless (h : Hostless n) : ∃ url, outcome al arm n = .badUrl url := by
  obtain ⟨p, hp, hh⟩ := h
  exact ⟨p.subject.webUrl, by simp only [outcome, hp, hh]⟩

variable {al}

theorem outcome_of_made (h : Made al n e) :
    outcome al arm n =
      match arm e with
      | .error text => .refused e text
      | .ok armed => .scheduled e armed := by
  obtain ⟨p, host, hp, hh, rfl⟩ := made_iff.mp h
  cases ha : arm (eventOf n al p host) <;> simp only [outcome, hp, hh, ha]

theorem outcome_of_not_made (h : ∀ e, ¬Made al n e) :
    (∃ faults, outcome al arm n = .undecodable faults) ∨ ∃ url, outcome al arm n = .badUrl url := by
  cases reading al n
  case undecodable u => exact .inl (outcome_of_undecodable al arm u)
  case hostless u => exact .inr (outcome_of_hostless al arm u)
  case made e m => exact absurd m (h e)

end

variable {arm : HeadEvent → Except String σ}

-- Only the event of the notification is armed.
theorem outcome_congr {arm' : HeadEvent → Except String σ} (h : ∀ e, Made al n e → arm' e = arm e) :
    outcome al arm' n = outcome al arm n := by
  cases hp : n.payload
  case error faults => simp only [outcome, hp]
  case ok p =>
    cases hh : hostOf p.subject
    case none => simp only [outcome, hp, hh]
    case some host =>
      have m : Made al n (eventOf n al p host) := made_iff.mpr ⟨p, host, hp, hh, rfl⟩
      rw [outcome_of_made arm' m, outcome_of_made arm m, h _ m]

-- A dispatch returns the event of its notification, and only if it is armed.
theorem event?_outcome_eq_some_iff :
    (outcome al arm n).event? = some e ↔ Made al n e ∧ ∃ armed, arm e = .ok armed := by
  cases reading al n
  case undecodable h =>
    obtain ⟨faults, eq⟩ := outcome_of_undecodable al arm h
    simp [eq, Outcome.event?, h.not_made]
  case hostless h =>
    obtain ⟨url, eq⟩ := outcome_of_hostless al arm h
    simp [eq, Outcome.event?, h.not_made]
  case made f h =>
    rw [outcome_of_made arm h, h.eq_iff]
    cases ha : arm f
    case error text =>
      simp only [Outcome.event?, reduceCtorEq, false_iff]
      rintro ⟨rfl, armed, he⟩
      cases ha.symm.trans he
    case ok armed =>
      simp only [Outcome.event?, Option.some.injEq, eq_comm (a := f)]
      exact ⟨fun eq => ⟨eq, armed, eq ▸ ha⟩, And.left⟩

-- Why a notification is dropped, by which events are refused.
def Cause (al : Aliases) (Refused : HeadEvent → Prop) (n : Notification) :
    Metrics.DropReason → Prop
  | .decode => Undecodable n
  | .repositoryUrl => Hostless n
  | .error => ∃ e, Made al n e ∧ Refused e

theorem drop?_outcome_eq_some_iff {r : Metrics.DropReason} :
    (outcome al arm n).drop? = some r ↔ Cause al (fun e => ∃ text, arm e = .error text) n r := by
  cases reading al n
  case undecodable h =>
    obtain ⟨faults, eq⟩ := outcome_of_undecodable al arm h
    cases r <;> simp [eq, Outcome.drop?, Cause, h, h.not_made, h.not_hostless]
  case hostless h =>
    obtain ⟨url, eq⟩ := outcome_of_hostless al arm h
    have decodable : ¬Undecodable n := fun u => u.not_hostless h
    cases r <;> simp [eq, Outcome.drop?, Cause, h, h.not_made, decodable]
  case made e h =>
    have decodable : ¬Undecodable n := fun u => u.not_made h
    have hosted : ¬Hostless n := fun u => u.not_made h
    rw [outcome_of_made arm h]
    cases ha : arm e <;> cases r <;> simp [Outcome.drop?, Cause, h.eq_iff, decodable, hosted, ha]

end Dispatch

end RefWatch
