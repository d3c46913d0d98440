import SignOn.Proofs.Program

/-!
# What is counted

A counter goes up by one for every event that it is about, and by nothing else. Whatever stands in
the records of the applications, requests are counted under the names of the protocols that there
are, and under two more.
-/

namespace SignOn

open Jose

/-- Requests are counted under these names of protocols. -/
def Protocol.labels : List String := all.map name ++ ["unsupported", "unknown"]

namespace Protocol

theorem label_eq (p : Protocol) : p.label ∈ all.map name ∨ p.label = "unsupported" := by
  cases p with
  | unsupported text => exact .inr rfl
  | _ => exact .inl (by decide)

theorem label_mem_labels (p : Protocol) : p.label ∈ labels := by
  rcases p.label_eq with h | h
  · exact List.mem_append_left _ h
  · rw [h]
    decide

/-- A protocol that is read from a record is not unknown. -/
theorem label_ne_unknown (p : Protocol) : p.label ≠ "unknown" := by
  rcases p.label_eq with h | h
  · intro hunknown
    rw [hunknown] at h
    exact absurd h (by decide)
  · rw [h]
    decide

end Protocol

namespace Count

def isDispatch : Count → Bool
  | .dispatch _ _ => true
  | _ => false

def isIssued : Count → Bool
  | .issued _ _ => true
  | _ => false

end Count

/-- How often a counter went up under its labels. -/
def Context.value (c : Context) (k : Count) : Nat := c.counts.count k

/-- How often the counters of a kind went up. -/
def Context.total (c : Context) (kind : Count → Bool) : Nat := c.counts.countP kind

namespace Event

def isRoute : Event → Bool
  | .route _ _ => true
  | _ => false

/-- No application was found for a request. -/
def isUnknown : Event → Bool
  | .route (.error _) _ | .route (.ok none) _ => true
  | _ => false

/-- A request ended so for an application whose protocol has this label. -/
def isDispatched (label : String) (result : DispatchResult) : Event → Bool
  | .route (.ok (some a)) routed =>
    (Protocol.parse a.protocol).label = label ∧ DispatchResult.ofRouted routed = result
  | _ => false

/-- A token was issued. -/
def isIssue : Event → Bool
  | .issue (.ok _) => true
  | _ => false

/-- A token was issued that is signed by an algorithm. -/
def isIssuedBy (a : SignatureAlgorithm) : Event → Bool
  | .issue (.ok i) => i.algorithm = a
  | _ => false

end Event

/-- How counters change by some events. An operation is counted as a success or a failure. A request
is counted once: as unknown, if no application was found, or else under the label of its protocol
and its end. A token is counted if it was issued, under its algorithm. -/
structure Tallies (events : List Event) (before after : Context) : Prop where
  operation : ∀ op succeeded, after.value (.operation op succeeded) =
    before.value (.operation op succeeded) + events.count (.operation op succeeded)
  dispatches : after.total Count.isDispatch =
    before.total Count.isDispatch + events.countP Event.isRoute
  unknown : after.value (.dispatch "unknown" .error) =
    before.value (.dispatch "unknown" .error) + events.countP Event.isUnknown
  dispatched : ∀ label result, ¬(label = "unknown" ∧ result = .error) →
    after.value (.dispatch label result) =
      before.value (.dispatch label result) + events.countP (Event.isDispatched label result)
  issues : after.total Count.isIssued =
    before.total Count.isIssued + events.countP Event.isIssue
  issued : ∀ a, after.value (.issued "JWT" a) =
    before.value (.issued "JWT" a) + events.countP (Event.isIssuedBy a)
  labels : ∀ label result, .dispatch label result ∈ after.counts →
    .dispatch label result ∈ before.counts ∨ label ∈ Protocol.labels

namespace Context

variable {c : Context} {events : List Event}

/-- A kind of counters goes up with the events that are counted as it. -/
theorem total_after {kind : Count → Bool} {about : Event → Bool}
    (h : ∀ e : Event, e.count?.any kind = about e) :
    (c.after events).total kind = c.total kind + events.countP about := by
  rw [total, after, List.countP_append, List.countP_filterMap]
  congr 2
  funext e
  rw [← h]
  cases e.count? <;> rfl

theorem value_after {k : Count} {about : Event → Bool}
    (h : ∀ e : Event, e.count? = some k ↔ about e) :
    (c.after events).value k = c.value k + events.countP about := by
  refine total_after fun e ↦ Bool.eq_iff_iff.2 ?_
  rw [← h, Option.any_eq_true]
  simp

end Context

namespace Event

theorem count?_route (found : Except String (Option App)) (result : Except DispatchError Route) :
    count? (.route found result) =
      some (.dispatch (dispatched found result).1 (dispatched found result).2) := rfl

theorem count?_eq_operation_iff {e : Event} {op : Operation} {succeeded : Bool} :
    e.count? = some (.operation op succeeded) ↔ e = .operation op succeeded := by
  cases e with
  | operation op' succeeded' => simp [count?]
  | route found result => simp [count?_route]
  | issue result => cases result <;> simp [count?]

theorem count?_eq_unknown_iff {e : Event} :
    e.count? = some (.dispatch "unknown" .error) ↔ e.isUnknown := by
  cases e with
  | operation op succeeded => simp [count?, isUnknown]
  | route found result =>
    rw [count?_route]
    match found with
    | .error reason => simp [dispatched, isUnknown]
    | .ok none => simp [dispatched, isUnknown]
    | .ok (some a) => simp [dispatched, isUnknown, Protocol.label_ne_unknown]
  | issue result => cases result <;> simp [count?, isUnknown]

theorem count?_eq_dispatch_iff {e : Event} {label : String} {result : DispatchResult}
    (h : ¬(label = "unknown" ∧ result = .error)) :
    e.count? = some (.dispatch label result) ↔ e.isDispatched label result := by
  cases e with
  | operation op succeeded => simp [count?, isDispatched]
  | route found routed =>
    rw [count?_route]
    match found with
    | .error reason => simpa [dispatched, isDispatched, eq_comm] using h
    | .ok none => simpa [dispatched, isDispatched, eq_comm] using h
    | .ok (some a) => simp [dispatched, isDispatched]
  | issue result => cases result <;> simp [count?, isDispatched]

theorem count?_eq_issued_iff {e : Event} {a : SignatureAlgorithm} :
    e.count? = some (.issued "JWT" a) ↔ e.isIssuedBy a := by
  cases e with
  | operation op succeeded => simp [count?, isIssuedBy]
  | route found result => simp [count?_route, isIssuedBy]
  | issue result => cases result <;> simp [count?, isIssuedBy]

theorem count?_isDispatch (e : Event) : e.count?.any Count.isDispatch = e.isRoute := by
  cases e with
  | operation op succeeded => rfl
  | route found result => rfl
  | issue result => cases result <;> rfl

theorem count?_isIssued (e : Event) : e.count?.any Count.isIssued = e.isIssue := by
  cases e with
  | operation op succeeded => rfl
  | route found result => rfl
  | issue result => cases result <;> rfl

theorem dispatched_fst (found : Except String (Option App))
    (result : Except DispatchError Route) :
    (dispatched found result).1 = "unknown" ∨
      ∃ p : Protocol, (dispatched found result).1 = p.label := by
  -- evaluating the label would read the protocol
  match found with
  | .error _ | .ok none => simp [dispatched]
  | .ok (some a) => exact .inr ⟨.parse a.protocol, by rw [dispatched]⟩

/-- No text of a record becomes a label. -/
theorem label_mem_labels {e : Event} {label : String} {result : DispatchResult}
    (h : e.count? = some (.dispatch label result)) : label ∈ Protocol.labels := by
  cases e with
  | operation op succeeded => simp [count?] at h
  | route found routed =>
    obtain ⟨rfl, -⟩ := Count.dispatch.inj (Option.some.inj (count?_route found routed ▸ h))
    rcases dispatched_fst found routed with hunknown | ⟨p, hp⟩
    · rw [hunknown]
      decide
    · rw [hp]
      exact p.label_mem_labels
  | issue routed => cases routed <;> simp [count?] at h

end Event

theorem Context.tallies_after (c : Context) (events : List Event) :
    Tallies events c (c.after events) where
  operation op succeeded := value_after fun e ↦ by simp [Event.count?_eq_operation_iff]
  dispatches := total_after Event.count?_isDispatch
  unknown := value_after fun e ↦ Event.count?_eq_unknown_iff
  dispatched label result h := value_after fun e ↦ Event.count?_eq_dispatch_iff h
  issues := total_after Event.count?_isIssued
  issued a := value_after fun e ↦ Event.count?_eq_issued_iff
  labels label result h := by
    rcases List.mem_append.1 h with h | h
    · exact .inl h
    · obtain ⟨e, -, he⟩ := List.mem_filterMap.1 h
      exact .inr (Event.label_mem_labels he)

/-- Whatever a program does, it answers what it answers by its calls, and the counters go up by
exactly what happened in their course. -/
theorem Program.run_tallies {α : Type} (p : Program α) (c : Context) :
    (p.run.run c).1 = (p.trace c.appId).1 ∧
      Tallies (p.trace c.appId).2 c (p.run.run c).2 := by
  rw [p.run_yields c.appId c rfl]
  exact ⟨rfl, c.tallies_after _⟩

end SignOn
