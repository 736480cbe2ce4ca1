import TypeShape.Proofs.Description.EntryPoints
import TypeShape.Proofs.Description.Order

/-!
# What a construction logs

* `describeReferences_append`: references are described one group after the other;
* `Expr.Reports p e q event` — `event` reports the descriptor of what stands at the argument position
  `q` of the expression `e`, which itself stands at `p`;
* `events_describeAt_of_ok`: describing reports every argument position once, arguments first;
* `events_describeAt_of_firstRefused`: if it fails, it reports the positions to the left of the first
  refused form, and then that form.

Main statement: `log_replays_description`.
-/

namespace TypeShape

open Descriptor (listOf mapOf fromExpr)

/-! ### Events of attempts -/

namespace Attempt

variable {α β : Type} {attempt : Attempt α} {a : α} {error : DescribeError}

theorem events_bind_of_ok {next : α → Attempt β} (h : attempt.outcome = .ok a) :
    (attempt.bind next).events = attempt.events ++ (next a).events := by
  rw [bind, h]

theorem events_bind_of_error {next : α → Attempt β} (h : attempt.outcome = .error error) :
    (attempt.bind next).events = attempt.events := by
  rw [bind, h]

theorem map_bind (f : α → β) {γ : Type} (next : β → Attempt γ) :
    (attempt.map f).bind next = attempt.bind fun a => next (f a) := by
  rw [map_eq_bind, bind_assoc]
  simp only [done_bind]

theorem bind_map {γ : Type} (next : α → Attempt β) (f : β → γ) :
    (attempt.bind next).map f = attempt.bind fun a => (next a).map f := by
  simp only [map_eq_bind, bind_assoc]

theorem map_map {γ : Type} (f : α → β) (g : β → γ) :
    (attempt.map f).map g = attempt.map fun a => g (f a) := by
  simp only [map_eq_bind, bind_assoc, done_bind]

theorem map_id : (attempt.map fun a => a) = attempt := by
  rw [map_eq_bind]
  exact bind_done attempt

end Attempt

/-! ### One group of references after the other -/

theorem describeReferences_append (p : Position) (k : Nat) (rs ss : List (Option (Expr Symbol))) :
    describeReferences p k (rs ++ ss) = (describeReferences p k rs).bind fun ds =>
      (describeReferences p (k + rs.length) ss).map (ds ++ ·) := by
  induction rs generalizing k with
  | nil =>
    rw [List.nil_append, describeReferences, Attempt.done_bind, List.length_nil, Nat.add_zero]
    exact Attempt.map_id.symm
  | cons r rs ih =>
    have hk : k + (r :: rs).length = k + 1 + rs.length := by
      rw [List.length_cons]
      omega
    rw [List.cons_append, describeReferences, describeReferences, Attempt.bind_assoc, hk]
    simp only [ih, Attempt.bind_map, Attempt.map_bind, Attempt.map_map, List.cons_append]

/-- A reference that fails behind others that are described ends the events. -/
theorem events_describeReferences_of_error {p : Position} {k : Nat}
    {rs : List (Option (Expr Symbol))} {ds : List (Descriptor Symbol)} {r : Option (Expr Symbol)}
    {error : DescribeError} (hrs : (describeReferences p k rs).outcome = .ok ds)
    (hr : (describeReference (p.child (k + rs.length)) r).outcome = .error error)
    (behind : List (Option (Expr Symbol))) :
    (describeReferences p k (rs ++ r :: behind)).events =
      (describeReferences p k rs).events ++
        (describeReference (p.child (k + rs.length)) r).events := by
  rw [describeReferences_append, Attempt.events_bind_of_ok hrs, describeReferences]
  congr 1
  exact Attempt.events_bind_of_error hr

/-- An absent reference has no event of its own, and nothing behind it is looked at. -/
theorem events_describeReferences_of_absent (p : Position) (k : Nat)
    (rs behind : List (Option (Expr Symbol))) :
    (describeReferences p k (rs ++ none :: behind)).events = (describeReferences p k rs).events := by
  cases h : (describeReferences p k rs).outcome with
  | ok ds =>
    rw [events_describeReferences_of_error h (r := none) rfl behind]
    exact List.append_nil _
  | error error => rw [describeReferences_append, Attempt.events_bind_of_error h]

/-! ### The events of describing -/

/-- **The event reports an argument position** of an expression that stands at the position `p`: it
names the descriptor of what stands there. -/
def Expr.Reports (p : Position) (e : Expr Symbol) (q : List Nat) (event : Event) : Prop :=
  ∃ c d, e.at? q = some c ∧ d.Describes c ∧ event = .described (p ++ ⟨q⟩) d

/-- The same for a position in a list of arguments counted from `k`. -/
def Expr.ReportsAmong (p : Position) (k : Nat) (es : List (Expr Symbol)) (q : List Nat)
    (event : Event) : Prop :=
  ∃ i r e, q = (k + i) :: r ∧ es[i]? = some e ∧ e.Reports (p.child (k + i)) r event

namespace Expr

variable {p : Position} {a : Symbol} {as es : List (Expr Symbol)} {e : Expr Symbol} {i k : Nat}
  {q r : List Nat} {event : Event}

theorem Reports.of_argument (hi : as[i]? = some e) (h : e.Reports (p.child i) r event) :
    (app a as).Reports p (i :: r) event := by
  obtain ⟨c, d, hc, hd, rfl⟩ := h
  exact ⟨c, d, by simpa [arguments, hi] using hc, hd, by rw [Position.child_append]⟩

theorem ReportsAmong.reports (h : ReportsAmong p 0 as q event) : (app a as).Reports p q event := by
  obtain ⟨i, r, e, rfl, hi, hr⟩ := h
  rw [Nat.zero_add] at hr ⊢
  exact hr.of_argument hi

theorem ReportsAmong.append (h : ReportsAmong p k es q event) (behind : List (Expr Symbol)) :
    ReportsAmong p k (es ++ behind) q event := by
  obtain ⟨i, r, x, rfl, hi, hr⟩ := h
  refine ⟨i, r, x, rfl, ?_, hr⟩
  rw [List.getElem?_append_left (List.getElem?_eq_some_iff.1 hi).1, hi]

theorem ReportsAmong.cons (h : ReportsAmong p (k + 1) es q event) :
    ReportsAmong p k (e :: es) q event := by
  obtain ⟨i, r, x, rfl, hi, hr⟩ := h
  rw [Nat.add_right_comm, Nat.add_assoc] at hr ⊢
  exact ⟨i + 1, r, x, rfl, by simpa using hi, hr⟩

end Expr

theorem events_describeArguments_of_forall {es : List (Expr Symbol)}
    (h : ∀ e ∈ es, ∀ p d, (describeAt p e).outcome = .ok d →
      List.Forall₂ (e.Reports p) e.postorder (describeAt p e).events)
    {p : Position} {k : Nat} {ds : List (Descriptor Symbol)}
    (hds : (describeArguments p k es).outcome = .ok ds) :
    List.Forall₂ (Expr.ReportsAmong p k es) (Expr.postorderFrom k es)
      (describeArguments p k es).events := by
  induction es generalizing k ds with
  | nil => exact .nil
  | cons e es ih =>
    obtain ⟨d, ds', hd, hds', rfl⟩ := outcome_describeArguments_cons_eq_ok_iff.1 hds
    rw [describeArguments, Attempt.events_bind_of_ok hd, Expr.postorderFrom]
    -- the events of `e` are at positions that start with `k`, those behind it are counted on
    refine List.rel_append ?_ ?_
    · rw [List.forall₂_map_left_iff]
      refine (h e (List.mem_cons_self ..) (p.child k) d hd).imp fun r event hr => ?_
      exact ⟨0, r, e, rfl, rfl, hr⟩
    · have hes := ih (fun e he => h e (List.mem_cons_of_mem _ he)) hds'
      exact hes.imp fun q event hq => hq.cons

/-- A description that succeeds reports every argument position, arguments first. -/
theorem events_describeAt_of_ok {p : Position} {e : Expr Symbol} {d : Descriptor Symbol}
    (h : (describeAt p e).outcome = .ok d) :
    List.Forall₂ (e.Reports p) e.postorder (describeAt p e).events := by
  induction e using Expr.induct_form generalizing p d with
  | nominal a =>
    refine .cons ⟨.nominal a, .node a [], rfl, .nominal a, ?_⟩ .nil
    rw [← Position.root, Position.append_root]
  | app a as ih =>
    have hd := outcome_describeAt_eq_ok_iff.1 h
    obtain ⟨ds, hds, rfl⟩ := outcome_describeAt_app_eq_ok_iff.1 h
    have hmap : ((describeArguments p 0 as).map (Descriptor.node a)).outcome = .ok (.node a ds) :=
      Attempt.outcome_map_eq_ok_iff.2 ⟨ds, hds, rfl⟩
    have has := events_describeArguments_of_forall (fun e he p d => ih e he) hds
    rw [describeAt, Attempt.reporting, Attempt.events_bind_of_ok hmap, Expr.postorder]
    refine List.rel_append (has.imp fun q event hq => hq.reports) ?_
    refine .cons ⟨.app a as, .node a ds, rfl, hd, ?_⟩ .nil
    rw [← Position.root, Position.append_root]
  | refused e form he =>
    rw [outcome_describeAt_of_refusal? he] at h
    cases h

/-- The events of an application that fails in the argument `e`. -/
theorem events_describeAt_app_of_error {p : Position} {a : Symbol} {before behind : List (Expr Symbol)}
    {e : Expr Symbol} {ds : List (Descriptor Symbol)} {error : DescribeError}
    (hbefore : (describeArguments p 0 before).outcome = .ok ds)
    (he : (describeAt (p.child before.length) e).outcome = .error error) :
    (describeAt p (.app a (before ++ e :: behind))).events =
      (describeArguments p 0 before).events ++ (describeAt (p.child before.length) e).events := by
  have hlen : 0 + (before.map some).length = before.length := by simp
  rw [describeArguments_eq] at hbefore
  have hevents := events_describeReferences_of_error (r := some e) hbefore (by rwa [hlen])
    (behind.map some)
  have hfail : (describeReferences p 0 ((before ++ e :: behind).map some)).outcome = .error error := by
    rw [List.map_append, List.map_cons, describeReferences_append,
      Attempt.outcome_bind_eq_error_iff]
    refine Or.inr ⟨ds, hbefore, ?_⟩
    rw [Attempt.outcome_map_eq_error_iff, outcome_describeReferences_cons_eq_error_iff, hlen]
    exact Or.inl he
  have hnode : ((describeArguments p 0 (before ++ e :: behind)).map (Descriptor.node a)).outcome =
      .error error := by
    rw [Attempt.outcome_map_eq_error_iff, describeArguments_eq]
    exact hfail
  rw [hlen] at hevents
  rw [describeAt, Attempt.reporting, Attempt.events_bind_of_error hnode, describeArguments_eq,
    describeArguments_eq]
  simpa [Attempt.map, describeReference] using hevents

theorem exists_outcome_describeArguments_of_describable {es : List (Expr Symbol)}
    (h : ∀ e ∈ es, e.Describable) (p : Position) (k : Nat) :
    ∃ ds, (describeArguments p k es).outcome = .ok ds := by
  obtain ⟨ds, hds⟩ := exists_forall₂ fun e he => Descriptor.exists_describes_iff.2 (h e he)
  exact ⟨ds, (outcome_describeArguments_eq_ok_iff_of_forall
    (fun e _ p d => outcome_describeAt_eq_ok_iff) p k ds).2 hds⟩

namespace Expr

variable {ρ : Type}

theorem postorder_of_refusal? {e : Expr ρ} {form : Refusal} (h : e.refusal? = some form) :
    e.postorder = [[]] := by
  cases e <;> simp_all [refusal?, postorder]

/-- The arguments around the one that holds the first refused form of an application. -/
theorem FirstRefused.exists_append {a : ρ} {as : List (Expr ρ)} {q : List Nat} {c : Expr ρ}
    (h : (app a as).FirstRefused q c) :
    ∃ before e behind r, as = before ++ e :: behind ∧ q = before.length :: r ∧
      e.FirstRefused r c ∧ ∀ x ∈ before, x.Describable := by
  obtain ⟨i, r, e, rfl, hi, he, hbefore⟩ := firstRefused_app_iff.1 h
  obtain ⟨hlt, rfl⟩ := List.getElem?_eq_some_iff.1 hi
  refine ⟨as.take i, as[i], as.drop (i + 1), r, ?_, ?_, he, ?_⟩
  · rw [← List.drop_eq_getElem_cons hlt, List.take_append_drop]
  · rw [List.length_take_of_le (Nat.le_of_lt hlt)]
  · intro x hx
    obtain ⟨j, hj, rfl⟩ := List.mem_take_iff_getElem.1 hx
    exact hbefore j (by omega) as[j] (List.getElem?_eq_getElem _)

end Expr

/-- A description that fails reports the positions to the left of the first refused form, and then
that form. -/
theorem events_describeAt_of_firstRefused {e c : Expr Symbol} {q : List Nat} {form : Refusal}
    (h : e.FirstRefused q c) (hform : c.refusal? = some form) (p : Position) :
    ∃ steps, (describeAt p e).events = steps ++ [.refused form (c.render .short) (p ++ ⟨q⟩)] ∧
      List.Forall₂ (e.Reports p) (e.postorder.filter (LeftOf · q)) steps := by
  induction e using Expr.induct_form generalizing p q with
  | nominal a => exact absurd h (Expr.not_firstRefused_of_describable (Expr.describable_nominal a))
  | app a as ih =>
    obtain ⟨before, x, behind, r, rfl, rfl, hx, hok⟩ := h.exists_append
    obtain ⟨ds, hds⟩ := exists_outcome_describeArguments_of_describable hok p 0
    have hfail : (describeAt (p.child before.length) x).outcome = .error _ :=
      outcome_describeAt_eq_error_iff.2 ⟨r, c, form, hx, hform, rfl⟩
    obtain ⟨steps, hsteps, hrel⟩ := ih x (by simp) hx (p.child before.length)
    -- the arguments in front are reported whole, and neither what stands behind nor the root is
    refine ⟨(describeArguments p 0 before).events ++ steps, ?_, ?_⟩
    · rw [events_describeAt_app_of_error hds hfail, hsteps, Position.child_append, List.append_assoc]
    · have hroot : [[]].filter (LeftOf · (before.length :: r)) = [] := by
        simp [not_leftOf_nil_left]
      have hfilter := Expr.filter_postorderFrom before x behind 0 r
      have hbefore := events_describeArguments_of_forall (fun e _ p d => events_describeAt_of_ok) hds
      rw [Nat.zero_add] at hfilter
      rw [Expr.postorder, List.filter_append, hfilter, hroot, List.append_nil]
      refine List.rel_append (hbefore.imp fun q event hq => (hq.append _).reports) ?_
      rw [List.forall₂_map_left_iff]
      exact hrel.imp fun s event hs => hs.of_argument (by simp)
  | refused e form' he =>
    obtain ⟨rfl, rfl⟩ := (Expr.firstRefused_iff_of_refusal? he).1 h
    obtain rfl : form' = form := Option.some.inj (he.symm.trans hform)
    refine ⟨[], ?_, ?_⟩
    · rw [describeAt_eq_classify, classify_of_refusal? he, ← Position.root, Position.append_root]
      rfl
    · rw [Expr.postorder_of_refusal? he]
      simp [not_leftOf_nil_left]

/-! ### The log of a call -/

/-- The log records of an attempt. -/
def Attempt.log {α : Type} (attempt : Attempt α) : List LogRecord := attempt.events.map Event.record

/-- The log records of the finest level. -/
def Attempt.traces {α : Type} (attempt : Attempt α) : List LogRecord :=
  attempt.log.filter fun record => record.level = .trace

/-- **The record logs an argument position**: it names the position and the short rendering of the
descriptor of what stands there. -/
def Expr.Logs (e : Expr Symbol) (q : List Nat) (record : LogRecord) : Prop :=
  ∃ c d, e.at? q = some c ∧ (describe c).outcome = .ok d ∧
    record = ⟨.trace, "type_token::decompose",
      [("message", .text "decomposed type expression"),
       ("position", .text (Position.mk q).render), ("token", .text (d.render .short))]⟩

/-- What is logged of a root that has been described. -/
def rootTraces : Except DescribeError (Descriptor Symbol) → List LogRecord
  | .ok d => [(Event.described .root d).record]
  | .error _ => []

theorem Expr.Reports.logs {e : Expr Symbol} {q : List Nat} {event : Event}
    (h : e.Reports .root q event) : e.Logs q event.record := by
  obtain ⟨c, d, hc, hd, rfl⟩ := h
  exact ⟨c, d, hc, outcome_describeAt_eq_ok_iff.2 hd, rfl⟩

theorem events_reportEnd_of_ok {entry : EntryPoint} {attempt : Attempt (Descriptor Symbol)}
    {d : Descriptor Symbol} (h : attempt.outcome = .ok d) :
    (reportEnd entry attempt).events = attempt.events ++ [.built entry d] := by
  rw [reportEnd, h]

theorem events_reportEnd_of_error {entry : EntryPoint} {attempt : Attempt (Descriptor Symbol)}
    {error : DescribeError} (h : attempt.outcome = .error error) :
    (reportEnd entry attempt).events = attempt.events ++ [.failed entry error] := by
  rw [reportEnd, h]

theorem traces_reportEnd (entry : EntryPoint) (attempt : Attempt (Descriptor Symbol)) :
    (reportEnd entry attempt).traces = attempt.traces := by
  cases h : attempt.outcome with
  | ok d => simp [Attempt.traces, Attempt.log, events_reportEnd_of_ok h, Event.record]
  | error error => simp [Attempt.traces, Attempt.log, events_reportEnd_of_error h, Event.record]

/-- An application as an expression logs what the symbol applied to its arguments logs, and then the
root. -/
theorem traces_describe_app (a : Symbol) (es : List (Expr Symbol)) :
    (describe (.app a es)).traces = (describeApplication a (es.map some) .root).traces ++
      rootTraces (describe (.app a es)).outcome := by
  have happ : (describe (.app a es)) =
      (describeApplication a (es.map some) .root).reporting (.described .root) := by
    rw [describe, describeAt, describeApplication, describeArguments_eq]
  rw [happ, Attempt.outcome_reporting, Attempt.traces, Attempt.log, Attempt.reporting]
  cases h : (describeApplication a (es.map some) .root).outcome with
  | ok d =>
    rw [Attempt.events_bind_of_ok h, List.map_append, List.filter_append]
    rfl
  | error error =>
    rw [Attempt.events_bind_of_error h]
    exact (List.append_nil _).symm

/-- **The log of a construction replays the description.**

* The argument positions of an expression are listed once each, every one behind those below it and
  to its left.
* A construction that succeeds logs each of them in this order, and then its result.
* A construction that fails logs the positions to the left of the one in its error, in the same order,
  then the refused form with the text, position and kind of the error, and then the error.
* Lists and maps whose arguments are present log, on the level of traces, what the application as an
  expression logs, but not the root.
* An absent argument adds nothing to the log, and nothing behind it is looked at. -/
theorem log_replays_description :
    (∀ e : Expr Symbol,
      (∀ q, q ∈ e.postorder ↔ (e.at? q).isSome) ∧ e.postorder.Pairwise Earlier) ∧
    (∀ e d, (describe e).outcome = .ok d → ∃ steps, List.Forall₂ e.Logs e.postorder steps ∧
      (fromExpr e).log = steps ++ [⟨.debug, "type_token::token",
        [("message", .text "built type token"), ("entry_point", .text "from_expr"),
         ("token", .text (d.render .short))]⟩]) ∧
    (∀ e error, (describe e).outcome = .error error → ∃ form text q steps,
      error = .unsupported form text ⟨q⟩ ∧
      List.Forall₂ e.Logs (e.postorder.filter (LeftOf · q)) steps ∧
      (fromExpr e).log = steps ++
        [⟨.trace, "type_token::validate",
          [("message", .text "rejecting type expression"), ("expr", .text text),
           ("position", .text (Position.mk q).render), ("kind", .text form.tag)]⟩,
         ⟨.debug, "type_token::token",
          [("message", .text "type token construction failed"), ("entry_point", .text "from_expr"),
           ("error", .text error.message)]⟩]) ∧
    (∀ e, (fromExpr (.app Builtin.list [e])).traces =
      (listOf (some e)).traces ++ rootTraces (describe (.app Builtin.list [e])).outcome) ∧
    (∀ k v, (fromExpr (.app Builtin.map [k, v])).traces =
      (mapOf (some k) (some v)).traces ++ rootTraces (describe (.app Builtin.map [k, v])).outcome) ∧
    (∀ a rs behind, (describeApplication a (rs ++ none :: behind) .root).events =
      (describeApplication a rs .root).events) ∧
    (listOf none).events = [.failed .listOf (.absent (Position.root.child 0))] ∧
    (∀ v, (mapOf none v).events = [.failed .mapOf (.absent (Position.root.child 0))]) ∧
    ∀ k, (fromExpr (.app Builtin.map [k])).traces =
      (mapOf (some k) none).traces ++ rootTraces (describe (.app Builtin.map [k])).outcome := by
  refine ⟨fun e => ⟨fun q => Expr.mem_postorder_iff, e.pairwise_postorder⟩, ?_, ?_, ?_, ?_, ?_, rfl,
    fun v => rfl, ?_⟩
  · intro e d hd
    refine ⟨(describe e).log, ?_, ?_⟩
    · rw [Attempt.log, List.forall₂_map_right_iff]
      exact (events_describeAt_of_ok hd).imp fun q event h => h.logs
    · rw [Attempt.log, fromExpr, events_reportEnd_of_ok hd, List.map_append]
      rfl
  · intro e error herror
    obtain ⟨q, c, form, hc, hform, rfl⟩ := outcome_describeAt_eq_error_iff.1 herror
    obtain ⟨steps, hevents, hsteps⟩ := events_describeAt_of_firstRefused hc hform .root
    refine ⟨form, c.render .short, q, steps.map Event.record, rfl, ?_, ?_⟩
    · rw [List.forall₂_map_right_iff]
      exact hsteps.imp fun q event h => h.logs
    · rw [Attempt.log, fromExpr, events_reportEnd_of_error herror, describe, hevents,
        List.append_assoc, List.map_append]
      rfl
  · intro e
    rw [fromExpr, listOf, traces_reportEnd, traces_reportEnd, traces_describe_app]
    rfl
  · intro k v
    rw [fromExpr, mapOf, traces_reportEnd, traces_reportEnd, traces_describe_app]
    rfl
  · intro a rs behind
    exact events_describeReferences_of_absent .root 0 rs behind
  · intro k
    have habsent : (describeApplication Builtin.map [some k, none] .root).events =
        (describeApplication Builtin.map [some k] .root).events :=
      events_describeReferences_of_absent .root 0 [some k] []
    rw [fromExpr, mapOf, traces_reportEnd, traces_reportEnd, traces_describe_app]
    congr 1
    rw [Attempt.traces, Attempt.traces, Attempt.log, Attempt.log, habsent]
    rfl

/-- An array below the second argument: the first argument is logged, and neither the root nor what
stands behind the array. With a described type in its place everything is. -/
theorem log_replays_description_of_map :
    let map (e : Expr Symbol) : Expr Symbol := .app ⟨.numbered 0, "m::Map<_, _>"⟩
      [.nominal ⟨.numbered 1, "u8"⟩, .app ⟨.numbered 2, "m::Pair<_, _>"⟩ [e, .freeVar "T"]]
    let list : Expr Symbol := .app ⟨.numbered 3, "m::List<_>"⟩ [.nominal ⟨.numbered 1, "u8"⟩]
    (∃ record more, (map (.array list none)).Logs [0] record ∧
      (fromExpr (map (.array list none))).log = record :: more ∧ more.length = 2) ∧
    ∃ first second last, list.Logs [0] first ∧ list.Logs [] second ∧
      (fromExpr list).log = [first, second, last] := by
  intro map list
  obtain ⟨-, hok, hfail, -⟩ := log_replays_description
  constructor
  · have herror : (describe (map (.array list none))).outcome =
        .error (.unsupported .array "[List<u8>]" ⟨[1, 0]⟩) := by rfl
    obtain ⟨form, text, q, steps, heq, hsteps, hlog⟩ := hfail _ _ herror
    obtain rfl : [1, 0] = q := by
      injection heq with _ _ hq
      exact Position.mk.inj hq
    have hleft : (map (.array list none)).postorder.filter (LeftOf · [1, 0]) = [[0]] := by decide
    rw [hleft] at hsteps
    obtain ⟨record, _, hrecord, hnil, rfl⟩ := List.forall₂_cons_left_iff.1 hsteps
    obtain rfl := List.forall₂_nil_left_iff.1 hnil
    exact ⟨record, _, hrecord, hlog, rfl⟩
  · obtain ⟨d, hd⟩ : ∃ d, (describe list).outcome = .ok d := ⟨_, rfl⟩
    obtain ⟨steps, hsteps, hlog⟩ := hok list d hd
    obtain ⟨first, _, hfirst, hrest, rfl⟩ := List.forall₂_cons_left_iff.1 hsteps
    obtain ⟨second, _, hsecond, hnil, rfl⟩ := List.forall₂_cons_left_iff.1 hrest
    obtain rfl := List.forall₂_nil_left_iff.1 hnil
    exact ⟨first, second, _, hfirst, hsecond, hlog⟩

end TypeShape
