import GovernedMcp.Model.AuditStream
import GovernedMcp.Enforcement.AuditTrail

/-!
# The audit stream can be read back

After `configure` the logger has one handler, so a stream receives nothing but lines of records, and
it receives those that were logged while it was in use.

* `InUse`: the stream in use and the lowest level that gets through, and `deliveredTo` the records a
  stream receives, in these terms.
* `readStream_writtenTo`: over every sequence of `configure`, changes of level and records, reading
  a stream gives just the records it was to receive.
* **`auditTrail_readable`**: what the middleware leaves on the standard output over a run of
  requests, whatever texts the callers put into it.
-/

namespace GovernedMcp.Audit

open Lib

section logger

variable {S : Type} [DecidableEq S]

/-- Where records go, and from which level on. -/
structure InUse (S : Type) where
  stream : S
  threshold : ℕ

/-- The stream of a call of `configure`. -/
def InUse.configured (stdout : S) (stream : Option S) : InUse S :=
  ⟨stream.getD stdout, Level.number .info⟩

/-- The records that `s` receives. -/
def deliveredTo (root : Root S) (stdout s : S) : InUse S → List (LogOp S) → List Stamped
  | _, [] => []
  | _, .configure stream :: ops => deliveredTo root stdout s (.configured stdout stream) ops
  | inUse, .setLevel level :: ops =>
    deliveredTo root stdout s ⟨inUse.stream, if level = 0 then root.level else level⟩ ops
  | inUse, .record e :: ops =>
    if inUse.stream = s ∧ inUse.threshold ≤ e.record.level.number then
      e :: deliveredTo root stdout s inUse ops
    else deliveredTo root stdout s inUse ops

/-- The logger hands its records to this stream alone, from this level on. -/
structure Logger.Uses (root : Root S) (logger : Logger S) (inUse : InUse S) : Prop where
  handlers : logger.handlers = [inUse.stream]
  propagate : logger.propagate = false
  threshold : (if logger.level = 0 then root.level else logger.level) = inUse.threshold

variable {root : Root S} {stdout : S}

omit [DecidableEq S] in
/-- After a call of `configure` the logger uses the stream of the call, from INFO on. -/
theorem uses_configure (stream : Option S) :
    (Logger.configure stdout stream).Uses root (.configured stdout stream) :=
  ⟨rfl, rfl, rfl⟩

/-- What a stream receives, it receives in order. -/
theorem writtenTo_append (s : S) (writes writes' : List (S × String)) :
    writtenTo s (writes ++ writes') = writtenTo s writes ++ writtenTo s writes' := by
  simp [writtenTo]

/-- A record is written to the stream in use, if its level gets through. -/
theorem Logger.Uses.writtenTo_log {self : Logger S} {inUse : InUse S} (h : self.Uses root inUse)
    (s : S) (e : Stamped) : writtenTo s (self.log root e) =
      if inUse.stream = s ∧ inUse.threshold ≤ e.record.level.number then e.line ++ "\n"
      else "" := by
  have henabled : self.enabled root e.record.level = true ↔
      inUse.threshold ≤ e.record.level.number := by
    rw [Logger.enabled, h.threshold, decide_eq_true_iff]
  unfold Logger.log
  by_cases hlevel : inUse.threshold ≤ e.record.level.number
  · rw [if_pos (henabled.mpr hlevel), h.handlers, h.propagate]
    by_cases hs : inUse.stream = s
    · simp [writtenTo, hs, hlevel]
    · simp [writtenTo, hs]
  · rw [if_neg (mt henabled.mp hlevel), if_neg (fun hboth => hlevel hboth.2)]
    rfl

/-- What a stream receives are the lines of the records that are delivered to it. -/
theorem Logger.Uses.writtenTo_answers {self : Logger S} {inUse : InUse S}
    (h : self.Uses root inUse) (s : S) (ops : List (LogOp S)) :
    writtenTo s ((stream root stdout).answers self ops).flatten =
      Text.ofLines ((deliveredTo root stdout s inUse ops).map Stamped.line) := by
  induction ops generalizing self inUse with
  | nil => rfl
  | cons op ops ih =>
    rw [Machine.answers, List.flatten_cons, writtenTo_append]
    cases op with
    | configure stream =>
      rw [deliveredTo, ← ih (uses_configure stream)]
      exact String.empty_append
    | setLevel level =>
      have huses : ({ self with level } : Logger S).Uses root
          ⟨inUse.stream, if level = 0 then root.level else level⟩ :=
        ⟨h.handlers, h.propagate, rfl⟩
      rw [deliveredTo, ← ih huses]
      exact String.empty_append
    | record e =>
      have hrest := ih h
      have hfirst : writtenTo s ((stream root stdout).answer self (.record e)) = _ :=
        h.writtenTo_log s e
      have hnext : (stream root stdout).next self (.record e) = self := rfl
      rw [hfirst, hnext, hrest, deliveredTo]
      split_ifs with hto
      · rw [List.map_cons, Text.ofLines_cons]
        rfl
      · exact String.empty_append

/-- Everything that is delivered has been logged. -/
theorem mem_of_mem_deliveredTo {s : S} {inUse : InUse S} {ops : List (LogOp S)} {e : Stamped}
    (h : e ∈ deliveredTo root stdout s inUse ops) : .record e ∈ ops := by
  induction ops generalizing inUse with
  | nil => cases h
  | cons op ops ih =>
    cases op with
    | configure stream => exact List.mem_cons_of_mem _ (ih h)
    | setLevel level => exact List.mem_cons_of_mem _ (ih h)
    | record e' =>
      rw [deliveredTo] at h
      split_ifs at h
      · rcases List.mem_cons.mp h with rfl | h
        · exact List.mem_cons_self
        · exact List.mem_cons_of_mem _ (ih h)
      · exact List.mem_cons_of_mem _ (ih h)

/-- A stream gives back the records that were delivered to it. -/
theorem Logger.Uses.readStream_answers {self : Logger S} {inUse : InUse S}
    (h : self.Uses root inUse) {ops : List (LogOp S)}
    (hlevels : ∀ e, .record e ∈ ops → e.record.level = levelFor e.record.outcome) (s : S) :
    readStream (writtenTo s ((stream root stdout).answers self ops).flatten) =
      some (deliveredTo root stdout s inUse ops) := by
  rw [h.writtenTo_answers]
  exact readStream_ofLines fun e he => hlevels e (mem_of_mem_deliveredTo he)

/-- **Every stream can be read back**, over every run of the logger from a call of `configure` on.
Source: `audit.py`, `configure` and `record`. -/
theorem readStream_writtenTo (start : Logger S) (first : Option S) (ops : List (LogOp S))
    (hlevels : ∀ e, .record e ∈ ops → e.record.level = levelFor e.record.outcome) (s : S) :
    readStream (writtenTo s
        ((stream root stdout).answers start (.configure first :: ops)).flatten) =
      some (deliveredTo root stdout s (.configured stdout first) ops) :=
  (uses_configure first).readStream_answers hlevels s

/-- A denial by a caller whose name has a line break and a quote in it. -/
def forgedName : Stamped where
  timestamp := "2026-08-01T00:00:00+00:00"
  record := record "olga\n\"" "tools/call"
    { allowed := false, reason := "no policy entry for this tool (default deny)", target := "t" }
    (some [("shipment_id", .none)]) none none

/-- The logger is configured twice; the second stream receives what comes after. -/
theorem readStream_writtenTo_forgedName :
    readStream (writtenTo true ((stream ⟨30, fun _ _ => []⟩ false).answers Logger.initial
      [.configure none, .record forgedName, .configure (some true), .record forgedName]).flatten) =
      some [forgedName] := by
  apply readStream_writtenTo Logger.initial none
    [.record forgedName, .configure (some true), .record forgedName]
  intro e he
  simp only [List.mem_cons, LogOp.record.injEq, reduceCtorEq, List.not_mem_nil, false_or,
    or_false, or_self] at he
  subst he
  rfl

end logger

/-! ## The stream of the middleware -/

/-- Records with the times at which they were made. -/
def stamp (times : ℕ → String) (records : List Record) : List Stamped :=
  records.mapIdx fun n r => ⟨times n, r⟩

/-- `logging.WARNING`. -/
def WARNING : ℕ := Level.number .warning

section trail

variable {S : Type} [DecidableEq S] {root : Root S} {stdout : S}

/-- Stamping keeps the records. -/
theorem map_record_stamp (times : ℕ → String) (records : List Record) :
    (stamp times records).map Stamped.record = records := by
  apply List.ext_getElem?
  intro n
  rw [List.getElem?_map, stamp, List.getElem?_mapIdx, Option.map_map]
  exact congrFun Option.map_id _

/-- Of records one after the other, the stream in use receives those whose level gets through. -/
theorem deliveredTo_records (inUse : InUse S) (es : List Stamped) :
    deliveredTo root stdout inUse.stream inUse (es.map .record) =
      es.filter fun e => inUse.threshold ≤ e.record.level.number := by
  induction es with
  | nil => rfl
  | cons e es ih =>
    rw [List.map_cons, deliveredTo, ih, List.filter_cons]
    simp only [true_and, decide_eq_true_iff]

variable [Interpreter] {ε : Type} {policy : Policy}

/-- Every record of the trail has the level of its outcome. -/
theorem level_of_mem_auditTrail {reqs : List (GuardedRequest ε)} {r : Record}
    (h : r ∈ auditTrail policy reqs) : r.level = levelFor r.outcome := by
  induction reqs with
  | nil => cases h
  | cons req reqs ih =>
    rw [auditTrail_cons, List.mem_append] at h
    rcases h with h | h
    · have hagrees : req.AuditAgrees policy := req.auditAgrees
      have hlevelled : r.level = .warning ↔ r.outcome = "deny" := hagrees.levelled r h
      unfold levelFor
      split_ifs with hdeny
      · exact hlevelled.mpr hdeny
      · cases hlevel : r.level with
        | info => rfl
        | warning => exact absurd (hlevelled.mp hlevel) hdeny
    · exact ih h

/-- **The audit trail can be read back.** Over every run of requests, the standard output holds the
records of the trail, each once and in order, whatever texts the callers have put into them; and at
WARNING one denial for each refused request. Source: `audit.py`, `record`. -/
theorem auditTrail_readable (root : Root S) (stdout : S) (start : Logger S) (times : ℕ → String)
    (reqs : List (GuardedRequest ε)) :
    let records := (stamp times (auditTrail policy reqs)).map LogOp.record
    let received (ops : List (LogOp S)) : Option (List Stamped) :=
      readStream (writtenTo stdout ((stream root stdout).answers start ops).flatten)
    received (.configure none :: records) = some (stamp times (auditTrail policy reqs)) ∧
      ∃ denials, received (.configure none :: .setLevel WARNING :: records) = some denials ∧
        denials.Sublist (stamp times (auditTrail policy reqs)) ∧
        List.Forall₂ (fun e req => e.record ∈ req.records policy ∧ e.record.outcome = "deny")
          denials (refusedOf policy reqs) := by
  intro records received
  have hlevel : ∀ e ∈ stamp times (auditTrail policy reqs),
      e.record.level = levelFor e.record.outcome := by
    intro e he
    have hrecord : e.record ∈ (stamp times (auditTrail policy reqs)).map Stamped.record :=
      List.mem_map_of_mem he
    rw [map_record_stamp] at hrecord
    exact level_of_mem_auditTrail hrecord
  have hlogged : ∀ e, LogOp.record e ∈ records → e.record.level = levelFor e.record.outcome := by
    intro e he
    obtain ⟨e', he', heq⟩ := List.mem_map.mp he
    cases heq
    exact hlevel e he'
  constructor
  · have hall : received (.configure none :: records) = _ :=
      (uses_configure none).readStream_answers hlogged stdout
    rw [hall]
    refine congrArg some ((deliveredTo_records (.configured stdout none) _).trans ?_)
    apply List.filter_eq_self.mpr
    intro e _
    cases hlevel : e.record.level with
    | info => rfl
    | warning => rfl
  · refine ⟨(stamp times (auditTrail policy reqs)).filter fun e => e.record.level = .warning, ?_,
      List.filter_sublist, ?_⟩
    · have hops : ∀ e, LogOp.record e ∈ .setLevel WARNING :: records →
          e.record.level = levelFor e.record.outcome := by
        intro e he
        rcases List.mem_cons.mp he with heq | he
        · cases heq
        · exact hlogged e he
      have hall : received (.configure none :: .setLevel WARNING :: records) = _ :=
        (uses_configure none).readStream_answers hops stdout
      rw [hall]
      refine congrArg some ((deliveredTo_records (⟨stdout, WARNING⟩ : InUse S) _).trans ?_)
      apply List.filter_congr
      intro e _
      cases hlevel : e.record.level with
      | info => rfl
      | warning => rfl
    · have hdenials : List.Forall₂ (fun r req => r ∈ req.records policy ∧ r.outcome = "deny")
          ((auditTrail policy reqs).filter fun r => r.level = .warning) (refusedOf policy reqs) :=
        forall₂_warnings reqs
      have hfilter : (auditTrail policy reqs).filter (fun r => r.level = .warning) =
          ((stamp times (auditTrail policy reqs)).filter
            fun e => e.record.level = .warning).map Stamped.record := by
        conv_lhs => rw [← map_record_stamp times (auditTrail policy reqs), List.filter_map]
        rfl
      rw [hfilter, List.forall₂_map_left_iff] at hdenials
      exact hdenials

end trail

end GovernedMcp.Audit
