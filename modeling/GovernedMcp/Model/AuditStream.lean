import GovernedMcp.Lib.Dict
import GovernedMcp.Lib.JsonText
import GovernedMcp.Lib.Machine
import GovernedMcp.Lib.Text
import GovernedMcp.Model.Audit

/-!
# The audit stream

`governance/audit.py`, from a record to the stream it is written to. A record becomes one JSON
object in one line, and the logger `governance.audit` hands it to its handlers.

* `Stamped.line`: the line of a record that was made at some time. `read_line`: it can be read back.
* `Logger.configure`, `Logger.log`: the logger, with the streams of its handlers. What the rest of
  the logging system does is the parameter `Root`.
* `stream root stdout`: the logger as a machine, that is configured, given another level, or given
  a record.
-/

namespace GovernedMcp.Audit

open Lib JsonText

/-! ## The line of a record -/

/-- A record and the time at which it was made, as `datetime.isoformat` puts it. -/
structure Stamped where
  timestamp : String
  record : Record
  deriving DecidableEq

/-- A text, or `None`. -/
def docOf : Option String → Doc
  | none => .null
  | some s => .str s

/-- A list of texts. -/
def docsOf (texts : List String) : Doc := .arr (texts.map .str)

/-- The members of the event of a record. Source: `audit.py`, `record`. -/
def Stamped.members (e : Stamped) : List (String × Doc) :=
  [("timestamp", .str e.timestamp),
    ("principal", .str e.record.principal),
    ("method", .str e.record.method),
    ("target", .str e.record.target),
    ("outcome", .str e.record.outcome),
    ("reason", .str e.record.reason),
    ("classification", docOf e.record.classification),
    ("required_roles", docsOf e.record.requiredRoles),
    ("granted_roles", docsOf e.record.grantedRoles),
    ("protocol_version", docOf e.record.protocolVersion)] ++
  match e.record.argumentNames with
  | none => []
  | some names => [("argument_names", docsOf names)]

/-- `json.dumps(event, separators=(",", ":"), default=str)`. -/
def Stamped.line (e : Stamped) : String := String.ofList (render (.obj e.members))

/-- The level that a line is logged at. -/
def levelFor (outcome : String) : Level := if outcome = "deny" then .warning else .info

/-! ## Reading a line -/

/-- The text of a document that is one. -/
def textOfDoc : Doc → Option String
  | .str s => some s
  | _ => none

/-- A text or `None`. -/
def optionOfDoc : Doc → Option (Option String)
  | .null => some none
  | .str s => some (some s)
  | _ => none

/-- The texts of a list of them. -/
def textsOfDoc : Doc → Option (List String)
  | .arr items => items.mapM textOfDoc
  | _ => none

/-- The record that the members of an event tell of. Its level is that of its outcome. -/
def ofMembers (members : List (String × Doc)) : Option Stamped := do
  let text (name : String) : Option String := (Dict.lookup name members).bind textOfDoc
  let timestamp ← text "timestamp"
  let principal ← text "principal"
  let method ← text "method"
  let target ← text "target"
  let outcome ← text "outcome"
  let reason ← text "reason"
  let classification ← (Dict.lookup "classification" members).bind optionOfDoc
  let requiredRoles ← (Dict.lookup "required_roles" members).bind textsOfDoc
  let grantedRoles ← (Dict.lookup "granted_roles" members).bind textsOfDoc
  let protocolVersion ← (Dict.lookup "protocol_version" members).bind optionOfDoc
  let argumentNames ← match Dict.lookup "argument_names" members with
    | none => some none
    | some names => (textsOfDoc names).map some
  return {
    timestamp
    record :=
      { principal, method, target, outcome, reason, classification, requiredRoles, grantedRoles,
        protocolVersion, argumentNames, level := levelFor outcome } }

/-- Reads a line of the stream. -/
def readLine (line : String) : Option Stamped :=
  match read line.toList with
  | some (.obj members) => ofMembers members
  | _ => none

/-- Reads all of a stream. -/
def readStream (text : String) : Option (List Stamped) := (Text.linesOf text).mapM readLine

/-- A text, or none, is read back. -/
@[simp] theorem optionOfDoc_docOf (s : Option String) : optionOfDoc (docOf s) = some s := by
  cases s <;> rfl

/-- So are texts. -/
@[simp] theorem textsOfDoc_docsOf (texts : List String) :
    textsOfDoc (docsOf texts) = some texts := by
  show (texts.map Doc.str).mapM textOfDoc = some texts
  induction texts with
  | nil => rfl
  | cons s texts ih =>
    rw [List.map_cons, List.mapM_cons, ih]
    rfl

/-- The members of an event tell the whole record. -/
theorem ofMembers_members {e : Stamped} (h : e.record.level = levelFor e.record.outcome) :
    ofMembers e.members = some e := by
  obtain ⟨timestamp, record⟩ := e
  obtain ⟨principal, method, target, outcome, reason, classification, requiredRoles, grantedRoles,
    protocolVersion, argumentNames, level⟩ := record
  have hlevel : level = levelFor outcome := h
  subst hlevel
  cases argumentNames with
  | none => simp [ofMembers, Stamped.members, Dict.lookup, textOfDoc]
  | some names => simp [ofMembers, Stamped.members, Dict.lookup, textOfDoc]

/-- **A line is read back**: it tells the record, and when it was made. -/
theorem readLine_line {e : Stamped} (h : e.record.level = levelFor e.record.outcome) :
    readLine e.line = some e := by
  rw [readLine, Stamped.line, String.toList_ofList, read_render]
  exact ofMembers_members h

/-- Whatever texts are in the record, its line is a single one. -/
theorem newline_not_mem_line (e : Stamped) : '\n' ∉ e.line.toList := by
  rw [Stamped.line, String.toList_ofList]
  exact newline_not_mem_render _

/-- A stream of lines is read back. -/
theorem readStream_ofLines {es : List Stamped}
    (h : ∀ e ∈ es, e.record.level = levelFor e.record.outcome) :
    readStream (Text.ofLines (es.map Stamped.line)) = some es := by
  have hlines : Text.linesOf (Text.ofLines (es.map Stamped.line)) = es.map Stamped.line := by
    apply Text.linesOf_ofLines
    intro line hline
    obtain ⟨e, -, rfl⟩ := List.mem_map.mp hline
    exact newline_not_mem_line e
  rw [readStream, hlines]
  clear hlines
  induction es with
  | nil => rfl
  | cons e es ih =>
    rw [List.forall_mem_cons] at h
    rw [List.map_cons, List.mapM_cons, readLine_line h.1, ih h.2]
    rfl

/-! ## The logger -/

/-- The number of a level in `logging`. -/
def Level.number : Level → ℕ
  | .info => 20
  | .warning => 30

/-- The rest of the logging system: the level of the root logger, and what its handlers write, to
which stream, for a message of some level. -/
structure Root (S : Type) where
  level : ℕ
  writes : Level → String → List (S × String)

/-- The logger `governance.audit`. Each handler writes a message as it is, and a line break. -/
structure Logger (S : Type) where
  /-- The streams of the handlers. -/
  handlers : List S
  propagate : Bool
  /-- `0` where none is set. -/
  level : ℕ

namespace Logger

variable {S : Type}

/-- As `logging.getLogger` returns it at first. -/
def initial : Logger S := ⟨[], true, 0⟩

/-- Source: `audit.py`, `configure`. -/
def configure (stdout : S) (stream : Option S) : Logger S where
  handlers := [stream.getD stdout]
  propagate := false
  level := Level.number .info

/-- Whether messages of a level are handed to the handlers. -/
def enabled (root : Root S) (self : Logger S) (level : Level) : Bool :=
  (if self.level = 0 then root.level else self.level) ≤ level.number

/-- What is written, to which stream, when a record is logged. -/
def log (root : Root S) (self : Logger S) (e : Stamped) : List (S × String) :=
  if self.enabled root e.record.level then
    self.handlers.map (fun s => (s, e.line ++ "\n")) ++
      if self.propagate then root.writes e.record.level e.line else []
  else []

end Logger

/-- What can happen to the logger. -/
inductive LogOp (S : Type) where
  | configure (stream : Option S)
  | setLevel (level : ℕ)
  | record (e : Stamped)

/-- The logger as a machine; an answer is what is written, and to which stream. -/
def stream {S : Type} (root : Root S) (stdout : S) :
    Machine (Logger S) (LogOp S) (List (S × String)) where
  answer self op :=
    match op with
    | .record e => self.log root e
    | _ => []
  next self op :=
    match op with
    | .configure stream => Logger.configure stdout stream
    | .setLevel level => { self with level }
    | .record _ => self

/-- The text that a stream has received. -/
def writtenTo {S : Type} [DecidableEq S] (s : S) (writes : List (S × String)) : String :=
  String.join ((writes.filter fun w => w.1 = s).map Prod.snd)

end GovernedMcp.Audit
