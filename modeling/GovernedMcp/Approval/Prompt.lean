import GovernedMcp.Lib.Separated
import GovernedMcp.Enforcement.Plan

/-!
# What the human is shown

The question of the approval gate shows a prompt, the name of the tool, and the arguments as
`name=value`, sorted by name and joined with a comma and a space. Nothing is escaped, so two calls
can be shown alike.

* `Distinguished policy c c'`: different calls are shown differently.
* `distinguished_iff`: exactly when they are. Calls of one tool are confused when cutting every
  `name=value` at its separators gives the same pieces; calls of two tools when the head of one
  message goes on, in the other, with a text that regroups the pieces (`piecesAfter`).
* `distinguished_of_plain`, `forall_distinguished_iff`: what this means for calls with unremarkable
  arguments, and for a pair of tools.
-/

namespace GovernedMcp

open Lib Lib.Separated PolicyEnforcementMiddleware

/-! ## Calls with string arguments -/

/-- A call, as far as it is shown: the tool, and its arguments, all of them strings. -/
structure ToolCall where
  tool : String
  args : Dict String String

namespace ToolCall

/-- The same tool with the same arguments, in whatever order they were written down. -/
def Same (c c' : ToolCall) : Prop := c.tool = c'.tool ∧ c.args.entries.Perm c'.args.entries

/-- The `arguments` mapping of the call. -/
def arguments (c : ToolCall) : List (String × Json) := c.args.entries.map fun e => (e.1, .str e.2)

/-- The arguments by name. -/
def sortedArgs (c : ToolCall) : List (String × String) :=
  c.args.entries.insertionSort fun a b => a.1 ≤ b.1

/-- The texts `name=value`, in the order they are shown. -/
def items (c : ToolCall) : List (List Char) :=
  c.sortedArgs.map fun e => e.1.toList ++ '=' :: e.2.toList

/-- The pieces of the texts `name=value` between the separators that occur in them. -/
def pieces (c : ToolCall) : List (List Char) := c.items.flatMap (cut ',' ' ')

/-- What stands between the brackets, before it is joined. -/
def shown (c : ToolCall) : List (List Char) :=
  if c.items = [] then ["no arguments".toList] else c.items

/-- The pieces where a text has run into the first of these. -/
def piecesAfter (x : String) (c : ToolCall) : List (List Char) :=
  (c.shown.modifyHead (x.toList ++ ·)).flatMap (cut ',' ' ')

end ToolCall

/-! ## The arguments, joined -/

section joined

variable {c : ToolCall}

/-- The arguments are sorted before they are turned into text. -/
theorem sortedItems_arguments (c : ToolCall) :
    sortedItems c.arguments = c.sortedArgs.map fun e => (e.1, Value.str e.2) := by
  unfold sortedItems ToolCall.arguments ToolCall.sortedArgs
  refine (List.map_insertionSort (fun a b : String × String => a.1 ≤ b.1)
    (fun a b : String × Json => a.1 ≤ b.1) _ _ ?_).symm
  intro a _ b _
  exact Iff.rfl

/-- The arguments, joined. -/
def ToolCall.joined (c : ToolCall) : List Char := [',', ' '].intercalate c.items

/-- Every text `name=value` has an equals sign, so the joined arguments have one. -/
theorem mem_joined (h : c.items ≠ []) : '=' ∈ c.joined := by
  unfold ToolCall.joined
  rcases hitems : c.items with _ | ⟨i, is⟩
  · exact absurd hitems h
  · have hi : '=' ∈ i := by
      have hmem : i ∈ c.items := by
        rw [hitems]
        exact List.mem_cons_self
      obtain ⟨e, -, rfl⟩ := List.mem_map.mp hmem
      simp
    by_cases his : is = []
    · rw [his, List.intercalate_singleton]
      exact hi
    · rw [List.intercalate_cons_of_ne_nil his]
      simp [hi]

/-- No arguments are joined to the empty text. -/
theorem joined_of_items_nil (h : c.items = []) : c.joined = [] := by
  rw [ToolCall.joined, h]
  rfl

/-- The pieces of some arguments are never nothing. -/
theorem pieces_ne_nil (h : c.items ≠ []) : c.pieces ≠ [] := by
  rw [ToolCall.pieces, ← cut_intercalate ',' ' ' (by decide) h]
  exact cut_ne_nil _ _ _

/-- No arguments are not shown as any arguments. -/
theorem noArguments_ne_joined (h : c.items ≠ []) : "no arguments" ≠ String.ofList c.joined := by
  intro heq
  have hmem : '=' ∈ (String.ofList c.joined).toList := by simpa using mem_joined h
  rw [← heq] at hmem
  exact absurd hmem (by decide)

end joined

/-! ## Messages that are told apart -/

variable [Interpreter] (policy : Policy)

/-- The beginning of the message: everything before the arguments. -/
def headOf (tool : String) : String := (enforcing policy).promptOf tool ++ "\n\n" ++ tool ++ "("

/-- The messages that `_ask_for_approval` puts to the human for a call. -/
def messagesPut (ambient : Ambient) (c : ToolCall) : List String :=
  match ((enforcing policy).askForApproval ambient c.tool c.arguments :
      Handling Empty InputRequiredResult).value with
  | .ok asked => asked.inputRequests.map fun r => r.2.message
  | .error _ => []

/-- Different calls are shown differently. -/
def Distinguished (c c' : ToolCall) : Prop :=
  ¬ c.Same c' → ∀ ambient ambient', messagesPut policy ambient c ≠ messagesPut policy ambient' c'

/-- Two calls whose messages come out alike. -/
inductive Confusable : ToolCall → ToolCall → Prop
  /-- One tool, and arguments made of the same pieces. -/
  | regrouped {c c' : ToolCall} (tool : c.tool = c'.tool) (pieces : c.pieces = c'.pieces) :
      Confusable c c'
  /-- The head for the second tool goes on with a text, and with it before its arguments they are
  made of the same pieces. -/
  | shifted {c c' : ToolCall} (x : String) (tool : c.tool ≠ c'.tool)
      (head : headOf policy c'.tool = headOf policy c.tool ++ x)
      (pieces : c.piecesAfter "" = c'.piecesAfter x) : Confusable c c'
  /-- The same with the calls exchanged. -/
  | shiftedBack {c c' : ToolCall} (x : String) (tool : c.tool ≠ c'.tool)
      (head : headOf policy c.tool = headOf policy c'.tool ++ x)
      (pieces : c'.piecesAfter "" = c.piecesAfter x) : Confusable c c'

/-! ## The arguments as shown -/

section detail

variable {c c' : ToolCall}

/-- The arguments as they are shown. -/
theorem detailOf_arguments (c : ToolCall) : detailOf c.arguments =
    if c.items = [] then "no arguments" else String.ofList c.joined := by
  have htext : ", ".intercalate
      ((sortedItems c.arguments).map fun e => e.1 ++ "=" ++ e.2.toStr) =
      String.ofList c.joined := by
    apply String.ext
    rw [String.toList_intercalate, sortedItems_arguments, String.toList_ofList, ToolCall.joined]
    simp [ToolCall.items, Function.comp_def]
  show (if ", ".intercalate ((sortedItems c.arguments).map fun e => e.1 ++ "=" ++ e.2.toStr) = ""
    then _ else _) = _
  rw [htext]
  by_cases h : c.items = []
  · rw [if_pos h, joined_of_items_nil h]
    rfl
  · have hne : String.ofList c.joined ≠ "" := by
      intro hempty
      have := mem_joined h
      rw [show c.joined = [] by simpa using hempty] at this
      simp at this
    rw [if_neg h, if_neg hne]
    exact htext

/-- **When arguments are shown alike**: exactly when they are made of the same pieces. -/
theorem detailOf_eq_iff : detailOf c.arguments = detailOf c'.arguments ↔ c.pieces = c'.pieces := by
  rw [detailOf_arguments, detailOf_arguments]
  by_cases h : c.items = []
  · have hpieces : c.pieces = [] := by simp [ToolCall.pieces, h]
    by_cases h' : c'.items = []
    · have hpieces' : c'.pieces = [] := by simp [ToolCall.pieces, h']
      simp [h, h', hpieces, hpieces']
    · rw [if_pos h, if_neg h', hpieces]
      exact iff_of_false (noArguments_ne_joined h') (pieces_ne_nil h').symm
  · by_cases h' : c'.items = []
    · have hpieces' : c'.pieces = [] := by simp [ToolCall.pieces, h']
      rw [if_neg h, if_pos h', hpieces']
      exact iff_of_false (noArguments_ne_joined h).symm (pieces_ne_nil h)
    · rw [if_neg h, if_neg h', String.ofList_inj]
      exact intercalate_eq_iff ',' ' ' (by decide) h h'

omit [Interpreter] in
/-- Something always stands between the brackets. -/
theorem shown_ne_nil (c : ToolCall) : c.shown ≠ [] := by
  unfold ToolCall.shown
  split_ifs with h
  · exact List.cons_ne_nil _ _
  · exact h

omit [Interpreter] in
/-- A text before joined parts is a text before the first of them. -/
theorem append_intercalate {parts : List (List Char)} (h : parts ≠ []) (x : List Char) :
    x ++ [',', ' '].intercalate parts = [',', ' '].intercalate (parts.modifyHead (x ++ ·)) := by
  obtain ⟨p, ps, rfl⟩ := List.exists_cons_of_ne_nil h
  by_cases hps : ps = []
  · simp [hps]
  · rw [List.modifyHead_cons, List.intercalate_cons_of_ne_nil hps,
      List.intercalate_cons_of_ne_nil hps]
    simp

/-- The arguments as they are shown, after some text. -/
theorem toList_append_detailOf (x : String) (c : ToolCall) : (x ++ detailOf c.arguments).toList =
    [',', ' '].intercalate (c.shown.modifyHead (x.toList ++ ·)) := by
  rw [← append_intercalate (shown_ne_nil c), String.toList_append, detailOf_arguments,
    ToolCall.shown]
  congr 1
  split_ifs
  · exact List.intercalate_singleton.symm
  · exact String.toList_ofList

/-- **When arguments after some texts are shown alike**: exactly when the pieces are the same. -/
theorem append_detailOf_eq_iff {x x' : String} :
    x ++ detailOf c.arguments = x' ++ detailOf c'.arguments ↔
      c.piecesAfter x = c'.piecesAfter x' := by
  have hne : ∀ (y : String) (d : ToolCall), d.shown.modifyHead (y.toList ++ ·) ≠ [] := by
    intro y d
    obtain ⟨p, ps, hshown⟩ := List.exists_cons_of_ne_nil (shown_ne_nil d)
    simp [hshown]
  rw [← String.toList_inj, toList_append_detailOf, toList_append_detailOf]
  exact intercalate_eq_iff ',' ' ' (by decide) (hne x c) (hne x' c')

end detail

/-! ## The message -/

section message

variable {policy} {c c' : ToolCall}

/-- One message is put: the head, the arguments and a bracket. -/
theorem messagesPut_eq (ambient : Ambient) (c : ToolCall) : messagesPut policy ambient c =
    [headOf policy c.tool ++ detailOf c.arguments ++ ")"] := rfl

/-- **When messages are alike.** -/
theorem messagesPut_eq_iff (ambient ambient' : Ambient) :
    messagesPut policy ambient c = messagesPut policy ambient' c' ↔
      Confusable policy c c' := by
  have hafter : ∀ {x : String} {d d' : ToolCall}, d.piecesAfter "" = d'.piecesAfter x ↔
      detailOf d.arguments = x ++ detailOf d'.arguments := by
    intro x d d'
    rw [← append_detailOf_eq_iff, String.empty_append]
  rw [messagesPut_eq, messagesPut_eq, List.singleton_inj, String.append_left_inj]
  constructor
  · intro heq
    by_cases htool : c.tool = c'.tool
    · rw [htool, String.append_right_inj] at heq
      exact .regrouped htool (detailOf_eq_iff.mp heq)
    · rcases Text.append_eq_append_iff.mp heq with ⟨x, hhead, hdetail⟩ | ⟨x, hhead, hdetail⟩
      · exact .shifted x htool hhead (hafter.mpr hdetail)
      · exact .shiftedBack x htool hhead (hafter.mpr hdetail)
  · intro h
    cases h with
    | regrouped htool hpieces => rw [htool, detailOf_eq_iff.mpr hpieces]
    | shifted x _ hhead hpieces =>
        exact Text.append_eq_append_iff.mpr (Or.inl ⟨x, hhead, hafter.mp hpieces⟩)
    | shiftedBack x _ hhead hpieces =>
        exact Text.append_eq_append_iff.mpr (Or.inr ⟨x, hhead, hafter.mp hpieces⟩)

end message

/-! ## Unremarkable arguments, and pairs of tools -/

/-- No name has an equals sign, and no text `name=value` has a comma followed by a space. -/
def ToolCall.Plain (c : ToolCall) : Prop :=
  ∀ e ∈ c.args.entries, '=' ∉ e.1.toList ∧
    ¬ [',', ' '] <:+: e.1.toList ++ '=' :: e.2.toList

/-- The name and the value of a text `name=value`. -/
def readItem (item : List Char) : String × String :=
  (String.ofList (item.takeWhile (· ≠ '=')), String.ofList (item.dropWhile (· ≠ '=')).tail)

omit [Interpreter] in
/-- A name without an equals sign is read back, and so is the value. -/
theorem readItem_append {name value : List Char} (h : '=' ∉ name) :
    readItem (name ++ '=' :: value) = (String.ofList name, String.ofList value) := by
  have hname : ∀ a ∈ name, decide (a ≠ '=') = true := by
    intro a ha
    rw [decide_eq_true_iff]
    rintro rfl
    exact h ha
  rw [readItem, List.takeWhile_append_of_pos hname, List.dropWhile_append_of_pos hname]
  simp

omit [Interpreter] in
/-- Plain arguments can be read off their pieces. -/
theorem ToolCall.Plain.sortedArgs_eq {c : ToolCall} (h : c.Plain) :
    c.sortedArgs = c.pieces.map readItem := by
  have hplain : ∀ e ∈ c.sortedArgs, '=' ∉ e.1.toList ∧
      ¬ [',', ' '] <:+: e.1.toList ++ '=' :: e.2.toList := by
    intro e he
    exact h e ((List.mem_insertionSort _).mp he)
  have hpieces : c.pieces = c.items := by
    apply flatMap_cut_eq_self ',' ' '
    intro p hp
    obtain ⟨e, he, rfl⟩ := List.mem_map.mp hp
    exact (hplain e he).2
  rw [hpieces, ToolCall.items, List.map_map]
  refine (List.map_id _).symm.trans (List.map_congr_left fun e he => ?_)
  simp [readItem_append (hplain e he).1]

omit [Interpreter] in
/-- Plain arguments of the same pieces are the same arguments. -/
theorem ToolCall.Plain.perm_of_pieces {c c' : ToolCall} (h : c.Plain) (h' : c'.Plain)
    (hpieces : c.pieces = c'.pieces) : c.args.entries.Perm c'.args.entries := by
  have hsorted : c.sortedArgs = c'.sortedArgs := by rw [h.sortedArgs_eq, h'.sortedArgs_eq, hpieces]
  have hperm : c.args.entries.Perm c.sortedArgs := (List.perm_insertionSort _ _).symm
  exact hperm.trans (hsorted ▸ List.perm_insertionSort _ _)

variable {policy}

/-- One head is not the beginning of the other. -/
def HeadsApart (policy : Policy) (tool tool' : String) : Prop :=
  ∀ x, headOf policy tool' ≠ headOf policy tool ++ x ∧ headOf policy tool ≠ headOf policy tool' ++ x

/-- Calls with plain arguments are told apart, unless they are of tools whose heads are not. -/
theorem distinguished_of_plain {c c' : ToolCall} (h : c.Plain) (h' : c'.Plain)
    (hheads : c.tool ≠ c'.tool → HeadsApart policy c.tool c'.tool) : Distinguished policy c c' := by
  intro hdifferent ambient ambient' heq
  cases (messagesPut_eq_iff ambient ambient').mp heq with
  | regrouped htool hpieces => exact hdifferent ⟨htool, h.perm_of_pieces h' hpieces⟩
  | shifted x htool hhead _ => exact (hheads htool x).1 hhead
  | shiftedBack x htool hhead _ => exact (hheads htool x).2 hhead

/-- The call with a single argument of that name, and no value. -/
def ToolCall.bare (tool name : String) : ToolCall := ⟨tool, ⟨[(name, "")], by simp⟩⟩

/-- A single argument without a value is shown as its name and an equals sign. -/
theorem detailOf_bare (tool name : String) :
    detailOf (ToolCall.bare tool name).arguments = name ++ "=" := by
  have hitems : (ToolCall.bare tool name).items = [name.toList ++ ['=']] := rfl
  rw [detailOf_arguments, if_neg (by simp [hitems])]
  apply String.ext
  rw [ToolCall.joined, hitems, List.intercalate_singleton]
  simp

/-- **Which pairs of tools are told apart**, whatever their arguments: those neither of whose heads
is the beginning of the other. -/
theorem forall_distinguished_iff {tool tool' : String} (htool : tool ≠ tool') :
    (∀ args args', Distinguished policy ⟨tool, args⟩ ⟨tool', args'⟩) ↔
      HeadsApart policy tool tool' := by
  constructor
  · intro h x
    -- the text by which one head is longer can always be the name of an argument of the other
    have hpieces : ∀ tool tool' : String, (ToolCall.bare tool x).piecesAfter "" =
        (ToolCall.bare tool' "").piecesAfter x := by
      intro tool tool'
      rw [← append_detailOf_eq_iff, detailOf_bare, detailOf_bare, String.empty_append]
      rfl
    constructor
    · intro hhead
      apply h (ToolCall.bare tool x).args (ToolCall.bare tool' "").args (fun hsame => htool hsame.1)
        ⟨none, ""⟩ ⟨none, ""⟩
      exact (messagesPut_eq_iff _ _).mpr (.shifted x htool hhead (hpieces tool tool'))
    · intro hhead
      apply h (ToolCall.bare tool "").args (ToolCall.bare tool' x).args (fun hsame => htool hsame.1)
        ⟨none, ""⟩ ⟨none, ""⟩
      exact (messagesPut_eq_iff _ _).mpr (.shiftedBack x htool hhead (hpieces tool' tool))
  · intro hheads args args' _ ambient ambient' heq
    cases (messagesPut_eq_iff ambient ambient').mp heq with
    | regrouped hsame _ => exact htool hsame
    | shifted x _ hhead _ => exact (hheads x).1 hhead
    | shiftedBack x _ hhead _ => exact (hheads x).2 hhead

/-! ## When calls are told apart -/

variable (policy)

/-- **When different calls are shown differently**: exactly when their messages do not come out
alike, by regrouping the pieces of the arguments or by shifting text between prompt and arguments.
So are calls with plain arguments of tools whose heads are apart; and two tools are told apart
whatever the arguments exactly when their heads are. -/
theorem distinguished_iff (c c' : ToolCall) :
    (Distinguished policy c c' ↔ c.Same c' ∨ ¬ Confusable policy c c') ∧
      (c.Plain → c'.Plain → (c.tool ≠ c'.tool → HeadsApart policy c.tool c'.tool) →
        Distinguished policy c c') ∧
      (c.tool ≠ c'.tool →
        ((∀ args args', Distinguished policy ⟨c.tool, args⟩ ⟨c'.tool, args'⟩) ↔
          HeadsApart policy c.tool c'.tool)) := by
  refine ⟨⟨fun h => ?_, ?_⟩, distinguished_of_plain, forall_distinguished_iff⟩
  · by_cases hsame : c.Same c'
    · exact Or.inl hsame
    · right
      intro hconfusable
      have hne := h hsame ⟨none, ""⟩ ⟨none, ""⟩
      exact hne ((messagesPut_eq_iff _ _).mpr hconfusable)
  · rintro (hsame | hno) hdifferent ambient ambient' heq
    · exact hdifferent hsame
    · exact hno ((messagesPut_eq_iff ambient ambient').mp heq)

omit [Interpreter] in
/-- Two calls of the tool that opens incidents: one with an urgency, and one with the same text in
the shipment's name. They are shown alike. -/
theorem not_distinguished_of_separator : ¬ @Distinguished plainInterpreter Policy.incidentPolicy
    ⟨"raise_shipment_incident", ⟨[("shipment_id", "SHP-1004"), ("urgency", "1")], by simp⟩⟩
    ⟨"raise_shipment_incident", ⟨[("shipment_id", "SHP-1004, urgency=1")], by simp⟩⟩ := by
  intro h
  refine h (fun hsame => ?_) ⟨none, ""⟩ ⟨none, ""⟩ ?_
  · exact absurd hsame.2.length_eq (by decide)
  · exact (@messagesPut_eq_iff plainInterpreter _ _ _ _ _).mpr
      (Confusable.regrouped rfl (by decide))

end GovernedMcp
