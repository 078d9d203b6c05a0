import GovernedMcp.Policy.Document

/-!
# Length and specificity of resource patterns

The policy file promises that the most specific pattern wins; the code ranks matching patterns by
their number of characters. One pattern is more specific than another when it matches strictly fewer
URIs.

* `mostSpecificWins_iff`: the promise is kept exactly when the document covers its inclusions: where
  the language of one pattern lies strictly inside that of another, every URI of the smaller one is
  matched by some pattern that is tried before the larger one.
* `Covered.of_prefixPatterns`: so it is when every pattern is a plain prefix followed by `*`, as in
  the shipped policy.
-/

namespace GovernedMcp.Policy

open Lib Lib.Glob

/-! ## The pattern that decides -/

/-- The decision on the URI is taken by the rule of this pattern. -/
def DecidedBy (policy : Policy) (uri pattern : String) : Prop :=
  ∃ rule, policy.resourceRule uri = some rule ∧ rule.pattern = pattern

/-- Of the patterns that match the URI, none decides where a more specific one matches too. -/
def MostSpecificWins (policy : Policy) (uri : String) : Prop :=
  ∀ p ∈ policy.resources.keys, ∀ q ∈ policy.resources.keys, fnmatchcase uri p = true →
    fnmatchcase uri q = true → language p ⊂ language q → ¬ DecidedBy policy uri q

/-- The sort puts the pattern `r` before `q`: it is longer, or as long and earlier in the document.
-/
def TriedBefore (policy : Policy) (r q : String) : Prop :=
  q.length < r.length ∨
    r.length = q.length ∧ policy.resources.keys.idxOf r < policy.resources.keys.idxOf q

/-- Where one pattern is more specific than another, patterns tried before the broad one cover all
URIs of the specific one. It need not be the specific pattern itself that is tried first. -/
def Covered (policy : Policy) : Prop :=
  ∀ p ∈ policy.resources.keys, ∀ q ∈ policy.resources.keys, language p ⊂ language q →
    language p ⊆ {uri | ∃ r ∈ policy.resources.keys, policy.TriedBefore r q ∧ uri ∈ language r}

variable [Interpreter] {raw : Yaml} {source : String} {policy : Policy}

/-- In an accepted document every rule carries the pattern it stands under. -/
theorem pattern_of_get_resources (h : fromMapping raw source = .ok policy) {pattern : String}
    {rule : Rule} (hget : policy.resources.get pattern = some rule) : rule.pattern = pattern := by
  obtain ⟨doc, s, -, -, -, rfl⟩ := fromMapping_eq_ok_iff.mp h
  have hlast : (lastEntry pattern s.resources).map ruleOf = some rule :=
    (get_rulesOf pattern s.resources).symm.trans hget
  obtain ⟨e, he, rfl⟩ := Option.map_eq_some_iff.mp hlast
  exact (lastEntry_eq_some he).2

/-- The pattern that decides is the one that is selected. -/
theorem decidedBy_iff_select (h : fromMapping raw source = .ok policy) {uri pattern : String} :
    DecidedBy policy uri pattern ↔
      selectLongest String.length (fnmatchcase uri) policy.resources.keys = some pattern := by
  constructor
  · rintro ⟨rule, hrule, rfl⟩
    obtain ⟨pattern, hselect, hget⟩ := resourceRule_eq_some_iff.mp hrule
    rw [pattern_of_get_resources h hget]
    exact hselect
  · intro hselect
    have hmem := (mem_of_selectLongest _ _ hselect).1
    rcases hget : policy.resources.get pattern with _ | rule
    · exact absurd hmem (Dict.get_eq_none_iff.mp hget)
    · exact ⟨rule, resourceRule_eq_some_iff.mpr ⟨pattern, hselect, hget⟩,
        pattern_of_get_resources h hget⟩

/-- **Which pattern decides**: a matching pattern does not exactly when another matching one is
tried before it. -/
theorem not_decidedBy_iff (h : fromMapping raw source = .ok policy) {uri pattern : String}
    (hmem : pattern ∈ policy.resources.keys) (hmatch : fnmatchcase uri pattern = true) :
    ¬ DecidedBy policy uri pattern ↔
      ∃ r ∈ policy.resources.keys, policy.TriedBefore r pattern ∧ uri ∈ language r := by
  rw [decidedBy_iff_select h, ← ne_eq, selectLongest_ne_iff _ _ hmem hmatch]
  constructor
  · rintro ⟨r, hr, hmatches, hbefore⟩
    exact ⟨r, hr, hbefore, hmatches⟩
  · rintro ⟨r, hr, hbefore, hmatches⟩
    exact ⟨r, hr, hmatches, hbefore⟩

/-! ## When the most specific pattern wins -/

/-- **When the most specific pattern wins**: for all URIs exactly when the document covers its
inclusions. -/
theorem mostSpecificWins_iff (h : fromMapping raw source = .ok policy) :
    (∀ uri, MostSpecificWins policy uri) ↔ Covered policy := by
  constructor
  · intro hwins p hp q hq hlt uri huri
    -- the larger language has every URI of the smaller one
    have hmatch : fnmatchcase uri q = true := hlt.1 huri
    exact (not_decidedBy_iff h hq hmatch).mp (hwins uri p hp q hq huri hmatch hlt)
  · intro hcovered uri p hp q hq huri hmatch hlt
    exact (not_decidedBy_iff h hq hmatch).mpr (hcovered p hp q hq hlt huri)

omit [Interpreter] in
/-- Between prefix patterns the more specific one is longer, so it is tried first itself. -/
theorem Covered.of_prefixPatterns {policy : Policy}
    (hplainly : ∀ p ∈ policy.resources.keys, ∃ head, p = prefixPattern head ∧
      ∀ c ∈ head.toList, IsPlain c) : Covered policy := by
  intro p hp q hq hlt uri huri
  obtain ⟨head, rfl, hplain⟩ := hplainly p hp
  obtain ⟨head', rfl, hplain'⟩ := hplainly q hq
  exact ⟨_, hp, Or.inl (length_lt_of_language_ssubset hplain hplain' hlt), huri⟩

/-! ## Two documents -/

omit [Interpreter] in
/-- A longer prefix leaves out some of the texts of the shorter one. -/
theorem language_shipment_eu_ssubset :
    language "shipment://eu/*" ⊂ language "shipment://*" := by
  have hlong : ∀ c ∈ "shipment://eu/".toList, IsPlain c := by simp [IsPlain]
  have hshort : ∀ c ∈ "shipment://".toList, IsPlain c := by simp [IsPlain]
  refine ⟨fun uri huri => ?_, fun h => ?_⟩
  · have hprefix := (mem_language_prefixPattern hlong).mp huri
    exact (mem_language_prefixPattern hshort).mpr (List.IsPrefix.trans (by decide) hprefix)
  · have hmem : isMatch "shipment://1" "shipment://*" = true := by decide
    have hnot : ¬ isMatch "shipment://1" "shipment://eu/*" = true := by decide
    exact hnot (h hmem)

omit [Interpreter] in
/-- With a narrower prefix under the pattern of the shipped policy, listed after it, the promise is
kept. -/
theorem mostSpecificWins_shipments : ∃ policy,
    @fromMapping plainInterpreter (.dict (resourcesDocument
      [resourceEntry "shipment://*" "tlo.reader",
        resourceEntry "shipment://eu/*" "platform.admin"])) "policy.yaml" = .ok policy ∧
    "shipment://*" ∈ policy.resources.keys ∧ "shipment://eu/*" ∈ policy.resources.keys ∧
    language "shipment://eu/*" ⊂ language "shipment://*" ∧
    ∀ uri, MostSpecificWins policy uri := by
  refine ⟨_, rfl, by decide, by decide, language_shipment_eu_ssubset,
    (@mostSpecificWins_iff plainInterpreter (.dict (resourcesDocument
      [resourceEntry "shipment://*" "tlo.reader",
        resourceEntry "shipment://eu/*" "platform.admin"])) "policy.yaml" _ rfl).mpr
      (Covered.of_prefixPatterns fun p hp => ?_)⟩
  have hkeys : p = "shipment://*" ∨ p = "shipment://eu/*" := by
    have : p ∈ ["shipment://*", "shipment://eu/*"] := hp
    simpa using this
  rcases hkeys with rfl | rfl
  · exact ⟨"shipment://", rfl, by simp [IsPlain]⟩
  · exact ⟨"shipment://eu/", rfl, by simp [IsPlain]⟩

omit [Interpreter] in
/-- The atoms of the two patterns differ in the place of one literal. -/
theorem language_eu_ssubset :
    language "shipment://eu/*" ⊂ language "shipment://[ef]u/*" := by
  refine ⟨language_mono ?_, fun h => ?_⟩
  · have hliteral : parse "shipment://eu/*" =
        "shipment://".toList.map Atom.lit ++ .lit 'e' :: [.lit 'u', .lit '/', .star] := by decide
    have hclass : parse "shipment://[ef]u/*" = "shipment://".toList.map Atom.lit ++
        .cls false [('e', 'e'), ('f', 'f')] :: [.lit 'u', .lit '/', .star] := by decide
    rw [hliteral, hclass]
    refine List.rel_append (forall₂_le_refl _) (.cons (Or.inr ⟨by simp, fun c hc => ?_⟩)
      (forall₂_le_refl _))
    have : 'e' = c := by simpa [Atom.accepts] using hc
    subst this
    decide
  · have hmem : isMatch "shipment://fu/1" "shipment://[ef]u/*" = true := by decide
    have hnot : ¬ isMatch "shipment://fu/1" "shipment://eu/*" = true := by decide
    exact hnot (h hmem)

omit [Interpreter] in
/-- A character class is longer than the character it contains, and takes the decision from it. -/
theorem not_mostSpecificWins_of_class : ∃ policy,
    @fromMapping plainInterpreter (.dict (resourcesDocument
      [resourceEntry "shipment://eu/*" "platform.admin",
        resourceEntry "shipment://[ef]u/*" "tlo.reader"])) "policy.yaml" = .ok policy ∧
    ¬ MostSpecificWins policy "shipment://eu/1" := by
  refine ⟨_, rfl, ?_⟩
  intro h
  exact h "shipment://eu/*" (by decide) "shipment://[ef]u/*" (by decide) (by decide) (by decide)
    language_eu_ssubset ⟨_, rfl, rfl⟩

end GovernedMcp.Policy
