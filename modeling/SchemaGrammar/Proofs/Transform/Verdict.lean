import SchemaGrammar.Proofs.Grammar.Reachability
import SchemaGrammar.Proofs.Transform.References

/-!
# Rewriting keeps the verdict

A report depends on the keys, on the names of the rules and on the references, of which only the
first to each name counts.  Simplification keeps all references.  Dropping repeated alternatives
loses some, but whatever a dropped alternative refers to has been met in the equal one before it.
Sorting the rules moves the findings with their rules.

**Results.**
* `Element.MeetsAlike`: two elements in which the same names are met first, in the same order.
* `Element.meetsAlike_dedup`: so it is with an element and the one without repeated alternatives.
* `Grammar.validate_mapRules`: definitions that meet the same names have the same report.
* `Grammar.validate_rewritten`: the reports on simplified and normalised grammars.
-/

namespace SchemaGrammar

namespace Element

/-- The names that have been met when the references of an element have been read, if only some
names count. -/
def meet (keep : String → Bool) (met : List String) (e : Element) : List String :=
  (e.references.filter keep).foldl
    (fun met name => if met.contains name then met else met ++ [name]) met

/-- Whichever names count and whatever has been met before, the same names are met in both
elements, in the same order. -/
def MeetsAlike (d e : Element) : Prop :=
  ∀ (keep : String → Bool) (met : List String), d.meet keep met = e.meet keep met

section Groups

variable (keep : String → Bool) (met : List String)

/-- The names that are met: those before, and the new ones that count. -/
theorem mem_meet
    {name : String}
    {e : Element} :
    name ∈ e.meet keep met ↔ name ∈ met ∨ name ∈ e.references ∧ keep name = true := by
  rw [meet, Distinct.mem_foldl_appendIfNew, List.mem_filter]

/-- The parts of a sequence are read one after the other. -/
theorem meet_sequence
    (es : List Element) :
    (sequence es).meet keep met = es.foldl (meet keep) met := by
  rw [meet, references_sequence, List.filter_flatMap, List.foldl_flatMap]
  rfl

theorem meet_oneOf
    (es : List Element) :
    (oneOf es).meet keep met = es.foldl (meet keep) met := by
  rw [← meet_sequence, meet, meet, references_oneOf, references_sequence]

/-- Elements that are met alike, one after the other. -/
theorem foldl_meet_map
    {f : Element → Element}
    {es : List Element}
    (h : ∀ e ∈ es, (f e).MeetsAlike e) :
    (es.map f).foldl (meet keep) met = es.foldl (meet keep) met := by
  rw [List.foldl_map]
  exact List.foldl_ext _ _ _ fun met e he => h e he keep met

/-- To meet the same names may be used inside groups, optional parts and repetitions. -/
theorem congruence_meetsAlike : Congruence MeetsAlike where
  trans hde hef keep met := (hde keep met).trans (hef keep met)
  sequence h keep met := by rw [meet_sequence, meet_sequence, foldl_meet_map keep met h]
  oneOf h keep met := by rw [meet_oneOf, meet_oneOf, foldl_meet_map keep met h]
  optional h := h
  list h := h

/-- A part that stands among others before meets nothing new behind them. -/
theorem meet_foldl_of_mem
    {e : Element}
    {es : List Element}
    (he : e ∈ es) :
    e.meet keep (es.foldl (meet keep) met) = es.foldl (meet keep) met := by
  refine Distinct.foldl_appendIfNew_of_subset fun name hname => ?_
  obtain ⟨href, hkeep⟩ := List.mem_filter.mp hname
  rw [← meet_sequence, mem_meet, references_sequence]
  exact .inr ⟨List.mem_flatMap.mpr ⟨e, he, href⟩, hkeep⟩

theorem distinct_concat
    (es : List Element)
    (e : Element) :
    distinct (es ++ [e]) =
      if (distinct es).contains e then distinct es else distinct es ++ [e] := by
  rw [distinct, List.foldl_append]
  rfl

/-- Repeated alternatives meet nothing new. -/
theorem foldl_meet_distinct
    (es : List Element) :
    (distinct es).foldl (meet keep) met = es.foldl (meet keep) met := by
  induction es using List.reverseRecOn with
  | nil => rfl
  | append_singleton es e ih =>
      rw [distinct_concat, List.foldl_append, List.foldl_cons, List.foldl_nil]
      split
      · next he =>
          have hmem : e ∈ es := mem_distinct.mp (List.contains_iff_mem.mp he)
          rw [meet_foldl_of_mem keep met hmem, ih]
      · rw [List.foldl_append, ih, List.foldl_cons, List.foldl_nil]

end Groups

section Rewriting

variable {d e : Element}

/-- Elements with the same references are met alike. -/
theorem MeetsAlike.of_references_eq
    (h : d.references = e.references) :
    d.MeetsAlike e := by
  intro keep met
  rw [meet, meet, h]

/-- Where the same names are met, the same names are referred to. -/
theorem MeetsAlike.mem_references_iff
    (h : d.MeetsAlike e)
    {name : String} :
    name ∈ d.references ↔ name ∈ e.references := by
  have hmem : ∀ e : Element, name ∈ e.references ↔ name ∈ e.meet (fun _ => true) [] := by
    simp [mem_meet]
  rw [hmem d, hmem e, h]

theorem meetsAlike_dedupNode
    (e : Element) :
    e.dedupNode.MeetsAlike e := by
  intro keep met
  cases e with
  | oneOf es => rw [dedupNode, meet_oneOf, meet_oneOf, foldl_meet_distinct]
  | _ => rfl

/-- An element meets the same names when its repeated alternatives have been dropped. -/
theorem meetsAlike_dedup
    (e : Element) :
    e.dedup.MeetsAlike e :=
  congruence_meetsAlike.rebuild meetsAlike_dedupNode e

/-- A simplified element is met as before. -/
theorem meetsAlike_simplify
    (o : SimplifyOptions)
    (e : Element) :
    (e.simplify o).MeetsAlike e :=
  .of_references_eq (references_simplify o e)

end Rewriting

end Element

namespace Grammar

variable {g h : Grammar}

section Congruence

/-- Undefined names are reported as they are met. -/
theorem undefinedNames_eq_meet
    (g : Grammar)
    (definition : Element) :
    g.undefinedNames definition = definition.meet (fun name => !g.contains name) [] := rfl

/-- Reachable keys stay reachable where nothing that leads to them is lost. -/
theorem Reachable.mono
    {key : String}
    (hkey : g.Reachable key)
    (hroot : h.root = g.root)
    (hcontains : ∀ name, g.contains name = true → h.contains name = true)
    (hrefers : ∀ key name, g.RefersTo key name → h.RefersTo key name) :
    h.Reachable key := by
  induction hkey with
  | root hdefined => exact hroot ▸ .root (hroot ▸ hcontains _ hdefined)
  | @step key name rule _ hrule hname hdefined ih =>
      obtain ⟨rule', hrule', hname'⟩ := hrefers key name ⟨rule, hrule, hname⟩
      exact .step ih hrule' hname' (hcontains name hdefined)

/-- Two grammars with the same root, the same keys and the same references between them. -/
structure SameReferences (h g : Grammar) : Prop where
  root : h.root = g.root
  contains : ∀ name, h.contains name = g.contains name
  refersTo : ∀ key name, h.RefersTo key name ↔ g.RefersTo key name

/-- Reachability depends on the references only. -/
theorem SameReferences.reachable_iff
    (hg : h.SameReferences g)
    {key : String} :
    h.Reachable key ↔ g.Reachable key := by
  constructor
  · exact fun hkey => hkey.mono hg.root.symm (fun name hname => hg.contains name ▸ hname)
      fun key name => (hg.refersTo key name).mp
  · exact fun hkey => hkey.mono hg.root (fun name hname => (hg.contains name).symm ▸ hname)
      fun key name => (hg.refersTo key name).mpr

theorem SameReferences.unreached_eq
    (hg : h.SameReferences g) :
    (fun key => !h.reachable.contains key) = fun key => !g.reachable.contains key := by
  funext key
  rw [Bool.eq_iff_iff, Bool.not_eq_true', Bool.not_eq_true', ← Bool.not_eq_true,
    ← Bool.not_eq_true, List.contains_iff_mem, List.contains_iff_mem, mem_reachable_iff,
    mem_reachable_iff, hg.reachable_iff]

theorem SameReferences.rootIssues_eq
    (hg : h.SameReferences g) :
    h.rootIssues = g.rootIssues := by
  rw [rootIssues, rootIssues, hg.root, hg.contains]

theorem SameReferences.undefinedNames_eq
    (hg : h.SameReferences g)
    {d e : Element}
    (hd : d.MeetsAlike e) :
    h.undefinedNames d = g.undefinedNames e := by
  have hcontains : (fun name => !h.contains name) = fun name => !g.contains name :=
    funext fun name => congrArg not (hg.contains name)
  rw [undefinedNames_eq_meet, undefinedNames_eq_meet, hcontains, hd]

end Congruence

section Definitions

variable {f : Rule → Element}
  (hf : ∀ {key : String} {rule : Rule},
    g.rule? key = some rule → (f rule).MeetsAlike rule.definition)

include hf

theorem sameReferences_mapRules : (g.mapRules f).SameReferences g where
  root := rfl
  contains name := contains_mapRules f g name
  refersTo key name := by
    constructor
    · rintro ⟨rule, hrule, hname⟩
      obtain ⟨old, hold, rfl⟩ := rule?_mapRules_eq_some_iff.mp hrule
      exact ⟨old, hold, (hf hold).mem_references_iff.mp hname⟩
    · rintro ⟨rule, hrule, hname⟩
      exact ⟨_, rule?_mapRules_eq_some_iff.mpr ⟨rule, hrule, rfl⟩,
        (hf hrule).mem_references_iff.mpr hname⟩

theorem referenceIssues_mapRules :
    (g.mapRules f).referenceIssues = g.referenceIssues := by
  show (g.rules.entries.map _).flatMap _ = _
  rw [List.flatMap_map]
  refine List.flatMap_congr fun ⟨key, rule⟩ hentry => ?_
  have hmeets := hf (rule?_eq_some_iff.mpr hentry)
  exact congrArg (List.map _) ((sameReferences_mapRules hf).undefinedNames_eq hmeets)

/-- Definitions in which the same names are met have the same report. -/
theorem validate_mapRules : (g.mapRules f).validate = g.validate := by
  have hsame := sameReferences_mapRules hf
  have hnames : (g.mapRules f).nameIssues = g.nameIssues := by
    show (g.rules.entries.map _).filterMap _ = _
    rw [List.filterMap_map]
    rfl
  have hreachability : (g.mapRules f).reachabilityIssues = g.reachabilityIssues := by
    rw [reachabilityIssues, reachabilityIssues, keys_mapRules, hsame.unreached_eq]
  rw [validate, validate, hsame.rootIssues_eq, hnames, referenceIssues_mapRules hf, hreachability]

end Definitions

section Order

variable (g : Grammar)

theorem sameReferences_withSortedRules : g.withSortedRules.SameReferences g where
  root := rfl
  contains := contains_withSortedRules g
  refersTo key name := by simp [RefersTo]

/-- Sorting the rules changes the order of the errors only. -/
theorem errors_withSortedRules_perm :
    g.withSortedRules.validate.errors.Perm g.validate.errors := by
  have hsame := sameReferences_withSortedRules g
  have hentries : g.withSortedRules.rules.entries.Perm g.rules.entries :=
    Table.sortKeys_perm g.rules
  have hreferences : g.withSortedRules.referenceIssues.Perm g.referenceIssues := by
    refine (hentries.flatMap_right _).trans (.of_eq (List.flatMap_congr fun e _ => ?_))
    exact congrArg (List.map _) (hsame.undefinedNames_eq fun _ _ => rfl)
  show (g.withSortedRules.rootIssues ++ g.withSortedRules.nameIssues ++
    g.withSortedRules.referenceIssues).Perm (g.rootIssues ++ g.nameIssues ++ g.referenceIssues)
  rw [hsame.rootIssues_eq]
  exact ((List.Perm.refl _).append (hentries.filterMap _)).append hreferences

/-- Sorting puts the warnings in another order. -/
theorem warnings_withSortedRules_perm :
    g.withSortedRules.validate.warnings.Perm g.validate.warnings := by
  show g.withSortedRules.reachabilityIssues.Perm g.reachabilityIssues
  rw [reachabilityIssues, reachabilityIssues, (sameReferences_withSortedRules g).unreached_eq]
  exact (((Table.sortKeys_perm g.rules).map Prod.fst).filter _).map _

end Order

section Verdict

variable (g : Grammar) (s : SimplifyOptions) (n : NormalizeOptions)

/-- **Verdicts of rewritten grammars.**  The report on a simplified grammar is the report on the
grammar itself, and so is the report on a normalised one whose rules have not been sorted; if they
have, the errors and the warnings are the same up to their order. -/
theorem validate_rewritten :
    (g.simplify s).validate = g.validate ∧
    (n.sortRules = false → (g.normalize n).validate = g.validate) ∧
    (n.sortRules = true →
      (g.normalize n).validate.errors.Perm g.validate.errors ∧
      (g.normalize n).validate.warnings.Perm g.validate.warnings) := by
  have hdedup : (g.mapRules fun rule => rule.definition.dedup).validate = g.validate :=
    validate_mapRules fun {_ rule} _ => Element.meetsAlike_dedup rule.definition
  refine ⟨?_, fun hsort => ?_, fun _ => ?_⟩
  · exact validate_mapRules fun {_ rule} _ => Element.meetsAlike_simplify s rule.definition
  · refine normalize_induction n g (fun _ => rfl) (fun _ => hdedup) fun hsorted => ?_
    cases hsort.symm.trans hsorted
  · refine normalize_induction n g (fun _ => ⟨.refl _, .refl _⟩) (fun _ => ?_) fun _ h hperm => ?_
    · rw [hdedup]
      exact ⟨.refl _, .refl _⟩
    · exact ⟨(errors_withSortedRules_perm h).trans hperm.1,
        (warnings_withSortedRules_perm h).trans hperm.2⟩

end Verdict

end Grammar

end SchemaGrammar
