import SchemaGrammar.Proofs.Grammar.WellFormed
import SchemaGrammar.Proofs.Transform.References

/-!
# Canonical grammars

In a canonical grammar no choice repeats an alternative, at any depth, and the keys ascend, as
far as the options ask for it.  Normalisation works from the leaves up, so alternatives are
compared when they have been rewritten themselves: two that were different before may be equal
then.  The rule for one choice is laid down here without regard to how a choice is gone through.

**Results.**
* `Element.Condenses`: what becomes of a definition, by the places of its alternatives.
* `Element.condenses_iff`: dropping repeated alternatives follows this rule.
* `Element.choicesDistinct_dedup`, `Element.dedup_eq_self`: no choice repeats an alternative
  afterwards, and where none did so before nothing changes.
* `Grammar.normalize_canonical`: normalised grammars are canonical and stay as they are.
-/

namespace SchemaGrammar

namespace Element

/-- The second element is the first one with all choices condensed, innermost first: of the
condensed alternatives of a choice those stay that have no equal one before them. -/
inductive Condenses : Element → Element → Prop
  | terminal (name : String) (pattern : Option Pattern) :
      Condenses (.terminal name pattern) (.terminal name pattern)
  | nonTerminal (name : String) : Condenses (.nonTerminal name) (.nonTerminal name)
  | sequence {es ds : List Element}
      (h : List.Forall₂ Condenses es ds) :
      Condenses (.sequence es) (.sequence ds)
  | oneOf {es ds : List Element}
      (h : List.Forall₂ Condenses es ds) :
      Condenses (.oneOf es) (.oneOf (Distinct.firstOccurrences ds))
  | optional {e d : Element} (h : Condenses e d) : Condenses (.optional e) (.optional d)
  | list {e d : Element} (h : Condenses e d) : Condenses (.list e) (.list d)

/-- No choice in the element repeats an alternative, at any depth. -/
def ChoicesDistinct (e : Element) : Prop := ∀ es, .oneOf es ∈ e.walk → es.Nodup

section Dedup

theorem dedup_sequence
    (es : List Element) :
    (sequence es).dedup = .sequence (es.map dedup) :=
  rebuild_sequence _ es

theorem dedup_oneOf
    (es : List Element) :
    (oneOf es).dedup = .oneOf (distinct (es.map dedup)) :=
  rebuild_oneOf _ es

theorem nodup_distinct
    (es : List Element) :
    (distinct es).Nodup :=
  Distinct.nodup_foldl_appendIfNew List.nodup_nil

/-- Distinct alternatives are all kept. -/
theorem distinct_eq_self
    {es : List Element}
    (h : es.Nodup) :
    distinct es = es := by
  have hes : ([] ++ es).Nodup := h
  exact Distinct.foldl_appendIfNew_of_nodup hes

theorem forall₂_map_iff
    {R : Element → Element → Prop}
    {f : Element → Element}
    {es ds : List Element}
    (h : ∀ e ∈ es, ∀ d, R e d ↔ d = f e) :
    List.Forall₂ R es ds ↔ ds = es.map f := by
  induction es generalizing ds with
  | nil => simp
  | cons e es ih =>
      obtain ⟨he, hes⟩ := List.forall_mem_cons.mp h
      rw [List.forall₂_cons_left_iff, List.map_cons]
      constructor
      · rintro ⟨d, ds, hd, hds, rfl⟩
        rw [(he d).mp hd, (ih hes).mp hds]
      · rintro rfl
        exact ⟨_, _, (he _).mpr rfl, (ih hes).mpr rfl, rfl⟩

/-- **Condensed elements.**  An element without its repeated alternatives is the one that the
rule for choices describes, and no other element is. -/
theorem condenses_iff
    {e d : Element} :
    e.Condenses d ↔ d = e.dedup := by
  induction e using inductionOn generalizing d with
  | terminal name pattern =>
      refine ⟨fun h => ?_, fun h => h ▸ .terminal name pattern⟩
      cases h
      rfl
  | nonTerminal name =>
      refine ⟨fun h => ?_, fun h => h ▸ .nonTerminal name⟩
      cases h
      rfl
  | sequence es ih =>
      have hes : ∀ ds, List.Forall₂ Condenses es ds ↔ ds = es.map dedup :=
        fun _ => forall₂_map_iff fun e he _ => ih e he
      rw [dedup_sequence]
      refine ⟨fun h => ?_, fun h => h ▸ .sequence ((hes _).mpr rfl)⟩
      cases h with
      | sequence h => rw [(hes _).mp h]
  | oneOf es ih =>
      have hes : ∀ ds, List.Forall₂ Condenses es ds ↔ ds = es.map dedup :=
        fun _ => forall₂_map_iff fun e he _ => ih e he
      have hfirst : distinct (es.map dedup) = Distinct.firstOccurrences (es.map dedup) :=
        Distinct.foldl_appendIfNew_eq_firstOccurrences _
      rw [dedup_oneOf, hfirst]
      refine ⟨fun h => ?_, fun h => h ▸ .oneOf ((hes _).mpr rfl)⟩
      cases h with
      | oneOf h => rw [(hes _).mp h]
  | optional e ih =>
      refine ⟨fun h => ?_, fun h => h ▸ .optional (ih.mpr rfl)⟩
      cases h with
      | optional h => exact congrArg Element.optional (ih.mp h)
  | list e ih =>
      refine ⟨fun h => ?_, fun h => h ▸ .list (ih.mpr rfl)⟩
      cases h with
      | list h => exact congrArg Element.list (ih.mp h)

/-- No choice repeats an alternative when the repeated ones have been dropped. -/
theorem choicesDistinct_dedup
    (e : Element) :
    e.dedup.ChoicesDistinct := by
  intro ds hds
  induction e using inductionOn with
  | terminal name pattern => cases List.mem_singleton.mp hds
  | nonTerminal name => cases List.mem_singleton.mp hds
  | sequence es ih =>
      rw [dedup_sequence, mem_walk_sequence_iff] at hds
      rcases hds with heq | ⟨d, hd, hds⟩
      · cases heq
      · obtain ⟨e, he, rfl⟩ := List.mem_map.mp hd
        exact ih e he hds
  | oneOf es ih =>
      rw [dedup_oneOf, mem_walk_oneOf_iff] at hds
      rcases hds with heq | ⟨d, hd, hds⟩
      · cases heq
        exact nodup_distinct _
      · obtain ⟨e, he, rfl⟩ := List.mem_map.mp (mem_distinct.mp hd)
        exact ih e he hds
  | optional e ih => exact ih ((List.mem_cons.mp hds).resolve_left (by simp))
  | list e ih => exact ih ((List.mem_cons.mp hds).resolve_left (by simp))

/-- Where no choice repeats an alternative, there is nothing to drop. -/
theorem dedup_eq_self
    {e : Element}
    (h : e.ChoicesDistinct) :
    e.dedup = e := by
  induction e using inductionOn with
  | terminal name pattern => rfl
  | nonTerminal name => rfl
  | sequence es ih =>
      have hes : es.map dedup = es.map id := List.map_congr_left fun e he =>
        ih e he fun ds hds => h ds (walk_subset_sequence he hds)
      rw [dedup_sequence, hes, List.map_id]
  | oneOf es ih =>
      have hes : es.map dedup = es.map id := List.map_congr_left fun e he =>
        ih e he fun ds hds => h ds (walk_subset_oneOf he hds)
      rw [dedup_oneOf, hes, List.map_id, distinct_eq_self (h es (mem_walk_self _))]
  | optional e ih =>
      exact congrArg Element.optional (ih fun ds hds => h ds (List.mem_cons_of_mem _ hds))
  | list e ih =>
      exact congrArg Element.list (ih fun ds hds => h ds (List.mem_cons_of_mem _ hds))

/-- Alternatives that become equal are told apart no longer. -/
example :
    (oneOf [.oneOf [.token "x", .token "x"], .oneOf [.token "x"]]).dedup =
      .oneOf [.oneOf [.token "x"]] := by
  decide

end Dedup

end Element

namespace Grammar

variable (o : NormalizeOptions) (g : Grammar)

section Rules

/-- The rules of a normalised grammar, by their keys. -/
theorem rule?_normalize
    (key : String) :
    (g.normalize o).rule? key = (g.rule? key).map fun rule =>
      if o.removeDuplicates then rule.withDefinition rule.definition.dedup else rule := by
  refine normalize_induction o g (fun h => ?_) (fun h => ?_) fun _ k hk => ?_
  · simp [h]
  · simp [h, rule?_mapRules]
  · rw [rule?_withSortedRules, hk]

/-- Sorting puts the keys in another order. -/
theorem keys_withSortedRules_perm : g.withSortedRules.keys.Perm g.keys :=
  (Table.sortKeys_perm g.rules).map Prod.fst

/-- Normalisation keeps the keys, in some order. -/
theorem keys_normalize_perm : (g.normalize o).keys.Perm g.keys := by
  refine normalize_induction o g (fun _ => .refl _) (fun _ => ?_) fun _ h hperm => ?_
  · rw [keys_mapRules]
  · exact (keys_withSortedRules_perm h).trans hperm

theorem root_normalize : (g.normalize o).root = g.root :=
  normalize_induction o g (fun _ => rfl) (fun _ => rfl) fun _ _ hroot => hroot

theorem metadata_normalize : (g.normalize o).metadata = g.metadata :=
  normalize_induction o g (fun _ => rfl) (fun _ => rfl) fun _ _ hmetadata => hmetadata

/-- Without sorting the keys keep their order. -/
theorem keys_normalize
    (h : o.sortRules = false) :
    (g.normalize o).keys = g.keys := by
  refine normalize_induction o g (fun _ => rfl) (fun _ => keys_mapRules _ g) fun hsort => ?_
  cases h.symm.trans hsort

/-- With sorting the keys are in increasing order. -/
theorem sorted_normalize
    (h : o.sortRules = true) :
    (g.normalize o).rules.entries.Pairwise fun a b => a.1 < b.1 := by
  unfold normalize
  rw [h]
  exact Table.sorted_sortKeys _

end Rules

section Form

/-- There are no repeated alternatives left to drop. -/
theorem mapRules_dedup_normalize
    (h : o.removeDuplicates = true) :
    (g.normalize o).mapRules (fun rule => rule.definition.dedup) = g.normalize o := by
  refine mapRules_eq_self fun {key rule} hrule => ?_
  rw [rule?_normalize] at hrule
  obtain ⟨old, -, rfl⟩ := Option.map_eq_some_iff.mp hrule
  rw [if_pos h]
  exact Element.dedup_eq_self (Element.choicesDistinct_dedup old.definition)

/-- The rules are sorted already. -/
theorem withSortedRules_normalize
    (h : o.sortRules = true) :
    (g.normalize o).withSortedRules = g.normalize o :=
  congrArg (fun rules => { g.normalize o with rules })
    (Table.sortKeys_eq_self (sorted_normalize o g h))

/-- Normalising twice is normalising once. -/
theorem normalize_normalize : (g.normalize o).normalize o = g.normalize o := by
  have hdeduped : (if o.removeDuplicates then
      (g.normalize o).mapRules fun rule => rule.definition.dedup else g.normalize o) =
        g.normalize o := by
    split
    · next h => exact mapRules_dedup_normalize o g h
    · rfl
  rw [normalize.eq_def o (g.normalize o), hdeduped]
  split
  · next h => exact withSortedRules_normalize o g h
  · rfl

/-- **Canonical grammars.**  Normalising again changes nothing, the order of the rules included.
If repeated alternatives are dropped, every definition becomes its condensed form, no choice in it
repeats an alternative, and it is the old definition where none did so before; otherwise the
definitions stay.  If the rules are sorted, their keys ascend; otherwise they keep their order.
The keys, the names of the rules, the root and the metadata never change. -/
theorem normalize_canonical :
    (g.normalize o).normalize o = g.normalize o ∧
    (o.removeDuplicates = true →
      ∀ key rule, g.rule? key = some rule → ∃ definition,
        (g.normalize o).rule? key = some (rule.withDefinition definition) ∧
        rule.definition.Condenses definition ∧
        definition.ChoicesDistinct ∧
        (rule.definition.ChoicesDistinct → definition = rule.definition)) ∧
    (o.removeDuplicates = false → ∀ key, (g.normalize o).rule? key = g.rule? key) ∧
    (o.sortRules = true → (g.normalize o).keys.Pairwise (· < ·)) ∧
    (o.sortRules = false → (g.normalize o).keys = g.keys) ∧
    (g.normalize o).keys.Perm g.keys ∧
    (∀ key, ((g.normalize o).rule? key).map Rule.name = (g.rule? key).map Rule.name) ∧
    (g.normalize o).root = g.root ∧
    (g.normalize o).metadata = g.metadata := by
  refine ⟨normalize_normalize o g, fun hdedup key rule hrule => ?_, fun hkept key => ?_,
    fun hsort => List.pairwise_map.mpr (sorted_normalize o g hsort), keys_normalize o g,
    keys_normalize_perm o g, fun key => ?_, root_normalize o g, metadata_normalize o g⟩
  · refine ⟨rule.definition.dedup, ?_, Element.condenses_iff.mpr rfl,
      Element.choicesDistinct_dedup _, Element.dedup_eq_self⟩
    simp [rule?_normalize, hrule, hdedup]
  · simp [rule?_normalize, hkept]
  · rw [rule?_normalize, Option.map_map]
    refine congrArg (Option.map · _) (funext fun rule => ?_)
    simp only [Function.comp_apply]
    split <;> rfl

end Form

end Grammar

end SchemaGrammar
