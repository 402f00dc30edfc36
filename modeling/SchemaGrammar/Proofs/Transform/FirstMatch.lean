import SchemaGrammar.Proofs.Grammar.FirstMatch
import SchemaGrammar.Proofs.Grammar.WellFormed
import SchemaGrammar.Transform.Normalize

/-!
# Normalisation keeps first-match parsing

An alternative that stands behind an equal one is tried only where the equal one has failed, and
then it fails as well.  So it can be dropped, and it is the later of the two that has to go.

**Results.**
* `Grammar.parses_oneOf_repeated_iff`: a choice does without a repeated alternative.
* `Grammar.parsesAlike_dedup`: dropping the repeated alternatives of a definition.
* `Grammar.parsesRule_normalize_iff`: the rules of a normalised grammar have the outcomes that
  they had before.
-/

namespace SchemaGrammar.Grammar

universe u

variable {τ : Type u} {takes : Terminal → τ → Bool} {g : Grammar}

/-- A choice does without an alternative that stands in it before. -/
theorem parses_oneOf_repeated_iff
    {ds es : List Element}
    {e : Element}
    (he : e ∈ ds)
    {ts : List τ}
    {out : Option (List τ)} :
    g.Parses takes (.oneOf (ds ++ e :: es)) ts out ↔ g.Parses takes (.oneOf (ds ++ es)) ts out := by
  rw [parses_oneOf_append_iff, parses_oneOf_append_iff]
  refine or_congr Iff.rfl (and_congr_right fun hds => ?_)
  -- all of `ds` have failed, and `e` with them
  have hfail : g.Parses takes e ts none := parses_none_of_mem hds he
  rw [parses_oneOf_cons_iff]
  constructor
  · rintro (⟨hout, hsome⟩ | ⟨-, hes⟩)
    · exact absurd (hsome.deterministic hfail) hout
    · exact hes
  · exact fun hes => .inr ⟨hfail, hes⟩

/-- Alternatives that are dropped because they stand before change no parse. -/
theorem parsesAlike_oneOf_foldl
    (es kept : List Element) :
    g.ParsesAlike takes
      (.oneOf (es.foldl (fun kept e => if kept.contains e then kept else kept ++ [e]) kept))
      (.oneOf (kept ++ es)) := by
  induction es generalizing kept with
  | nil =>
      intro ts out
      rw [List.foldl_nil, List.append_nil]
  | cons e es ih =>
      intro ts out
      rw [List.foldl_cons, ih]
      split
      · next he => exact (parses_oneOf_repeated_iff (List.contains_iff_mem.mp he)).symm
      · rw [List.append_assoc, List.singleton_append]

theorem parsesAlike_dedupNode
    (e : Element) :
    g.ParsesAlike takes e.dedupNode e := by
  cases e with
  | oneOf es => exact parsesAlike_oneOf_foldl es []
  | _ => exact fun _ _ => Iff.rfl

/-- An element does without the repeated alternatives of its choices. -/
theorem parsesAlike_dedup
    (e : Element) :
    g.ParsesAlike takes e.dedup e :=
  (congruence_parsesAlike g).rebuild parsesAlike_dedupNode e

/-- **First-match parsing of a normalised grammar.**  Whatever the terminals take, every rule
succeeds and leaves the same tokens, or fails, before and after normalisation. -/
theorem parsesRule_normalize_iff
    (takes : Terminal → τ → Bool)
    (o : NormalizeOptions)
    (g : Grammar)
    (key : String)
    (ts : List τ)
    (out : Option (List τ)) :
    (g.normalize o).ParsesRule takes key ts out ↔ g.ParsesRule takes key ts out := by
  have hdeduped : (if o.removeDuplicates then g.mapRules fun rule => rule.definition.dedup
      else g).ParsesRule takes key ts out ↔ g.ParsesRule takes key ts out := by
    split
    · exact parsesRule_mapRules_iff fun _ rule => parsesAlike_dedup rule.definition
    · exact Iff.rfl
  unfold normalize
  dsimp only
  split
  · exact (parsesRule_congr (rule?_withSortedRules _)).trans hdeduped
  · exact hdeduped

end SchemaGrammar.Grammar
