import SchemaGrammar.Proofs.Grammar.Element
import SchemaGrammar.Transform.Simplify

/-!
# Simple definitions

In a simple definition no sequence stands directly in a sequence, and no sequence or choice has
a single element, as far as the options ask for it.  One pass of simplification makes every
definition simple, and it keeps those that are.

**Results.**
* `Element.Simple`: nothing is left to be simplified.
* `Element.simple_simplify`: a simplified element is simple.
* `Element.simplify_eq_self_iff`: simplification keeps exactly the simple elements.
-/

namespace SchemaGrammar.Element

variable {o : SimplifyOptions}

/-- Nothing is left to be simplified. -/
inductive Simple (o : SimplifyOptions) : Element → Prop
  | terminal (name : String) (pattern : Option Pattern) : Simple o (.terminal name pattern)
  | nonTerminal (name : String) : Simple o (.nonTerminal name)
  | sequence {es : List Element}
      (hes : ∀ e ∈ es, Simple o e)
      (hflat : o.flattenSequences = true → ∀ e ∈ es, e.kind ≠ .sequence)
      (hlength : o.collapseSingletons = true → es.length ≠ 1) :
      Simple o (.sequence es)
  | oneOf {es : List Element}
      (hes : ∀ e ∈ es, Simple o e)
      (hlength : o.collapseSingletons = true → es.length ≠ 1) :
      Simple o (.oneOf es)
  | optional {e : Element} (h : Simple o e) : Simple o (.optional e)
  | list {e : Element} (h : Simple o e) : Simple o (.list e)

section Groups

variable {e d : Element} {es : List Element} {group : List Element → Element}

theorem spliced_of_kind
    (h : e.kind ≠ .sequence) :
    e.spliced = [e] := by
  cases e with
  | sequence es => exact absurd rfl h
  | _ => rfl

/-- Without nested sequences nothing is spliced. -/
theorem flatMap_spliced
    (h : ∀ e ∈ es, e.kind ≠ .sequence) :
    es.flatMap spliced = es := by
  rw [List.flatMap_congr fun e he => spliced_of_kind (h e he), List.flatMap_singleton']

/-- A group that is not of one element stays. -/
theorem collapse_of_length
    (h : o.collapseSingletons = true → es.length ≠ 1) :
    collapse o group es = group es := by
  unfold collapse
  split
  · next e => exact if_neg fun ho => h ho rfl
  · rfl

/-- A group of elements collapses to one of them, or stays a group of more or less than one. -/
theorem collapse_cases
    (o : SimplifyOptions)
    (group : List Element → Element)
    (es : List Element) :
    collapse o group es ∈ es ∨
      collapse o group es = group es ∧ (o.collapseSingletons = true → es.length ≠ 1) := by
  by_cases h : o.collapseSingletons = true ∧ es.length = 1
  · obtain ⟨ho, hlength⟩ := h
    obtain ⟨e, rfl⟩ := List.length_eq_one_iff.mp hlength
    simp [collapse, ho]
  · have hlength : o.collapseSingletons = true → es.length ≠ 1 := fun ho h' => h ⟨ho, h'⟩
    exact .inr ⟨collapse_of_length hlength, hlength⟩

/-- What a simple element contributes to a sequence is simple, and no sequence. -/
theorem Simple.of_mem_spliced
    (h : e.Simple o)
    (hflat : o.flattenSequences = true)
    (hd : d ∈ e.spliced) :
    d.Simple o ∧ d.kind ≠ .sequence := by
  cases h with
  | sequence hes hnested _ => exact ⟨hes d hd, hnested hflat d hd⟩
  | _ =>
      obtain rfl := List.mem_singleton.mp hd
      exact ⟨by constructor <;> assumption, by simp [kind]⟩

end Groups

section Pass

variable {e : Element}

theorem simplify_sequence_eq
    (o : SimplifyOptions)
    (es : List Element) :
    (sequence es).simplify o = simplifyNode o (.sequence (es.map (simplify o))) :=
  rebuild_sequence _ es

theorem simplify_oneOf
    (o : SimplifyOptions)
    (es : List Element) :
    (oneOf es).simplify o = collapse o .oneOf (es.map (simplify o)) :=
  rebuild_oneOf _ es

/-- **Simplified elements are simple.**  One pass is enough. -/
theorem simple_simplify
    (o : SimplifyOptions)
    (e : Element) :
    (e.simplify o).Simple o := by
  induction e using inductionOn with
  | terminal name pattern => exact .terminal name pattern
  | nonTerminal name => exact .nonTerminal name
  | sequence es ih =>
      rw [simplify_sequence_eq, simplifyNode]
      have hes : ∀ d ∈ es.map (simplify o), d.Simple o := List.forall_mem_map.mpr ih
      generalize es.map (simplify o) = ds at hes
      by_cases hflat : o.flattenSequences = true
      · rw [if_pos hflat]
        have hds : ∀ d ∈ ds.flatMap spliced, d.Simple o ∧ d.kind ≠ .sequence := by
          intro d hd
          obtain ⟨e, he, hd⟩ := List.mem_flatMap.mp hd
          exact (hes e he).of_mem_spliced hflat hd
        rcases collapse_cases o .sequence (ds.flatMap spliced) with hmem | ⟨heq, hlength⟩
        · exact (hds _ hmem).1
        · rw [heq]
          exact .sequence (fun d hd => (hds d hd).1) (fun _ d hd => (hds d hd).2) hlength
      · rw [if_neg hflat]
        rcases collapse_cases o .sequence ds with hmem | ⟨heq, hlength⟩
        · exact hes _ hmem
        · rw [heq]
          exact .sequence hes (fun h => absurd h hflat) hlength
  | oneOf es ih =>
      rw [simplify_oneOf]
      have hes : ∀ d ∈ es.map (simplify o), d.Simple o := List.forall_mem_map.mpr ih
      rcases collapse_cases o .oneOf (es.map (simplify o)) with hmem | ⟨heq, hlength⟩
      · exact hes _ hmem
      · rw [heq]
        exact .oneOf hes hlength
  | optional e ih => exact .optional ih
  | list e ih => exact .list ih

/-- Simple elements stay as they are. -/
theorem Simple.simplify_eq
    (h : e.Simple o) :
    e.simplify o = e := by
  induction h with
  | terminal name pattern => rfl
  | nonTerminal name => rfl
  | @sequence es _ hflat hlength ih =>
      have hmap : es.map (simplify o) = es := (List.map_congr_left ih).trans es.map_id
      rw [simplify_sequence_eq, simplifyNode, hmap]
      split
      · next ho => rw [flatMap_spliced (hflat ho), collapse_of_length hlength]
      · rw [collapse_of_length hlength]
  | @oneOf es _ hlength ih =>
      have hmap : es.map (simplify o) = es := (List.map_congr_left ih).trans es.map_id
      rw [simplify_oneOf, hmap, collapse_of_length hlength]
  | optional _ ih => exact congrArg Element.optional ih
  | list _ ih => exact congrArg Element.list ih

/-- **Kept elements.**  Simplification keeps the simple elements and no others. -/
theorem simplify_eq_self_iff :
    e.simplify o = e ↔ e.Simple o :=
  ⟨fun h => h ▸ simple_simplify o e, Simple.simplify_eq⟩

end Pass

end SchemaGrammar.Element
