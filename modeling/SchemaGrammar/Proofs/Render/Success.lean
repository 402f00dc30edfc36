import SchemaGrammar.Proofs.Collection.Except
import SchemaGrammar.Render.Document

/-!
# How rendering succeeds

A rule that is rendered has been left out as a description, passed over because it is the schema
definition and has been entered before, or entered.  The blocks of a document are the root and,
unless it has been entered on the way or is not there, the schema definition.

**Results.**
* `Walk.run_rule_cases`: what a rule has done that is rendered.
* `Grammar.run_blocks_cases`: what the blocks of a document are.
* `Grammar.render_congr_of_rules`: two grammars that render the root and the schema definition in
  the same way.
-/

namespace SchemaGrammar

namespace Render.Walk

variable {g : Grammar} {o : Options} {s t : Trace} {text : String}

/-- **Rules.**  A rule that is rendered is left out, passed over or entered. -/
theorem run_rule_cases
    {allowance : Nat}
    {key : String}
    {c : Context}
    (h : (rule g o allowance key c).run s = .ok (text, t)) :
    ∃ r n, g.rule? key = some r ∧ allowance = n + 1 ∧
      ((o.includeDescriptions = false ∧ r.name = RuleName.description ∧ text = "" ∧ t = s) ∨
        (r.name = RuleName.schemaDefinition ∧ .entered r.name ∈ s ∧
          text = "" ∧ t = .repeated r.name :: s) ∨
        ((r.name = RuleName.schemaDefinition → .entered r.name ∉ s) ∧
          (element o (rule g o n) r.definition (c.enteringRule r.name)).run
            (.entered r.name :: s) = .ok (text, t))) := by
  unfold rule at h
  cases hr : g.rule? key with
  | none =>
      rw [hr] at h
      cases h
  | some r =>
      rw [hr] at h
      cases allowance with
      | zero => cases h
      | succ n =>
          refine ⟨r, n, rfl, rfl, ?_⟩
          dsimp only at h
          split at h
          · next hskipped =>
              rw [Bool.and_eq_true, Bool.not_eq_true', beq_iff_eq] at hskipped
              cases h
              exact .inl ⟨hskipped.1, hskipped.2, rfl, rfl⟩
          · change (if r.name == RuleName.schemaDefinition && s.contains (.entered r.name) then
                (do note (.repeated r.name); return "")
              else do
                note (.entered r.name)
                element o (rule g o n) r.definition (c.enteringRule r.name) :
                Walk String).run s = .ok (text, t) at h
            split at h
            · next hrepeated =>
                rw [Bool.and_eq_true, beq_iff_eq, List.contains_iff_mem] at hrepeated
                cases h
                exact .inr (.inl ⟨hrepeated.1, hrepeated.2, rfl, rfl⟩)
            · next hfirst =>
                rw [Bool.and_eq_true, beq_iff_eq, List.contains_iff_mem, not_and] at hfirst
                exact .inr (.inr ⟨hfirst, h⟩)

end Render.Walk

namespace Grammar

open Render

variable {g h : Grammar} {o : Render.Options}

/-- **Blocks.**  The root comes first; the schema definition follows if it is there and has not
been entered. -/
theorem run_blocks_cases
    {texts : List String}
    {t : Trace}
    (hrun : (Render.blocks g o).run [] = .ok (texts, t)) :
    ∃ main t', (Walk.rule g o o.maxDepth g.root .start).run [] = .ok (main, t') ∧
      ((.entered RuleName.schemaDefinition ∉ t' ∧ g.contains RuleName.schemaDefinition = true ∧
          ∃ schema, texts = [main, schema] ∧
            (Walk.rule g o o.maxDepth RuleName.schemaDefinition .start).run t' =
              .ok (schema, t)) ∨
        ((g.contains RuleName.schemaDefinition = true → .entered RuleName.schemaDefinition ∈ t') ∧
          texts = [main] ∧ t = t')) := by
  unfold Render.blocks at hrun
  rw [StateT.run_bind] at hrun
  obtain ⟨⟨main, t'⟩, hmain, hrun⟩ := Except.bind_eq_ok_iff.mp hrun
  refine ⟨main, t', hmain, ?_⟩
  change (if !t'.contains (.entered RuleName.schemaDefinition) &&
      g.contains RuleName.schemaDefinition then do
      let schema ← Walk.rule g o o.maxDepth RuleName.schemaDefinition .start
      return [main, schema]
    else return [main] : Walk (List String)).run t' = .ok (texts, t) at hrun
  split at hrun
  · next hmissing =>
      rw [Bool.and_eq_true, Bool.not_eq_true', ← Bool.not_eq_true, List.contains_iff_mem]
        at hmissing
      rw [StateT.run_bind] at hrun
      obtain ⟨⟨schema, t''⟩, hschema, hrun⟩ := Except.bind_eq_ok_iff.mp hrun
      cases hrun
      exact .inl ⟨hmissing.1, hmissing.2, schema, rfl, hschema⟩
  · next hdone =>
      cases hrun
      refine .inr ⟨fun hdefined => ?_, rfl, rfl⟩
      rw [hdefined, Bool.and_true, Bool.not_eq_true', Bool.not_eq_false,
        List.contains_iff_mem] at hdone
      exact hdone

/-- An outline is what the walk of the blocks has made. -/
theorem run_blocks_of_outline_eq_ok
    {outline : Render.Outline}
    (h : g.outline o = .ok outline) :
    (Render.blocks g o).run [] = .ok (outline.blocks, outline.trace) := by
  unfold Grammar.outline at h
  split at h
  · split at h
    · next hblocks =>
        cases h
        exact hblocks
    · cases h
  · cases h

/-- A grammar is rendered as the text of its outline. -/
theorem render_eq_ok_iff
    {text : String} :
    g.render o = .ok text ↔
      ∃ outline, g.outline o = .ok outline ∧ outline.text o.layout = text := by
  unfold render
  cases g.outline o with
  | error err => simp [Except.map]
  | ok outline => simp [Except.map]

/-- Rendering starts at the root and at the schema definition and nowhere else. -/
theorem render_congr_of_rules
    (hroot : h.root = g.root)
    (hrules : ∀ key, key = g.root ∨ key = RuleName.schemaDefinition →
      h.contains key = g.contains key ∧
        Walk.rule h o o.maxDepth key .start = Walk.rule g o o.maxDepth key .start) :
    h.render o = g.render o := by
  obtain ⟨hcontainsRoot, hmain⟩ := hrules g.root (.inl rfl)
  obtain ⟨hcontainsSchema, hschema⟩ := hrules RuleName.schemaDefinition (.inr rfl)
  have hblocks : Render.blocks h o = Render.blocks g o := by
    unfold Render.blocks
    rw [hroot, hcontainsSchema, hmain, hschema]
  unfold Grammar.render Grammar.outline
  rw [hroot, hcontainsRoot, hblocks]

end Grammar

end SchemaGrammar
