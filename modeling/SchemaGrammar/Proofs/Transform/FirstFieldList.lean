import SchemaGrammar.Proofs.Grammar.Element
import SchemaGrammar.Transform.Field

/-!
# The first field list of a definition

A definition either has no field list at all, or it is a first field list in its surroundings.
The surroundings are kept as a function that fills their hole: what comes before the hole in
pre-order has no field list, and no three elements of a sequence make one before the hole is
reached.

**Results.**
* `Element.FirstHole`: the surroundings of the first field list.
* `Element.firstHole_or_bare`: every element has such surroundings, or no field list.
* `Element.FirstHole.withContainer`: the hole is where a new field list is put.
* `Element.FirstHole.refill`: a field list that has been put into the hole is the first one there.
-/

namespace SchemaGrammar.Element

section Runs

variable {opening closing e d x : Element} {es rest : List Element}

/-- A container in front: a brace, a list and a closing brace. -/
theorem startsContainer_eq_true_iff :
    startsContainer es = true ↔
      ∃ opening inner closing rest, es = opening :: .list inner :: closing :: rest ∧
        opening.isToken "\x7b" = true ∧ closing.isToken "\x7d" = true := by
  constructor
  · intro h
    unfold startsContainer at h
    split at h
    · next opening inner closing rest =>
        exact ⟨opening, inner, closing, rest, rfl, (Bool.and_eq_true _ _).mp h⟩
    · cases h
  · rintro ⟨opening, inner, closing, rest, rfl, hopening, hclosing⟩
    simp [startsContainer, hopening, hclosing]

/-- A field list made of three elements of a sequence begins with a token. -/
theorem startsContainer_cons_of_kind
    (h : e.kind ≠ .terminal) :
    startsContainer (e :: es) = false := by
  rw [← Bool.not_eq_true, startsContainer_eq_true_iff]
  rintro ⟨opening, inner, closing, rest, heq, hopening, -⟩
  cases heq
  cases e <;> simp [kind, isToken] at h hopening

/-- Its second element is a repetition. -/
theorem startsContainer_cons_cons_of_kind
    (h : e.kind ≠ .list) :
    startsContainer (opening :: e :: es) = false := by
  rw [← Bool.not_eq_true, startsContainer_eq_true_iff]
  rintro ⟨_, inner, closing, rest, heq, -, -⟩
  cases heq
  exact h rfl

/-- Its third element closes it. -/
theorem startsContainer_cons_cons_cons_of_isToken
    (h : closing.isToken "\x7d" = false) :
    startsContainer (opening :: e :: closing :: es) = false := by
  rw [← Bool.not_eq_true, startsContainer_eq_true_iff]
  rintro ⟨_, inner, _, rest, heq, -, hclosing⟩
  cases heq
  rw [h] at hclosing
  cases hclosing

/-- Whether a field list begins depends on three elements. -/
theorem startsContainer_congr
    (opening e closing : Element)
    (es es' : List Element) :
    startsContainer (opening :: e :: closing :: es) =
      startsContainer (opening :: e :: closing :: es') := by
  cases e <;> rfl

theorem isToken_of_kind
    (h : e.kind ≠ .terminal)
    (text : String) :
    e.isToken text = false := by
  cases e <;> simp [kind, isToken] at h ⊢

theorem isContainer_sequence_of_startsContainer
    (h : startsContainer es = false) :
    isContainer (.sequence es) = false := by
  rw [isContainer, h, Bool.and_false]

end Runs

/-- No field list stands anywhere in the element. -/
def Bare (e : Element) : Prop := ∀ x, replaceContainer? x e = none

/-- No field list stands in, or begins among, elements with others behind them. -/
def Passes : List Element → List Element → Prop
  | [], _ => True
  | e :: before, rest =>
      Bare e ∧ startsContainer (e :: (before ++ rest)) = false ∧ Passes before rest

/-- The first field list of an element, in pre-order, stands in a hole of its surroundings. -/
inductive FirstHole : Element → (Element → Element) → Prop
  | here {e : Element} (h : isContainer e = true) : FirstHole e fun x => x
  | run {before after : List Element} {opening inner closing : Element}
      (hbefore : Passes before (opening :: .list inner :: closing :: after))
      (hopening : opening.isToken "\x7b" = true)
      (hclosing : closing.isToken "\x7d" = true)
      (hwhole : isContainer (.sequence (before ++ opening :: .list inner :: closing :: after)) =
        false) :
      FirstHole (.sequence (before ++ opening :: .list inner :: closing :: after))
        fun x => .sequence (before ++ x :: after)
  | sequence {before after : List Element} {e : Element} {fill : Element → Element}
      (hbefore : Passes before (e :: after))
      (hrun : startsContainer (e :: after) = false)
      (h : FirstHole e fill) :
      FirstHole (.sequence (before ++ e :: after)) fun x => .sequence (before ++ fill x :: after)
  | oneOf {before after : List Element} {e : Element} {fill : Element → Element}
      (hbefore : ∀ d ∈ before, Bare d)
      (h : FirstHole e fill) :
      FirstHole (.oneOf (before ++ e :: after)) fun x => .oneOf (before ++ fill x :: after)
  | optional {e : Element} {fill : Element → Element}
      (h : FirstHole e fill) :
      FirstHole (.optional e) fun x => .optional (fill x)
  | list {e : Element} {fill : Element → Element}
      (h : FirstHole e fill) :
      FirstHole (.list e) fun x => .list (fill x)

section Passing

variable {before rest rest' : List Element} {e : Element}

/-- Elements may be followed by others that complete no more field lists. -/
theorem Passes.congr
    (h : Passes before rest)
    (hsecond : ∀ opening, startsContainer (opening :: rest) = false →
      startsContainer (opening :: rest') = false)
    (hthird : ∀ opening d, startsContainer (opening :: d :: rest) = false →
      startsContainer (opening :: d :: rest') = false) :
    Passes before rest' := by
  induction before with
  | nil => exact trivial
  | cons e before ih =>
      obtain ⟨hbare, hstarts, hpasses⟩ := h
      refine ⟨hbare, ?_, ih hpasses⟩
      match before, hstarts with
      | [], hstarts => exact hsecond e hstarts
      | [d], hstarts => exact hthird e d hstarts
      | d :: d' :: before, hstarts =>
          exact (startsContainer_congr e d d' _ (before ++ rest')).symm.trans hstarts

theorem Passes.startsContainer_append
    (h : Passes before rest)
    (hrest : startsContainer rest = false) :
    startsContainer (before ++ rest) = false := by
  cases before with
  | nil => exact hrest
  | cons e before => exact h.2.1

/-- Elements that are passed by are bare. -/
theorem Passes.bare
    (h : Passes before rest) :
    ∀ e ∈ before, Bare e := by
  induction before with
  | nil => simp
  | cons e before ih => exact List.forall_mem_cons.mpr ⟨h.1, ih h.2.2⟩

/-- What is passed by stays in front of the replacement. -/
theorem replaceInSequence?_append
    (h : Passes before rest)
    (x : Element) :
    replaceInSequence? x (before ++ rest) = (replaceInSequence? x rest).map (before ++ ·) := by
  induction before with
  | nil => simp
  | cons e before ih =>
      obtain ⟨hbare, hstarts, hpasses⟩ := h
      rw [List.cons_append, replaceInSequence?, hstarts, if_neg Bool.false_ne_true, hbare x,
        ih hpasses]
      simp [Option.map_map, Function.comp_def]

/-- Bare alternatives stay in front of the replacement. -/
theorem replaceInOptions?_append
    (h : ∀ e ∈ before, Bare e)
    (x : Element) :
    replaceInOptions? x (before ++ rest) = (replaceInOptions? x rest).map (before ++ ·) := by
  induction before with
  | nil => simp
  | cons e before ih =>
      obtain ⟨hbare, hbefore⟩ := List.forall_mem_cons.mp h
      rw [List.cons_append, replaceInOptions?, hbare x, ih hbefore]
      simp [Option.map_map, Function.comp_def]

end Passing

section Search

variable {e : Element} {es : List Element} {fill : Element → Element}

/-- The hole is where a replacement is put. -/
theorem FirstHole.replaceContainer?_eq
    (h : FirstHole e fill)
    (x : Element) :
    replaceContainer? x e = some (fill x) := by
  induction h with
  | @here e h =>
      cases e with
      | nonTerminal name => rw [replaceContainer?, if_pos h]
      | sequence es => rw [replaceContainer?, if_pos h]
      | _ => cases h
  | run hbefore hopening hclosing hwhole =>
      rw [replaceContainer?, hwhole, if_neg Bool.false_ne_true, replaceInSequence?_append hbefore,
        replaceInSequence?]
      simp [startsContainer, hopening, hclosing]
  | sequence hbefore hrun _ ih =>
      have hwhole := isContainer_sequence_of_startsContainer (hbefore.startsContainer_append hrun)
      rw [replaceContainer?, hwhole, if_neg Bool.false_ne_true, replaceInSequence?_append hbefore,
        replaceInSequence?, hrun, if_neg Bool.false_ne_true, ih]
      rfl
  | oneOf hbefore _ ih =>
      rw [replaceContainer?, replaceInOptions?_append hbefore, replaceInOptions?, ih]
      rfl
  | optional _ ih =>
      rw [replaceContainer?, ih]
      rfl
  | list _ ih =>
      rw [replaceContainer?, ih]
      rfl

/-- A sequence is passed, or it has a first field list: three of its elements, or in one of
them. -/
theorem sequence_cases
    (hes : ∀ e ∈ es, (∃ fill, FirstHole e fill) ∨ Bare e) :
    Passes es [] ∨
      (∃ before opening inner closing after,
        es = before ++ opening :: .list inner :: closing :: after ∧
          Passes before (opening :: .list inner :: closing :: after) ∧
          opening.isToken "\x7b" = true ∧ closing.isToken "\x7d" = true) ∨
      ∃ before e after fill, es = before ++ e :: after ∧ Passes before (e :: after) ∧
        startsContainer (e :: after) = false ∧ FirstHole e fill := by
  induction es with
  | nil => exact .inl trivial
  | cons e es ih =>
      obtain ⟨he, hes⟩ := List.forall_mem_cons.mp hes
      by_cases hstarts : startsContainer (e :: es) = true
      · obtain ⟨opening, inner, closing, after, heq, hopening, hclosing⟩ :=
          startsContainer_eq_true_iff.mp hstarts
        exact .inr (.inl ⟨[], opening, inner, closing, after, heq, trivial, hopening, hclosing⟩)
      · rw [Bool.not_eq_true] at hstarts
        rcases he with ⟨fill, hfill⟩ | hbare
        · exact .inr (.inr ⟨[], e, es, fill, rfl, trivial, hstarts, hfill⟩)
        · rcases ih hes with hpasses | ⟨before, opening, inner, closing, after, rfl, hpasses, h⟩ |
            ⟨before, d, after, fill, rfl, hpasses, h⟩
          · refine .inl ⟨hbare, ?_, hpasses⟩
            rwa [List.append_nil]
          · exact .inr (.inl ⟨e :: before, opening, inner, closing, after, rfl,
              ⟨hbare, hstarts, hpasses⟩, h⟩)
          · exact .inr (.inr ⟨e :: before, d, after, fill, rfl, ⟨hbare, hstarts, hpasses⟩, h⟩)

/-- Either all alternatives are bare, or one of them is the first with a hole. -/
theorem oneOf_cases
    (hes : ∀ e ∈ es, (∃ fill, FirstHole e fill) ∨ Bare e) :
    (∀ e ∈ es, Bare e) ∨
      ∃ before e after fill, es = before ++ e :: after ∧ (∀ d ∈ before, Bare d) ∧
        FirstHole e fill := by
  induction es with
  | nil => exact .inl (List.forall_mem_nil Bare)
  | cons e es ih =>
      obtain ⟨he, hes⟩ := List.forall_mem_cons.mp hes
      rcases he with ⟨fill, hfill⟩ | hbare
      · exact .inr ⟨[], e, es, fill, rfl, List.forall_mem_nil Bare, hfill⟩
      · rcases ih hes with hall | ⟨before, d, after, fill, rfl, hbefore, hfill⟩
        · exact .inl (List.forall_mem_cons.mpr ⟨hbare, hall⟩)
        · exact .inr ⟨e :: before, d, after, fill, rfl,
            List.forall_mem_cons.mpr ⟨hbare, hbefore⟩, hfill⟩

theorem bare_sequence
    (hwhole : isContainer (.sequence es) = false)
    (hpasses : Passes es []) :
    Bare (.sequence es) := by
  intro x
  have hnone := replaceInSequence?_append hpasses x
  rw [List.append_nil] at hnone
  rw [replaceContainer?, hwhole, if_neg Bool.false_ne_true, hnone]
  rfl

theorem bare_oneOf
    (hes : ∀ e ∈ es, Bare e) :
    Bare (.oneOf es) := by
  intro x
  have hnone : replaceInOptions? x (es ++ []) = _ := replaceInOptions?_append hes x
  rw [List.append_nil] at hnone
  rw [replaceContainer?, hnone]
  rfl

/-- **The first field list.**  An element has a first field list, or none at all. -/
theorem firstHole_or_bare
    (e : Element) :
    (∃ fill, FirstHole e fill) ∨ Bare e := by
  induction e using inductionOn with
  | terminal name pattern => exact .inr fun _ => rfl
  | nonTerminal name =>
      by_cases hname : isContainer (.nonTerminal name) = true
      · exact .inl ⟨_, .here hname⟩
      · refine .inr fun x => ?_
        rw [replaceContainer?, if_neg hname]
  | sequence es ih =>
      by_cases hwhole : isContainer (.sequence es) = true
      · exact .inl ⟨_, .here hwhole⟩
      · rw [Bool.not_eq_true] at hwhole
        rcases sequence_cases ih with hpasses |
          ⟨before, opening, inner, closing, after, rfl, hpasses, hopening, hclosing⟩ |
          ⟨before, d, after, fill, rfl, hpasses, hrun, hfill⟩
        · exact .inr (bare_sequence hwhole hpasses)
        · exact .inl ⟨_, .run hpasses hopening hclosing hwhole⟩
        · exact .inl ⟨_, .sequence hpasses hrun hfill⟩
  | oneOf es ih =>
      rcases oneOf_cases ih with hall | ⟨before, d, after, fill, rfl, hbefore, hfill⟩
      · exact .inr (bare_oneOf hall)
      · exact .inl ⟨_, .oneOf hbefore hfill⟩
  | optional e ih =>
      rcases ih with ⟨fill, hfill⟩ | hbare
      · exact .inl ⟨_, .optional hfill⟩
      · refine .inr fun x => ?_
        rw [replaceContainer?, hbare x]
        rfl
  | list e ih =>
      rcases ih with ⟨fill, hfill⟩ | hbare
      · exact .inl ⟨_, .list hfill⟩
      · refine .inr fun x => ?_
        rw [replaceContainer?, hbare x]
        rfl

/-- The first hole is filled. -/
theorem FirstHole.withContainer
    (h : FirstHole e fill)
    (x : Element) :
    e.withContainer x = fill x := by
  rw [Element.withContainer, h.replaceContainer?_eq, Option.getD_some]

/-- Without a hole the container is appended. -/
theorem Bare.withContainer
    (h : Bare e)
    (x : Element) :
    e.withContainer x = e.appended x := by
  rw [Element.withContainer, h x, Option.getD_none]

end Search

section Filling

variable {e x : Element} {fill : Element → Element}

theorem FirstHole.kind_fill_ne_terminal
    (h : FirstHole e fill)
    (hx : x.kind = .sequence) :
    (fill x).kind ≠ .terminal := by
  cases h with
  | here _ => simp [hx]
  | _ => simp [kind]

/-- With a sequence in the hole no more field lists are completed. -/
theorem FirstHole.startsContainer_fill
    (h : FirstHole e fill)
    (hx : x.kind = .sequence)
    (opening : Element)
    (after : List Element)
    (hstarts : startsContainer (opening :: e :: after) = false) :
    startsContainer (opening :: fill x :: after) = false := by
  cases h with
  | here _ => exact startsContainer_cons_cons_of_kind (by simp [hx])
  | list _ =>
      cases after with
      | nil => rfl
      | cons closing after => exact hstarts
  | _ => exact startsContainer_cons_cons_of_kind (by simp [kind])

theorem FirstHole.passes_fill
    (h : FirstHole e fill)
    (hx : x.kind = .sequence)
    {before after : List Element}
    (hbefore : Passes before (e :: after)) :
    Passes before (fill x :: after) := by
  refine hbefore.congr (fun opening => h.startsContainer_fill hx opening after) ?_
  intro opening d _
  have hclosing := isToken_of_kind (h.kind_fill_ne_terminal hx) "\x7d"
  exact startsContainer_cons_cons_cons_of_isToken hclosing

/-- **The field list that has been put in.**  A field list in the hole is the first one. -/
theorem FirstHole.refill
    (h : FirstHole e fill)
    (hx : isContainer x = true)
    (hkind : x.kind = .sequence) :
    FirstHole (fill x) fill := by
  induction h with
  | here _ => exact .here hx
  | @run before after opening inner closing hbefore hopening hclosing hwhole =>
      have hne : x.kind ≠ .terminal := by simp [hkind]
      have hpasses : Passes before (x :: after) := by
        refine hbefore.congr (fun opening' _ => ?_) (fun opening' d _ => ?_)
        · exact startsContainer_cons_cons_of_kind (by simp [hkind])
        · exact startsContainer_cons_cons_cons_of_isToken (isToken_of_kind hne _)
      exact .sequence hpasses (startsContainer_cons_of_kind hne) (.here hx)
  | sequence hbefore _ h ih =>
      have hne := h.kind_fill_ne_terminal hkind
      exact .sequence (h.passes_fill hkind hbefore) (startsContainer_cons_of_kind hne) ih
  | oneOf hbefore _ ih => exact .oneOf hbefore ih
  | optional _ ih => exact .optional ih
  | list _ ih => exact .list ih

end Filling

end SchemaGrammar.Element
