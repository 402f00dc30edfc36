import SchemaGrammar.Proofs.Grammar.Address
import SchemaGrammar.Proofs.Grammar.WellFormed
import SchemaGrammar.Proofs.Transform.FieldParts
import SchemaGrammar.Proofs.Transform.FirstFieldList

/-!
# Where a new field list goes

Field lists can be told by their addresses: a reference, a repetition between braces, or the
same three elements inside a longer sequence.  A new field list takes the place of the one with
the least address, and everything else stays where it is.  The rule that has got it is stored
under the name that it carries, whatever key it was found under.

**Results.**
* `Element.FieldListAt`: a field list stands at an address.
* `Element.FirstHole.exists_address`: the hole of the first field list has the least address.
* `Element.GetsFieldList.unique`: there is one place where a definition gets a field list.
* `Grammar.frame_addField`: what adding a field changes in a grammar, and what it leaves.
* `Grammar.frame_addField_alias`: under another key than its name a rule stays without the field.
-/

namespace SchemaGrammar

namespace Element

/-- A field list stands at an address; it is one element, or three elements of a sequence. -/
inductive FieldListAt : Element → List Nat → Nat → Prop
  | reference {name : String}
      (h : name = RuleName.fieldsDefinition ∨ name = RuleName.inputFieldsDefinition) :
      FieldListAt (.nonTerminal name) [] 1
  | braces {opening inner closing : Element}
      (hopening : opening.isToken "\x7b" = true)
      (hclosing : closing.isToken "\x7d" = true) :
      FieldListAt (.sequence [opening, .list inner, closing]) [] 1
  | run {before after : List Element} {opening inner closing : Element}
      (hopening : opening.isToken "\x7b" = true)
      (hclosing : closing.isToken "\x7d" = true) :
      FieldListAt (.sequence (before ++ opening :: .list inner :: closing :: after))
        [before.length] 3
  | child {e d : Element} {i width : Nat} {address : List Nat}
      (hchild : e.children[i]? = some d)
      (h : FieldListAt d address width) :
      FieldListAt e (i :: address) width

/-- The field list with the least address: no other one stands before it in pre-order. -/
structure FirstFieldListAt (e : Element) (address : List Nat) (width : Nat) : Prop where
  stands : e.FieldListAt address width
  first : ∀ other width', e.FieldListAt other width' → address ≤ other

def withChildren : Element → List Element → Element
  | .sequence _, es => .sequence es
  | .oneOf _, es => .oneOf es
  | .optional e, es => .optional (es.headD e)
  | .list e, es => .list (es.headD e)
  | e, _ => e

/-- The element in which one part stands for those from an address on. -/
def replaceAt (e x : Element) (width : Nat) : List Nat → Element
  | [] => x
  | [i] => e.withChildren (e.children.take i ++ x :: e.children.drop (i + width))
  | i :: j :: address =>
      e.withChildren (e.children.modify i fun d => d.replaceAt x width (j :: address))

/-- A definition gets a field list: in the place of its first one, or at its end. -/
inductive GetsFieldList (d x : Element) : Element → Prop
  | replaced {address : List Nat} {width : Nat}
      (h : d.FirstFieldListAt address width) :
      GetsFieldList d x (d.replaceAt x width address)
  | appended
      (h : ∀ address width, ¬ d.FieldListAt address width) :
      GetsFieldList d x (d.appended x)

section Bare

variable {e d : Element} {es before rest : List Element} {fill : Element → Element}

theorem FirstHole.not_bare
    (h : FirstHole e fill) :
    ¬ Bare e := by
  intro hbare
  have hsome := h.replaceContainer?_eq e
  rw [hbare e] at hsome
  cases hsome

theorem Bare.passes
    (h : Bare (.sequence es)) :
    Passes es [] := by
  have hwhole : isContainer (.sequence es) = false := by
    rw [← Bool.not_eq_true]
    exact fun hwhole => (FirstHole.here hwhole).not_bare h
  rcases sequence_cases fun e (_ : e ∈ es) => firstHole_or_bare e with hpasses |
    ⟨before, opening, inner, closing, after, rfl, hpasses, hopening, hclosing⟩ |
    ⟨before, d, after, fill, rfl, hpasses, hrun, hfill⟩
  · exact hpasses
  · exact absurd h (FirstHole.run hpasses hopening hclosing hwhole).not_bare
  · exact absurd h (FirstHole.sequence hpasses hrun hfill).not_bare

theorem Bare.of_mem_children
    (h : Bare e)
    (hd : d ∈ e.children) :
    Bare d := by
  cases e with
  | terminal | nonTerminal => cases hd
  | sequence es => exact h.passes.bare d hd
  | oneOf es =>
      rcases oneOf_cases fun e (_ : e ∈ es) => firstHole_or_bare e with hall |
        ⟨before, d', after, fill, rfl, hbefore, hfill⟩
      · exact hall d hd
      · exact absurd h (FirstHole.oneOf hbefore hfill).not_bare
  | optional e | list e =>
      obtain rfl := List.mem_singleton.mp hd
      rcases firstHole_or_bare d with ⟨fill, hfill⟩ | hbare
      · first
          | exact absurd h (FirstHole.optional hfill).not_bare
          | exact absurd h (FirstHole.list hfill).not_bare
      · exact hbare

/-- Among elements that are passed no field list begins. -/
theorem Passes.startsContainer_drop
    (h : Passes before rest)
    {i : Nat}
    (hi : i < before.length) :
    startsContainer ((before ++ rest).drop i) = false := by
  induction before generalizing i with
  | nil => simp at hi
  | cons e before ih =>
      obtain ⟨-, hstarts, hpasses⟩ := h
      cases i with
      | zero => exact hstarts
      | succ i => exact ih hpasses (by simpa using hi)

/-- An element with a field list is not bare. -/
theorem FieldListAt.not_bare
    {address : List Nat}
    {width : Nat}
    (h : FieldListAt e address width) :
    ¬ Bare e := by
  induction h with
  | reference h => exact (FirstHole.here (by simpa [isContainer] using h)).not_bare
  | braces hopening hclosing =>
      exact (FirstHole.here (by simp [isContainer, startsContainer, hopening, hclosing])).not_bare
  | @run before after opening inner closing hopening hclosing =>
      intro hbare
      have hnone := hbare.passes.startsContainer_drop (i := before.length) (by simp)
      simp [startsContainer, hopening, hclosing] at hnone
  | child hchild _ ih => exact fun hbare => ih (hbare.of_mem_children (List.mem_of_getElem? hchild))

end Bare

section Addresses

variable {e d x : Element} {before after rest : List Element} {address other : List Nat}
  {width width' : Nat} {fill : Element → Element}

theorem cons_le_cons
    {i j : Nat}
    (hle : i ≤ j)
    (h : i = j → address ≤ other) :
    i :: address ≤ j :: other := by
  rcases Nat.lt_or_eq_of_le hle with hlt | rfl
  · exact le_of_lt (List.cons_lt_cons_iff.mpr (.inl hlt))
  · rcases lt_or_eq_of_le (h rfl) with hlt | rfl
    · exact le_of_lt (List.cons_lt_cons_iff.mpr (.inr ⟨rfl, hlt⟩))
    · exact le_refl _

theorem FieldListAt.width_of_nil
    (h : FieldListAt e [] width) :
    width = 1 := by
  cases h <;> rfl

/-- In a sequence that is no field list itself, a field list stands behind what is passed. -/
theorem FieldListAt.behind
    (hpasses : Passes before rest)
    (hwhole : isContainer (.sequence (before ++ rest)) = false)
    (h : FieldListAt (.sequence (before ++ rest)) other width) :
    ∃ i below, other = i :: below ∧ before.length ≤ i ∧
      (i = before.length →
        (startsContainer rest = true ∧ below = []) ∨
          ∃ d, rest.head? = some d ∧ FieldListAt d below width) := by
  generalize heq : Element.sequence (before ++ rest) = whole at h
  cases h with
  | reference h => cases heq
  | braces hopening hclosing =>
      rw [heq] at hwhole
      simp [isContainer, startsContainer, hopening, hclosing] at hwhole
  | @run before' after opening inner closing hopening hclosing =>
      have hes := Element.sequence.inj heq
      have hdrop : startsContainer ((before ++ rest).drop before'.length) = true := by
        rw [hes]
        simp [startsContainer, hopening, hclosing]
      refine ⟨_, _, rfl, ?_, fun hlength => .inl ⟨?_, rfl⟩⟩
      · rw [← Nat.not_lt]
        intro hlt
        rw [hpasses.startsContainer_drop hlt] at hdrop
        cases hdrop
      · rwa [hlength, List.drop_left] at hdrop
  | @child _ d i _ below hchild h =>
      subst heq
      change (before ++ rest)[i]? = some d at hchild
      refine ⟨_, _, rfl, ?_, fun hlength => .inr ⟨d, ?_, h⟩⟩
      · rw [← Nat.not_lt]
        intro hlt
        rw [List.getElem?_append_left hlt] at hchild
        exact h.not_bare (hpasses.bare d (List.mem_of_getElem? hchild))
      · rw [hlength, List.getElem?_append_right (Nat.le_refl _), Nat.sub_self] at hchild
        rwa [List.head?_eq_getElem?]

/-- Replacing below a child replaces in the child. -/
theorem replaceAt_cons
    (hwidth : address = [] → width = 1)
    (hchildren : e.children = before ++ d :: after) :
    e.replaceAt x width (before.length :: address) =
      e.withChildren (before ++ d.replaceAt x width address :: after) := by
  cases address with
  | nil => simp [replaceAt, hwidth rfl, hchildren]
  | cons j address => simp [replaceAt, hchildren, List.modify_eq_take_drop]

/-- To replace something in the only part is to replace the part. -/
theorem replaceAt_only_child
    (hwidth : address = [] → width = 1)
    (hchildren : e.children = [d]) :
    e.replaceAt x width (0 :: address) = e.withChildren [d.replaceAt x width address] :=
  @replaceAt_cons e d x [] [] address width hwidth hchildren

/-- The element itself stands before all of its parts. -/
theorem nil_le
    (other : List Nat) :
    [] ≤ other :=
  not_lt.mp (List.not_lt_nil other)

theorem FirstHole.here_stands
    (h : isContainer e = true) :
    FieldListAt e [] 1 := by
  cases e with
  | nonTerminal name => exact .reference (by simpa [isContainer] using h)
  | sequence es =>
      obtain ⟨hlength, hstarts⟩ := (Bool.and_eq_true _ _).mp h
      obtain ⟨opening, inner, closing, rest, rfl, hopening, hclosing⟩ :=
        startsContainer_eq_true_iff.mp hstarts
      obtain rfl : rest = [] := by simpa using hlength
      exact .braces hopening hclosing
  | terminal | oneOf | optional | list => cases h

/-- The hole of the first field list is the place with the least address. -/
theorem FirstHole.exists_address
    (h : FirstHole e fill) :
    ∃ address width, FirstFieldListAt e address width ∧
      ∀ x, fill x = e.replaceAt x width address := by
  induction h with
  | here h => exact ⟨[], 1, ⟨here_stands h, fun other _ _ => nil_le other⟩, fun x => rfl⟩
  | run hbefore hopening hclosing hwhole =>
      refine ⟨_, 3, ⟨.run hopening hclosing, fun other width' hother => ?_⟩, fun x => ?_⟩
      · obtain ⟨i, below, rfl, hle, -⟩ := hother.behind hbefore hwhole
        exact cons_le_cons hle fun _ => nil_le below
      · simp [replaceAt, children, withChildren]
  | @sequence before after e fill hbefore hrun h ih =>
      obtain ⟨address, width, hfirst, hfill⟩ := ih
      have hwhole := isContainer_sequence_of_startsContainer (hbefore.startsContainer_append hrun)
      refine ⟨before.length :: address, width,
        ⟨.child (by simp [children]) hfirst.stands, ?_⟩, fun x => ?_⟩
      · intro other width' hother
        obtain ⟨i, below, rfl, hle, hat⟩ := hother.behind hbefore hwhole
        refine cons_le_cons hle fun heq => ?_
        rcases hat heq.symm with ⟨hstarts, -⟩ | ⟨d, hd, hbelow⟩
        · rw [hrun] at hstarts
          cases hstarts
        · cases hd
          exact hfirst.first below width' hbelow
      · rw [replaceAt_cons (fun h => (h ▸ hfirst.stands).width_of_nil) rfl, ← hfill]
        rfl
  | @oneOf before after e fill hbefore h ih =>
      obtain ⟨address, width, hfirst, hfill⟩ := ih
      refine ⟨before.length :: address, width,
        ⟨.child (by simp [children]) hfirst.stands, ?_⟩, fun x => ?_⟩
      · rintro other width' (_ | _ | _ | ⟨hchild, hbelow⟩)
        next d i below =>
          change (before ++ e :: after)[i]? = some d at hchild
          have hle : before.length ≤ i := by
            rw [← Nat.not_lt]
            intro hlt
            rw [List.getElem?_append_left hlt] at hchild
            exact hbelow.not_bare (hbefore d (List.mem_of_getElem? hchild))
          refine cons_le_cons hle fun heq => ?_
          subst heq
          obtain rfl : e = d := by simpa using hchild
          exact hfirst.first below width' hbelow
      · rw [replaceAt_cons (fun h => (h ▸ hfirst.stands).width_of_nil) rfl, ← hfill]
        rfl
  | @optional e fill h ih | @list e fill h ih =>
      obtain ⟨address, width, hfirst, hfill⟩ := ih
      refine ⟨0 :: address, width, ⟨.child rfl hfirst.stands, ?_⟩, fun x => ?_⟩
      · rintro other width' (_ | _ | _ | ⟨hchild, hbelow⟩)
        next d i below =>
          obtain ⟨rfl, rfl⟩ : i = 0 ∧ e = d := by
            cases i <;> simp [children] at hchild ⊢
            exact hchild
          exact cons_le_cons (Nat.le_refl 0) fun _ => hfirst.first below width' hbelow
      · have hwidth : address = [] → width = 1 := fun h => (h ▸ hfirst.stands).width_of_nil
        rw [replaceAt_only_child hwidth rfl, ← hfill]
        rfl

/-- Where a new field list is put. -/
theorem getsFieldList_withContainer
    (d x : Element) :
    d.GetsFieldList x (d.withContainer x) := by
  rcases firstHole_or_bare d with ⟨fill, hfill⟩ | hbare
  · obtain ⟨address, width, hfirst, hx⟩ := hfill.exists_address
    rw [hfill.withContainer, hx]
    exact .replaced hfirst
  · rw [hbare.withContainer]
    exact .appended fun address width h => h.not_bare hbare

end Addresses

section Uniqueness

variable {d x e e' : Element} {address address' : List Nat} {width width' : Nat}

/-- Below an element, a field list is three elements from a place on or stands in a child. -/
theorem FieldListAt.cases_cons
    {i : Nat}
    (h : FieldListAt d (i :: address) width) :
    (address = [] ∧ width = 3 ∧ startsContainer (d.children.drop i) = true) ∨
      ∃ child, d.children[i]? = some child ∧ FieldListAt child address width := by
  cases h with
  | run hopening hclosing => exact .inl ⟨rfl, rfl, by simp [children, startsContainer, *]⟩
  | child hchild h => exact .inr ⟨_, hchild, h⟩

/-- The three elements begin with a token, in which no field list stands. -/
theorem FieldListAt.startsContainer_drop
    {es : List Element}
    {i : Nat}
    (hchild : es[i]? = some d)
    (h : FieldListAt d address width) :
    startsContainer (es.drop i) = false := by
  obtain ⟨hi, hd⟩ := List.getElem?_eq_some_iff.mp hchild
  rw [List.drop_eq_getElem_cons hi, hd]
  refine startsContainer_cons_of_kind fun hkind => ?_
  cases d with
  | terminal name pattern =>
      rcases h with _ | _ | _ | ⟨hnone, -⟩
      simp [children] at hnone
  | _ => cases hkind

/-- Two field lists at one address are the same. -/
theorem FieldListAt.width_unique
    (h : FieldListAt d address width)
    (h' : FieldListAt d address width') :
    width = width' := by
  induction address generalizing d with
  | nil => rw [h.width_of_nil, h'.width_of_nil]
  | cons i address ih =>
      rcases h.cases_cons with ⟨rfl, rfl, hstarts⟩ | ⟨child, hchild, hbelow⟩
      · rcases h'.cases_cons with ⟨-, rfl, -⟩ | ⟨child', hchild', hbelow'⟩
        · rfl
        · rw [hbelow'.startsContainer_drop hchild'] at hstarts
          cases hstarts
      · rcases h'.cases_cons with ⟨-, -, hstarts⟩ | ⟨child', hchild', hbelow'⟩
        · rw [hbelow.startsContainer_drop hchild] at hstarts
          cases hstarts
        · rw [hchild] at hchild'
          cases hchild'
          exact ih hbelow hbelow'

/-- There is one first field list. -/
theorem FirstFieldListAt.unique
    (h : FirstFieldListAt d address width)
    (h' : FirstFieldListAt d address' width') :
    address = address' ∧ width = width' := by
  obtain rfl := le_antisymm (h.first _ _ h'.stands) (h'.first _ _ h.stands)
  exact ⟨rfl, h.stands.width_unique h'.stands⟩

theorem GetsFieldList.unique
    (h : GetsFieldList d x e)
    (h' : GetsFieldList d x e') :
    e = e' := by
  cases h with
  | replaced h =>
      cases h' with
      | replaced h' =>
          obtain ⟨rfl, rfl⟩ := h.unique h'
          rfl
      | appended h' => exact absurd h.stands (h' _ _)
  | appended h =>
      cases h' with
      | replaced h' => exact absurd h'.stands (h _ _)
      | appended => rfl

end Uniqueness

end Element

namespace Grammar

variable {g h : Grammar} {rule : Rule}

/-- A grammar and the one in which a rule has been stored under its name. -/
structure Stores (g h : Grammar) (rule : Rule) : Prop where
  rules : ∀ key, h.rule? key = if key = rule.name then some rule else g.rule? key
  keys : h.keys = if g.contains rule.name then g.keys else g.keys ++ [rule.name]
  root : h.root = g.root
  metadata : h.metadata = g.metadata

/-- Two grammars that differ in nothing but the rule under one key. -/
structure ChangesOnly (g h : Grammar) (key : String) (rule : Rule) : Prop where
  rule : h.rule? key = some rule
  others : ∀ other, other ≠ key → h.rule? other = g.rule? other
  keys : h.keys = g.keys
  root : h.root = g.root
  metadata : h.metadata = g.metadata

/-- A rule that is put in is stored, and nothing else is changed. -/
theorem stores_withRule
    (g : Grammar)
    (rule : Rule) :
    g.Stores (g.withRule rule) rule where
  rules := rule?_withRule g rule
  keys := by
    simp only [contains_iff_mem_keys]
    exact Table.keys_insert g.rules rule.name rule
  root := rfl
  metadata := rfl

/-- Storing a rule under a key that is there changes nothing but the rule under it. -/
theorem Stores.changesOnly
    (hstores : g.Stores h rule)
    (hkey : g.contains rule.name = true) :
    g.ChangesOnly h rule.name rule where
  rule := by rw [hstores.rules, if_pos rfl]
  others := fun other hne => by rw [hstores.rules, if_neg hne]
  keys := by rw [hstores.keys, if_pos hkey]
  root := hstores.root
  metadata := hstores.metadata

/-- **What adding a field changes.**  The new field list takes the place of the first one of the
rule, in pre-order, or its end, and the rule is stored under the name that it carries.  If it
has been found under that name, nothing else changes. -/
theorem frame_addField
    {o : FieldOptions}
    (hadd : g.addField o = .ok h) :
    ∃ rule field definition, g.rule? o.ruleName = some rule ∧ o.element = .ok field ∧
      rule.definition.GetsFieldList (.container field) definition ∧
      g.Stores h (rule.withDefinition definition) ∧
      (rule.name = o.ruleName →
        g.ChangesOnly h o.ruleName (rule.withDefinition definition)) := by
  obtain ⟨rule, field, hrule, hfield, rfl⟩ := addField_eq_ok_iff.mp hadd
  have hgets := rule.definition.getsFieldList_withContainer (.container field)
  refine ⟨rule, field, _, hrule, hfield, hgets, stores_withRule g _, fun hname => ?_⟩
  have hkey : g.contains o.ruleName = true := contains_eq_true_iff.mpr ⟨rule, hrule⟩
  rw [← hname] at hkey ⊢
  exact (stores_withRule g (rule.withDefinition _)).changesOnly hkey

def titleField : FieldOptions where
  ruleName := "Post"
  fieldName := "title"
  fieldType := "String"
  description := none
  arguments := []
  directives := []

theorem problems_titleField :
    titleField.problems = [] := by
  decide +kernel

/-- One rule, which refers to the fields of a post, with a name of its own. -/
def postGrammar (name : String) : Grammar where
  root := "Post"
  rules := Table.empty.insert "Post"
    ⟨name, .sequence [.token "post", .nonTerminal RuleName.fieldsDefinition]⟩
  metadata := none

theorem frame_addField_post :
    ∃ h, (postGrammar "Post").addField titleField = .ok h ∧
      ∃ rule field definition,
        (postGrammar "Post").rule? titleField.ruleName = some rule ∧
          titleField.element = .ok field ∧
          rule.definition.GetsFieldList (.container field) definition ∧
          (postGrammar "Post").Stores h (rule.withDefinition definition) ∧
          (rule.name = titleField.ruleName →
            (postGrammar "Post").ChangesOnly h titleField.ruleName
              (rule.withDefinition definition)) := by
  obtain ⟨h, hadd⟩ := exists_addField_of_contains (g := postGrammar "Post") problems_titleField rfl
  exact ⟨h, hadd, frame_addField hadd⟩

/-- Under a key that is not its name, the rule stays without the field, and the rule with the
field is a new one. -/
theorem frame_addField_alias :
    ∃ h, (postGrammar "Article").addField titleField = .ok h ∧
      h.rule? "Post" = (postGrammar "Article").rule? "Post" ∧
      h.keys = ["Post", "Article"] ∧
      ¬ ∃ rule, (postGrammar "Article").ChangesOnly h titleField.ruleName rule := by
  obtain ⟨h, hadd⟩ :=
    exists_addField_of_contains (g := postGrammar "Article") problems_titleField rfl
  obtain ⟨rule, field, hrule, hfield, rfl⟩ := addField_eq_ok_iff.mp hadd
  obtain rfl := Option.some.inj hrule
  refine ⟨_, hadd, rfl, rfl, ?_⟩
  rintro ⟨rule, hchanges⟩
  have hkeys : ["Post", "Article"] = ["Post"] := hchanges.keys
  simp at hkeys

end Grammar

end SchemaGrammar
