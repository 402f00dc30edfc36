import SchemaGrammar.Grammar.Decode
import SchemaGrammar.Proofs.Json.Decoding

/-!
# Structured forms of elements

A value is a form of an element if it is its structured form up to the order of members: the
tag may stand anywhere among the fields.  Sorting a form gives a form, and a decoder of elements
takes every form, also where it looks at values that have been set aside.

**Results.**
* `Element.form_toJson`, `Element.Form.sorted`: what is written is a form, sorted or not.
* `Element.Form.takes`: forms of elements are read back.
-/

namespace SchemaGrammar

namespace Pattern

def regexMembers (source flags : String) : List (String × Json) :=
  ("source", .str source) :: if flags.isEmpty then [] else [("flags", .str flags)]

/-- A value is a form of a pattern. -/
inductive Form : Pattern → Json → Prop
  | literal (text : String) : Form (.literal text) (.str text)
  | regex {source flags : String} {ms : List (String × Json)} :
      ms.Perm (regexMembers source flags) →
      Form (.regex source flags) (.obj ms)

variable {p : Pattern} {v : Json}

/-- A pattern is written in one of its forms. -/
theorem form_toJson
    (p : Pattern) :
    p.Form p.toJson := by
  cases p with
  | literal text => exact .literal text
  | regex source flags => exact .regex (.refl _)

theorem nodup_regexMembers
    (source flags : String) :
    ((regexMembers source flags).map Prod.fst).Nodup := by
  unfold regexMembers
  split <;> simp

theorem Form.sorted
    (h : p.Form v) :
    p.Form v.sorted := by
  cases h with
  | literal text => exact .literal text
  | @regex source flags ms hms =>
      have hperm := Json.perm_sortMembers_of_perm hms (nodup_regexMembers source flags)
      have hsame : (regexMembers source flags).map (fun m => (m.1, m.2.sorted)) =
          regexMembers source flags := by
        unfold regexMembers
        split <;> rfl
      rw [hsame] at hperm
      exact .regex hperm

/-- A regular expression is taken from its members in any order. -/
theorem takes_regexShape
    {source flags : String}
    {ms : List (String × Json)}
    (hms : ms.Perm (regexMembers source flags)) :
    regexShape.decode.Takes (.obj ms) (source, flags) := by
  have hsource : regexShape.TakesMember ("source", .str source) fun p => (source, p.2) :=
    ⟨_, rfl, (Decoder.takes_string source).map _⟩
  have hflags : regexShape.TakesMember ("flags", .str flags) fun p => (p.1, flags) :=
    ⟨_, rfl, (Decoder.takes_string flags).map _⟩
  unfold regexMembers at hms
  split at hms
  · next hempty =>
      rw [String.isEmpty_iff.mp hempty]
      exact Shape.takes_obj hms (.cons hsource .nil) (by simp)
        (by simp [regexShape, Field.mandatory, Field.withDefault]) (by simp)
  · exact Shape.takes_obj hms (.cons hsource (.cons hflags .nil)) (by simp)
      (by simp [regexShape, Field.mandatory, Field.withDefault]) (by simp)

theorem Form.ofBuffer
    (h : p.Form v) :
    ofBuffer v = .ok p := by
  cases h with
  | literal text => rfl
  | regex hms =>
      have hread := (takes_regexShape hms).ofBuffer
      rw [Pattern.ofBuffer]
      · rw [hread]
      · intro text htext
        cases htext

theorem Form.ne_null
    (h : p.Form v) :
    v ≠ .null := by
  cases h <;> simp

/-- Every form of a pattern is read back. -/
theorem Form.takes
    (h : p.Form v) :
    decoder.Takes v p := by
  intro r d hd
  rw [decoder, Decoder.takes_json v r hd]
  exact Allowance.grant_bind_ok h.ofBuffer

theorem integral_toJson
    (p : Pattern) :
    p.toJson.Integral := by
  cases p with
  | literal text => trivial
  | regex source flags =>
      have hmembers : ∀ m ∈ regexMembers source flags, m.2.Integral := by
        unfold regexMembers
        split <;> simp [Json.Integral]
      exact Json.integralMembers_iff.mpr hmembers

end Pattern

namespace Element

section Tags

def tag (kind : Kind) : String × Json := ("kind", .str kind.name)

theorem takes_kindDecoder
    (kind : Kind) :
    Decoder.Takes kindDecoder (.str kind.name) kind := by
  rintro r _ (_ | _ | _ | hlit)
  have hname : Kind.ofName? kind.name = some kind := by cases kind <;> decide
  rw [kindDecoder, hlit]
  refine Eq.trans (pure_bind kind.name _) ?_
  rw [hname]
  exact (r.allowance.grant_zero _ _).symm

variable {r : Reading} {ds : List (StringLit × Doc)} {ms : List (String × Json)}

/-- Without a tag all members are set aside. -/
theorem splitTag_untagged
    (hds : Doc.MembersStandFor ds ms)
    (hms : "kind" ∉ ms.map Prod.fst)
    (kind : Option Kind) :
    splitTag r kind ds =
      r.allowance.grant (.malformed .tooDeep) (Json.membersDepth ms) (kind, ms) := by
  induction ms generalizing ds with
  | nil =>
      cases hds
      exact (r.allowance.grant_zero _ _).symm
  | cons m ms ih =>
      rw [List.map_cons, List.mem_cons, not_or] at hms
      obtain ⟨hne, hrest⟩ := hms
      cases hds with
      | cons hkey hd hds =>
          rw [splitTag, hkey]
          change (if _ = "kind" then _ else _) = _
          rw [if_neg (Ne.symm hne), Decoder.takes_json _ r hd, ih hds hrest]
          exact Allowance.grant_bind (Allowance.grant_bind_ok rfl)

theorem filter_untagged
    (hms : "kind" ∉ ms.map Prod.fst) :
    ms.filter (·.1 != "kind") = ms := by
  refine List.filter_eq_self.mpr fun m hm => ?_
  have hne : m.1 ≠ "kind" := fun h => hms (h ▸ List.mem_map_of_mem hm)
  simpa using hne

/-- The tag is found wherever it stands. -/
theorem splitTag_tagged
    {kind : Kind}
    (hds : Doc.MembersStandFor ds ms)
    (hkeys : (ms.map Prod.fst).Nodup)
    (htag : tag kind ∈ ms) :
    splitTag r none ds = r.allowance.grant (.malformed .tooDeep) (Json.membersDepth ms)
      (some kind, ms.filter (·.1 != "kind")) := by
  induction ms generalizing ds with
  | nil => simp at htag
  | cons m ms ih =>
      rw [List.map_cons, List.nodup_cons] at hkeys
      obtain ⟨hnew, hkeys⟩ := hkeys
      cases hds with
      | @cons _ key _ v _ _ hkey hd hds =>
          rw [splitTag, hkey]
          change (if key = "kind" then _ else _) = _
          rcases List.mem_cons.mp htag with heq | hmem
          · cases heq
            have hrest := splitTag_untagged (r := r) hds hnew (some kind)
            rw [if_pos rfl, takes_kindDecoder kind r hd, List.filter_cons_of_neg (by simp),
              filter_untagged hnew]
            exact Allowance.grant_bind hrest
          · have hne : key ≠ "kind" := by
              rintro rfl
              exact hnew (List.mem_map.mpr ⟨tag kind, hmem, rfl⟩)
            rw [if_neg hne, Decoder.takes_json v r hd, ih hds hkeys hmem,
              List.filter_cons_of_pos (by simpa using hne)]
            exact Allowance.grant_bind (Allowance.grant_bind_ok rfl)

/-- A tagged value is taken if its element is built from the other members in any order. -/
theorem takes_taggedDecoder
    {build : Kind → Json → Decoded Element}
    {kind : Kind}
    {fields : List (String × Json)}
    {e : Element}
    (hms : ms.Perm (tag kind :: fields))
    (hkeys : ((tag kind :: fields).map Prod.fst).Nodup)
    (hbuild : ∀ rest, rest.Perm fields → build kind (.obj rest) = .ok e) :
    (taggedDecoder build).Takes (.obj ms) e := by
  have hnodup : (ms.map Prod.fst).Nodup := (hms.map Prod.fst).nodup_iff.mpr hkeys
  have htag : tag kind ∈ ms := hms.mem_iff.mpr List.mem_cons_self
  have hrest : (ms.filter (·.1 != "kind")).Perm fields := by
    rw [List.map_cons, List.nodup_cons] at hkeys
    have hfilter := hms.filter (·.1 != "kind")
    rwa [List.filter_cons_of_neg (by simp [tag]), filter_untagged hkeys.1] at hfilter
  rintro r _ (_ | _ | _ | _ | _ | hds)
  refine Reading.enter_bind fun inner => ?_
  rw [splitTag_tagged hds hnodup htag]
  exact Allowance.grant_bind_ok (hbuild _ hrest)

end Tags

mutual

/-- A value is a form of an element: the tag and the fields in some order. -/
inductive Form : Element → Json → Prop
  | tagged {e : Element} {kind : Kind} {fields ms : List (String × Json)} :
      Fields e kind fields →
      ms.Perm (tag kind :: fields) →
      Form e (.obj ms)

/-- The fields of an element and its kind. -/
inductive Fields : Element → Kind → List (String × Json) → Prop
  | terminal (name : String) : Fields (.terminal name none) .terminal [("name", .str name)]
  | pattern (name : String) {p : Pattern} {v : Json} :
      p.Form v →
      Fields (.terminal name (some p)) .terminal [("name", .str name), ("pattern", v)]
  | nonTerminal (name : String) : Fields (.nonTerminal name) .nonTerminal [("name", .str name)]
  | sequence {es : List Element} {vs : List Json} :
      ItemForms es vs →
      Fields (.sequence es) .sequence [("elements", .arr vs)]
  | oneOf {es : List Element} {vs : List Json} :
      ItemForms es vs →
      Fields (.oneOf es) .oneOf [("options", .arr vs)]
  | optional {e : Element} {v : Json} :
      Form e v →
      Fields (.optional e) .optional [("element", v)]
  | list {e : Element} {v : Json} :
      Form e v →
      Fields (.list e) .list [("element", v)]

/-- The values are forms of the elements, one for each. -/
inductive ItemForms : List Element → List Json → Prop
  | nil : ItemForms [] []
  | cons {e : Element} {es : List Element} {v : Json} {vs : List Json} :
      Form e v →
      ItemForms es vs →
      ItemForms (e :: es) (v :: vs)

end

section Shapes

variable {nested : Decoder Element} {name : String} {rest : List (String × Json)}

theorem takesMember_name :
    (shape nested .terminal).TakesMember ("name", .str name) fun e =>
      match e with
      | .terminal _ p => .terminal name p
      | e => e :=
  ⟨_, rfl, (Decoder.takes_string name).map _⟩

theorem takesMember_pattern
    {p : Pattern}
    {v : Json}
    (hp : p.Form v) :
    (shape nested .terminal).TakesMember ("pattern", v) fun e =>
      match e with
      | .terminal n _ => .terminal n (some p)
      | e => e :=
  ⟨_, rfl, (hp.takes.optional hp.ne_null).map _⟩

theorem required_terminal
    (ms : List (String × Json)) :
    ∀ field ∈ (shape nested .terminal).fields, field.required = true →
      field.name ∈ (("name", .str name) :: ms).map Prod.fst := by
  intro field hfield hrequired
  rcases List.mem_cons.mp hfield with rfl | hfield
  · exact List.mem_cons_self
  · cases List.mem_singleton.mp hfield
    cases hrequired

/-- A terminal without a pattern is taken from its name. -/
theorem takes_terminal
    (hrest : rest.Perm [("name", .str name)]) :
    (shape nested .terminal).decode.Takes (.obj rest) (.terminal name none) :=
  Shape.takes_obj hrest (.cons takesMember_name .nil) (by simp) (required_terminal []) (by simp)

/-- A terminal with a pattern is taken from both members, in any order. -/
theorem takes_patterned
    {p : Pattern}
    {v : Json}
    (hp : p.Form v)
    (hrest : rest.Perm [("name", .str name), ("pattern", v)]) :
    (shape nested .terminal).decode.Takes (.obj rest) (.terminal name (some p)) := by
  refine Shape.takes_obj hrest (.cons takesMember_name (.cons (takesMember_pattern hp) .nil))
    (by simp) (required_terminal _) ?_
  intro f hf g hg e
  simp only [List.mem_cons, List.not_mem_nil, or_false] at hf hg
  rcases hf with rfl | rfl <;> rcases hg with rfl | rfl <;> cases e <;> rfl

theorem takes_nonTerminal
    (hrest : rest.Perm [("name", .str name)]) :
    (shape nested .nonTerminal).decode.Takes (.obj rest) (.nonTerminal name) := by
  have hfields : (shape nested .nonTerminal).fields =
      [.mandatory "name" .string fun name _ => .nonTerminal name] := rfl
  exact Shape.takes_single hfields (Decoder.takes_string name) hrest

/-- A sequence is taken from its elements. -/
theorem takes_sequence
    {vs : List Json}
    {es : List Element}
    (hes : List.Forall₂ nested.Takes vs es)
    (hrest : rest.Perm [("elements", .arr vs)]) :
    (shape nested .sequence).decode.Takes (.obj rest) (.sequence es) := by
  have hfields : (shape nested .sequence).fields =
      [.mandatory "elements" (.list nested) fun es _ => .sequence es] := rfl
  exact Shape.takes_single hfields (Decoder.takes_list hes) hrest

theorem takes_oneOf
    {vs : List Json}
    {es : List Element}
    (hes : List.Forall₂ nested.Takes vs es)
    (hrest : rest.Perm [("options", .arr vs)]) :
    (shape nested .oneOf).decode.Takes (.obj rest) (.oneOf es) := by
  have hfields : (shape nested .oneOf).fields =
      [.mandatory "options" (.list nested) fun es _ => .oneOf es] := rfl
  exact Shape.takes_single hfields (Decoder.takes_list hes) hrest

theorem takes_optional
    {v : Json}
    {e : Element}
    (he : nested.Takes v e)
    (hrest : rest.Perm [("element", v)]) :
    (shape nested .optional).decode.Takes (.obj rest) (.optional e) := by
  have hfields : (shape nested .optional).fields =
      [.mandatory "element" nested fun e _ => .optional e] := rfl
  exact Shape.takes_single hfields he hrest

theorem takes_list
    {v : Json}
    {e : Element}
    (he : nested.Takes v e)
    (hrest : rest.Perm [("element", v)]) :
    (shape nested .list).decode.Takes (.obj rest) (.list e) := by
  have hfields : (shape nested .list).fields =
      [.mandatory "element" nested fun e _ => .list e] := rfl
  exact Shape.takes_single hfields he hrest

end Shapes

section Forms

theorem Fields.nodup_keys
    {e : Element}
    {kind : Kind}
    {fields : List (String × Json)}
    (h : Fields e kind fields) :
    ((tag kind :: fields).map Prod.fst).Nodup := by
  cases h <;> simp [tag]

mutual

/-- The structured form of an element is a form of it. -/
theorem form_toJson : ∀ e : Element, e.Form e.toJson
  | .terminal name none => .tagged (.terminal name) (.refl _)
  | .terminal name (some p) => .tagged (.pattern name p.form_toJson) (.refl _)
  | .nonTerminal name => .tagged (.nonTerminal name) (.refl _)
  | .sequence es => .tagged (.sequence (itemForms_toJson es)) (.refl _)
  | .oneOf es => .tagged (.oneOf (itemForms_toJson es)) (.refl _)
  | .optional e => .tagged (.optional (form_toJson e)) (.refl _)
  | .list e => .tagged (.list (form_toJson e)) (.refl _)

theorem itemForms_toJson : ∀ es : List Element, ItemForms es (listToJson es)
  | [] => .nil
  | e :: es => .cons (form_toJson e) (itemForms_toJson es)

end

mutual

/-- Sorting a form gives a form. -/
theorem Form.sorted : ∀ {e : Element} {v : Json}, e.Form v → e.Form v.sorted
  | _, _, .tagged hfields hms => by
      have hperm := Json.perm_sortMembers_of_perm hms hfields.nodup_keys
      exact .tagged hfields.sorted hperm

theorem Fields.sorted :
    ∀ {e : Element} {kind : Kind} {fields : List (String × Json)}, Fields e kind fields →
      Fields e kind (fields.map fun m => (m.1, m.2.sorted))
  | _, _, _, .terminal name => .terminal name
  | _, _, _, .pattern name hp => .pattern name hp.sorted
  | _, _, _, .nonTerminal name => .nonTerminal name
  | _, _, _, .sequence hes => .sequence hes.sorted
  | _, _, _, .oneOf hes => .oneOf hes.sorted
  | _, _, _, .optional he => .optional he.sorted
  | _, _, _, .list he => .list he.sorted

theorem ItemForms.sorted :
    ∀ {es : List Element} {vs : List Json}, ItemForms es vs → ItemForms es (Json.sortItems vs)
  | _, _, .nil => .nil
  | _, _, .cons he hes => .cons he.sorted hes.sorted

end

mutual

/-- The fields of an element that have been set aside are read back. -/
theorem Fields.ofFields :
    ∀ {e : Element} {kind : Kind} {fields rest : List (String × Json)} {levels : Nat},
      Fields e kind fields → rest.Perm fields → Json.membersDepth fields ≤ levels →
        ofFields (levels + 1) kind (.obj rest) = .ok e
  | _, _, _, _, _, .terminal _, hrest, _ => by
      rw [Element.ofFields]
      exact (takes_terminal hrest).ofBuffer
  | _, _, _, _, _, .pattern _ hp, hrest, _ => by
      rw [Element.ofFields]
      exact (takes_patterned hp hrest).ofBuffer
  | _, _, _, _, _, .nonTerminal _, hrest, _ => by
      rw [Element.ofFields]
      exact (takes_nonTerminal hrest).ofBuffer
  | _, _, _, _, _, .sequence hes, hrest, hlevels => by
      have hnested := hes.takes_ofFields (Nat.le_of_succ_le (Nat.max_le.mp hlevels).1)
      rw [Element.ofFields]
      exact (takes_sequence hnested hrest).ofBuffer
  | _, _, _, _, _, .oneOf hes, hrest, hlevels => by
      have hnested := hes.takes_ofFields (Nat.le_of_succ_le (Nat.max_le.mp hlevels).1)
      rw [Element.ofFields]
      exact (takes_oneOf hnested hrest).ofBuffer
  | _, _, _, _, _, .optional he, hrest, hlevels => by
      have hnested := he.takes_ofFields (Nat.max_le.mp hlevels).1
      rw [Element.ofFields]
      exact (takes_optional hnested hrest).ofBuffer
  | _, _, _, _, _, .list he, hrest, hlevels => by
      have hnested := he.takes_ofFields (Nat.max_le.mp hlevels).1
      rw [Element.ofFields]
      exact (takes_list hnested hrest).ofBuffer

/-- Elements inside another one are read at a bounded depth. -/
theorem Form.takes_ofFields : ∀ {e : Element} {v : Json} {levels : Nat},
    e.Form v → v.depth ≤ levels → (taggedDecoder (Element.ofFields levels)).Takes v e
  | _, _, 0, .tagged _ _, hlevels => absurd hlevels (Nat.not_succ_le_zero _)
  | _, _, levels + 1, .tagged hfields hms, hlevels => by
      rw [Json.depth, Json.membersDepth_perm hms] at hlevels
      have hdepth := (Nat.max_le.mp (Nat.le_of_succ_le_succ hlevels)).2
      exact takes_taggedDecoder hms hfields.nodup_keys fun _ hrest => hfields.ofFields hrest hdepth

/-- Elements are taken from their forms, if those are not too deep. -/
theorem ItemForms.takes_ofFields : ∀ {es : List Element} {vs : List Json} {levels : Nat},
    ItemForms es vs → Json.itemsDepth vs ≤ levels →
      List.Forall₂ (taggedDecoder (Element.ofFields levels)).Takes vs es
  | _, _, _, .nil, _ => .nil
  | _, _, _, .cons he hes, hlevels =>
      .cons (he.takes_ofFields (Nat.max_le.mp hlevels).1)
        (hes.takes_ofFields (Nat.max_le.mp hlevels).2)

end

/-- Every form of an element is read back. -/
theorem Form.takes
    {e : Element}
    {v : Json}
    (h : e.Form v) :
    decoder.Takes v e := by
  obtain ⟨hfields, hms⟩ := h
  refine takes_taggedDecoder hms hfields.nodup_keys fun rest hrest => ?_
  have hdepth : (Json.obj rest).depth = Json.membersDepth rest + 1 := rfl
  rw [hdepth, ← Json.membersDepth_perm hrest.symm]
  exact hfields.ofFields hrest (Nat.le_succ _)

end Forms

mutual

/-- No numbers stand in the structured form of an element. -/
theorem integral_toJson : ∀ e : Element, e.toJson.Integral
  | .terminal _ none => ⟨trivial, trivial, trivial⟩
  | .terminal _ (some p) => ⟨trivial, trivial, p.integral_toJson, trivial⟩
  | .nonTerminal _ => ⟨trivial, trivial, trivial⟩
  | .sequence es => ⟨trivial, integralItems_listToJson es, trivial⟩
  | .oneOf es => ⟨trivial, integralItems_listToJson es, trivial⟩
  | .optional e => ⟨trivial, integral_toJson e, trivial⟩
  | .list e => ⟨trivial, integral_toJson e, trivial⟩

theorem integralItems_listToJson : ∀ es : List Element, Json.IntegralItems (listToJson es)
  | [] => trivial
  | e :: es => ⟨integral_toJson e, integralItems_listToJson es⟩

end

end Element

end SchemaGrammar
